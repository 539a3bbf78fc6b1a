import Tabula.Calendar.Text
import Tabula.Cell.Display
import Tabula.Cell.Flag
import Tabula.Json
import Tabula.Row.Basic

/-! Rows as read through a schema. -/
namespace Tabula

structure Record where
  schema : Schema
  row : Row
  deriving Repr

def choiceJson (column : Column) (id : OptionId) : Json :=
  Json.ofNullable SelectOption.json (column.field.type.choice? id)

def Attachment.json (file : Attachment) : Json :=
  .object [("name", .text file.name), ("visible_name", .text file.visibleName)]

def cellJson (column : Column) : Value → Json
  | .null => .null
  | .bool flag => .bool flag
  | .number amount => .text amount.text
  | .text content => .text content
  | .day date => .text (String.ofList (Calendar.plainChars date.civil))
  | .instant time => Json.ofNullable .text (Calendar.stampText? time)
  | .option chosen => choiceJson column chosen
  | .options chosen => .list (chosen.map (choiceJson column))
  | .files attachments => .list (attachments.map Attachment.json)
  | .links rows => .list (rows.map fun id => .object [("id", id.json)])

namespace Record

variable (record : Record)

def id : RowId := record.row.id

def valueOf (column : Column) : Value := record.row.cell column

def get? (name : String) : Option Value := (record.schema.resolve? name).map record.valueOf

def stable? (name : String) : Option Value := (record.schema.stable? name).map record.valueOf

def attribute? (name : String) : Option Value := (record.schema.attribute? name).map record.valueOf

def field? (id : FieldId) : Option Value := (record.schema.column? id).map record.valueOf

def values : List (String × Value) :=
  record.schema.columns.map fun column => (record.schema.keyOf column, record.valueOf column)

def primaryText? : Option String := do
  let column ← record.schema.primaryColumn?
  match record.valueOf column with
  | .bool flag => some (flagText flag)
  | value => column.field.searchText value

/-- The text of the primary cell, or the row's number where that is missing or empty. -/
def display : String :=
  match record.primaryText?.filter (!·.isEmpty) with
  | some text => text
  | none => "unnamed row " ++ record.id.text

def displayFault? : Option Fault := do
  let column ← record.schema.primaryColumn?
  column.field.textFault? (record.valueOf column)

def checkedDisplay : Except Fault String := unlessFault record.displayFault? record.display

def node : Node := .row record.schema.table record.id

def parent : Node := .table record.schema.table

def json : Json :=
  .ofEntries ([("id", record.id.json), ("order", .text record.row.order.text)] ++
    record.schema.columns.map fun column =>
      (record.schema.keyOf column, cellJson column (record.valueOf column)))

end Record
end Tabula
