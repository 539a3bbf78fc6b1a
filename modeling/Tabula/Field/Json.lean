import Tabula.Field.Kind
import Tabula.Json

/-! Field kinds, fields and nodes as JSON. A kind is written as an object whose `type` entry names it,
and is also read from a list that begins with that name and goes on with the settings in their order. -/
namespace Tabula

def Id.json {entity : Entity} (id : Id entity) : Json := .natural id.val.toNat

def Id.ofJson? {entity : Entity} (json : Json) : Option (Id entity) := json.word64?.map Id.mk

def DateStyle.name : DateStyle → String
  | .eu => "EU"
  | .us => "US"
  | .iso => "ISO"

def DateStyle.ofJson? (json : Json) : Option DateStyle :=
  json.innerUnit?.bind fun name => [DateStyle.eu, .us, .iso].find? (·.name = name)

def ClockStyle.name : ClockStyle → String
  | .hours24 => "24"
  | .hours12 => "12"

def ClockStyle.ofJson? (json : Json) : Option ClockStyle :=
  json.innerUnit?.bind fun name => [ClockStyle.hours24, .hours12].find? (·.name = name)

namespace NumberFormat

def entries (format : NumberFormat) : List (String × Json) :=
  [("decimal_places", .natural format.places.toNat), ("negative", .bool format.negative)]

def ofJson? (json : Json) : Option NumberFormat := do
  let entries ← json.parts? ["decimal_places", "negative"]
  let places ← Json.optional entries "decimal_places" 0 Json.word32?
  let negative ← Json.optional entries "negative" false Json.bool?
  return { places, negative }

end NumberFormat

namespace DateFormat

def entries (format : DateFormat) : List (String × Json) :=
  [("format", .text format.style.name), ("include_time", .bool format.includeTime),
    ("time_format", .text format.clock.name)]

def ofJson? (json : Json) : Option DateFormat := do
  let entries ← json.parts? ["format", "include_time", "time_format"]
  let style ← Json.optional entries "format" .eu DateStyle.ofJson?
  let includeTime ← Json.optional entries "include_time" false Json.bool?
  let clock ← Json.optional entries "time_format" .hours24 ClockStyle.ofJson?
  return { style, includeTime, clock }

end DateFormat

namespace SelectOption

def json (choice : SelectOption) : Json :=
  .object [("id", choice.id.json), ("value", .text choice.value), ("color", .text choice.color)]

def ofJson? (json : Json) : Option SelectOption := do
  let entries ← json.parts? ["id", "value", "color"]
  let id ← Json.required entries "id" Id.ofJson?
  let value ← Json.required entries "value" Json.text?
  let color ← Json.required entries "color" Json.text?
  return { id, value, color }

def listJson (choices : List SelectOption) : Json := .list (choices.map json)

def listOfJson? (json : Json) : Option (List SelectOption) := do
  (← json.items?).mapM ofJson?

end SelectOption

def tagged (tag : FieldTag) (entries : List (String × Json)) : Json :=
  .object (("type", .text tag.name) :: entries)

namespace ResultType

def json : ResultType → Json
  | text => tagged .text []
  | number format => tagged .number format.entries
  | boolean => tagged .boolean []
  | date format => tagged .date format.entries

def ofTagged? (tag? : Json → Option FieldTag) (json : Json) : Option ResultType := do
  let (tag, contents) ← json.tagged?
  match ← tag? tag with
  | .text => (contents.parts? []).map fun _ => text
  | .number => (NumberFormat.ofJson? contents).map number
  | .boolean => (contents.parts? []).map fun _ => boolean
  | .date => (DateFormat.ofJson? contents).map date
  | _ => none

/-- A result that stands alone is tagged with its name. -/
def ofJson? : Json → Option ResultType := ofTagged? fun tag => tag.text?.bind FieldTag.ofName?

def tags : List FieldTag := [.text, .number, .boolean, .date]

/-- Inside the settings of a field a result may also be tagged with its position in `tags`. -/
def ofInnerJson? : Json → Option ResultType := ofTagged? fun
  | .text name => FieldTag.ofName? name
  | tag => tag.natural?.bind fun position => tags[position]?

end ResultType

namespace FieldKind

def cellEntries : CellType → List (String × Json)
  | .text initial => [("text_default", Json.ofNullable .text initial)]
  | .number format => format.entries
  | .date format => format.entries
  | .singleSelect choices | .multipleSelect choices => [("options", SelectOption.listJson choices)]
  | .linkRow target => [("link_table_id", target.json)]
  | .ai prompt => [("prompt", .text prompt)]
  | .longText | .boolean | .file | .phoneNumber => []

def json : FieldKind → Json
  | stored type => tagged type.tag (cellEntries type)
  | computed formula result =>
    tagged .formula [("formula", .text formula), ("result", result.json)]

def setting? {α : Type} (contents : Json) (key : String)
    (read : List (String × Json) → String → Option α) : Option α := do
  read (← contents.parts? [key]) key

/-- Unknown entries count for nothing; an entry with a default may be missing. -/
def ofJson? (json : Json) : Option FieldKind := do
  let (tag, contents) ← json.tagged?
  let choices := setting? contents "options" (Json.optional · · [] SelectOption.listOfJson?)
  let bare (type : CellType) := (contents.parts? []).map fun _ => stored type
  match ← FieldTag.ofName? (← tag.text?) with
  | .text =>
    let initial? := setting? contents "text_default" (Json.optional · · none (Json.nullable? Json.text?))
    initial?.map (stored ∘ .text)
  | .longText => bare .longText
  | .number => (NumberFormat.ofJson? contents).map (stored ∘ .number)
  | .boolean => bare .boolean
  | .date => (DateFormat.ofJson? contents).map (stored ∘ .date)
  | .file => bare .file
  | .singleSelect => choices.map (stored ∘ .singleSelect)
  | .multipleSelect => choices.map (stored ∘ .multipleSelect)
  | .linkRow =>
    (setting? contents "link_table_id" (Json.required · · Id.ofJson?)).map (stored ∘ .linkRow)
  | .formula => do
    let entries ← contents.parts? ["formula", "result"]
    let formula ← Json.required entries "formula" Json.text?
    let result ← Json.required entries "result" ResultType.ofInnerJson?
    some (computed formula result)
  | .phoneNumber => bare .phoneNumber
  | .ai => (setting? contents "prompt" (Json.optional · · "" Json.text?)).map (stored ∘ .ai)

end FieldKind

def Field.json (field : Field) : Json :=
  .object [("id", field.id.json), ("table_id", field.table.json), ("name", .text field.name),
    ("order", .natural field.order.toNat), ("primary", .bool field.primary), ("kind", field.kind.json)]

namespace Node

def json : Node → Json
  | workspace id => .object [("Workspace", id.json)]
  | database id => .object [("Database", id.json)]
  | table id => .object [("Table", id.json)]
  | row tableId rowId =>
    .object [("Row", .object [("table_id", tableId.json), ("row_id", rowId.json)])]

def ofJson? (json : Json) : Option Node := do
  match ← json.variant? with
  | ("Workspace", some contents) => (Id.ofJson? contents).map workspace
  | ("Database", some contents) => (Id.ofJson? contents).map database
  | ("Table", some contents) => (Id.ofJson? contents).map table
  | ("Row", some contents) => do
    let entries ← contents.entries?
    let tableId ← Json.required entries "table_id" Id.ofJson?
    let rowId ← Json.required entries "row_id" Id.ofJson?
    some (row tableId rowId)
  | _ => none

end Node
end Tabula
