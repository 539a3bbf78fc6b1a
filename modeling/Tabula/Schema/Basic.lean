import Tabula.Catalog.Table
import Tabula.Cell.Spec
import Tabula.Schema.Naming
import Tabula.Schema.System

/-! Schemas: the columns through which the rows of one table are read and written. -/
namespace Tabula

structure Column where
  field : Field
  attributeName : String
  deriving DecidableEq, Repr

namespace Column

def id (column : Column) : FieldId := column.field.id

def stableName (column : Column) : String := column.field.stableName

def spec (column : Column) : ColumnSpec := column.field.kind.spec

end Column

/-- `fields` asks for some of the fields. `fieldIds` asks for fields too, and allows only these in
filters and orderings. With neither, a schema has all fields. -/
structure ComposeOptions where
  fields : Option (List FieldId) := none
  fieldIds : Option (List FieldId) := none
  attributeNames : Bool := false
  reservedNames : List String := []
  deriving DecidableEq, Repr

namespace ComposeOptions

def selected? (options : ComposeOptions) : Option (List FieldId) :=
  match options.fields, options.fieldIds with
  | none, none => none
  | fields, fieldIds => some (fields.getD [] ++ fieldIds.getD [])

def isReserved (options : ComposeOptions) (name : String) : Bool :=
  name ∈ SystemColumn.reservedNames || name ∈ options.reservedNames

end ComposeOptions

/-- Where columns stand, by a key. Of columns with one key the last is found. -/
def lastPositions {κ : Type} (key : Column → κ) (columns : List Column) : List (κ × Nat) :=
  columns.zipIdx.foldl (fun positions (column, position) => (key column, position) :: positions) []

def firstPositions {κ : Type} [BEq κ] (key : Column → κ) (columns : List Column) : List (κ × Nat) :=
  columns.zipIdx.foldl
    (fun positions (column, position) =>
      if (positions.lookup (key column)).isSome then positions
      else (key column, position) :: positions) []

/-- `columns` are those that the schema shows, `tableColumns` those of the whole table. -/
structure Schema where
  table : TableId
  database : DatabaseId
  tableName : String
  storageName : String
  attributeMode : Bool
  columns : List Column
  allowed : Option (List FieldId)
  tableColumns : List Column
  deriving DecidableEq, Repr

namespace Schema

/-- The columns of a table; their names do not depend on which of them are asked for. -/
def columnsOf (table : Table) (options : ComposeOptions) : List Column :=
  let names := attributeNames options.isReserved table.fields
  table.fields.map fun field => ⟨field, (names.find? field.id).getD field.stableName⟩

def ofTable (table : Table) (options : ComposeOptions) : Schema :=
  let columns := columnsOf table options
  { table := table.id
    database := table.database
    tableName := table.name
    storageName := table.storageName
    attributeMode := options.attributeNames
    columns :=
      match options.selected? with
      | none => columns
      | some selected => columns.filter (·.id ∈ selected)
    allowed := options.fieldIds
    tableColumns := columns }

/-- The fault of giving the columns of a table their shapes, whether or not the schema shows them. -/
def fault? (table : Table) : Option Fault := table.fields.findSome? (·.kind.specFault?)

def compose (table : Table) (options : ComposeOptions) : Except Fault Schema :=
  unlessFault (fault? table) (ofTable table options)

variable (schema : Schema)

def parent : Node := .database schema.database

/-- The same table with all its columns; writes compute and default against it. -/
def whole : Schema := { schema with columns := schema.tableColumns, allowed := none }

def byId : List (FieldId × Nat) := lastPositions Column.id schema.columns

def byStable : List (String × Nat) := lastPositions Column.stableName schema.columns

def byAttribute : List (String × Nat) := lastPositions Column.attributeName schema.columns

def byName : List (String × Nat) := firstPositions (·.field.name) schema.columns

def columnAt? (position : Option Nat) : Option Column := position.bind (schema.columns[·]?)

def column? (id : FieldId) : Option Column := schema.columnAt? (schema.byId.lookup id)

def stable? (name : String) : Option Column := schema.columnAt? (schema.byStable.lookup name)

def attribute? (name : String) : Option Column := schema.columnAt? (schema.byAttribute.lookup name)

def named? (name : String) : Option Column := schema.columnAt? (schema.byName.lookup name)

def resolve? (name : String) : Option Column :=
  if schema.attributeMode then schema.attribute? name else schema.stable? name

def keyOf (column : Column) : String :=
  if schema.attributeMode then column.attributeName else column.stableName

def isQueryable (id : FieldId) : Bool :=
  (schema.byId.lookup id).isSome && schema.allowed.all (id ∈ ·)

def isTableField (id : FieldId) : Bool := schema.tableColumns.any (·.id = id)

def primaryColumn? : Option Column := schema.columns.find? (·.field.primary)

end Schema
end Tabula
