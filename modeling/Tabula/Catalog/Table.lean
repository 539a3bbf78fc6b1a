import Tabula.Field.Json

/-! Tables and their fields in display order. -/
namespace Tabula

structure Table where
  id : TableId
  database : DatabaseId
  name : String
  order : UInt32
  fields : List Field := []
  deriving DecidableEq, Repr

/-- The next number, if the largest is not reached yet. -/
def nextOrder (order : UInt32) : UInt32 := if order + 1 = 0 then order else order + 1

namespace Field

def notAfter (left right : Field) : Bool :=
  left.order < right.order || (left.order == right.order && left.id.val ≤ right.id.val)

end Field

namespace Table

def storageName (table : Table) : String := "database_table_" ++ table.id.text

def field? (table : Table) (id : FieldId) : Option Field := table.fields.find? (·.id = id)

def fieldNamed? (table : Table) (name : String) : Option Field := table.fields.find? (·.name = name)

def primaryField? (table : Table) : Option Field := table.fields.find? (·.primary)

def parent (table : Table) : Node := .database table.database

def insertField (table : Table) (field : Field) : Table :=
  { table with fields := (table.fields ++ [field]).mergeSort Field.notAfter }

def eraseField (table : Table) (id : FieldId) : Table :=
  { table with fields := table.fields.eraseP (·.id = id) }

def mapFields (table : Table) (change : Field → Field) : Table :=
  { table with fields := table.fields.map change }

def modifyField (table : Table) (id : FieldId) (change : Field → Field) : Table :=
  table.mapFields fun field => if field.id = id then change field else field

def nextFieldOrder (table : Table) : UInt32 :=
  ((table.fields.map fun field => nextOrder field.order).max?).getD 0

def json (table : Table) : Json :=
  .object [("id", table.id.json), ("database_id", table.database.json), ("name", .text table.name),
    ("order", .natural table.order.toNat), ("fields", .list (table.fields.map Field.json))]

end Table
end Tabula
