/-! Identifiers, and the positions of the structural hierarchy that they name. -/
namespace Tabula

inductive Entity
  | workspace
  | database
  | table
  | field
  | option
  | row
  deriving DecidableEq, Repr

structure Id (entity : Entity) where
  val : UInt64
  deriving DecidableEq, Repr

abbrev WorkspaceId := Id .workspace
abbrev DatabaseId := Id .database
abbrev TableId := Id .table
abbrev FieldId := Id .field
abbrev OptionId := Id .option
abbrev RowId := Id .row

instance {entity : Entity} : Inhabited (Id entity) := ⟨⟨0⟩⟩

namespace Id

variable {entity : Entity}

def text (id : Id entity) : String := toString id.val.toNat

def compare (left right : Id entity) : Ordering := Ord.compare left.val right.val

end Id

/-- The name that a field keeps through every rename. -/
def Id.stableName (id : FieldId) : String := "field_" ++ id.text

/-- A position in the hierarchy: a row in its table, in its database, in its workspace. -/
inductive Node
  | workspace (id : WorkspaceId)
  | database (id : DatabaseId)
  | table (id : TableId)
  | row (tableId : TableId) (rowId : RowId)
  deriving DecidableEq, Repr

def Node.text : Node → String
  | .workspace id => "workspace:" ++ id.text
  | .database id => "database:" ++ id.text
  | .table id => "table:" ++ id.text
  | .row tableId rowId => "table:" ++ tableId.text ++ "/row:" ++ rowId.text

end Tabula
