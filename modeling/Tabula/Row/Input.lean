import Tabula.Row.Error
import Tabula.Schema.Basic

/-! Cells given for a write. -/
namespace Tabula

inductive CellKey
  | name (name : String)
  | field (id : FieldId)
  deriving DecidableEq, Repr

def CellKey.text : CellKey → String
  | .name written => written
  | .field id => id.stableName

structure RowInput where
  cells : List (CellKey × Value) := []
  order : Option Decimal := none
  deriving DecidableEq, Repr

def RowInput.isEmpty (input : RowInput) : Bool := input.cells.isEmpty && input.order.isNone

namespace Schema

variable (schema : Schema)

def keyed? : CellKey → Option Column
  | .name written => schema.resolve? written
  | .field id => schema.column? id

def resolveCell (cell : CellKey × Value) : Except (Failure RowError) (FieldId × Value) := do
  let (key, value) := cell
  let column ← orError (.unknownField key.text) (schema.keyed? key)
  if column.field.kind.isComputed then throw (.error (.readOnlyField key.text))
  match column.field.normalize value with
  | .ok value => return (column.id, value)
  | .error (.error reason) => throw (.error (.invalidValue key.text reason))
  | .error (.fault fault) => throw (.fault fault)

def resolveCells (cells : List (CellKey × Value)) :
    Except (Failure RowError) (List (FieldId × Value)) :=
  cells.mapM schema.resolveCell

end Schema
end Tabula
