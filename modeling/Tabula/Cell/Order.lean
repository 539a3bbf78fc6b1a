import Tabula.Field.Kind
import Tabula.SortKey
import Tabula.Value

/-! Order keys of cells. -/
namespace Tabula

/-- The positions in ascending order; choosing nothing has the key of an empty cell. -/
def positionsKey (positions : List Nat) : SortKey :=
  if positions.isEmpty then .null else .positions (positions.mergeSort (· ≤ ·))

def CellType.orderKey (type : CellType) (value : Value) : SortKey :=
  match type, value with
  | .text _, .text content | .longText, .text content | .phoneNumber, .text content
  | .ai _, .text content => .ofText content
  | .number _, .number amount => .number amount
  | .boolean, value => .bool (value.asBool.getD false)
  | .date _, .day shown => .day shown
  | .date _, .instant shown => .instant shown
  | .singleSelect _, .option chosen => ((type.choicePosition? chosen).map SortKey.position).getD .null
  | .multipleSelect _, .options chosen => positionsKey (chosen.filterMap type.choicePosition?)
  | _, _ => .null

def CellType.isOrderable : CellType → Bool
  | .file | .linkRow _ => false
  | _ => true

def Field.orderKey (field : Field) (value : Value) : SortKey := field.type.orderKey value

def Field.isOrderable (field : Field) : Bool := field.type.isOrderable

end Tabula
