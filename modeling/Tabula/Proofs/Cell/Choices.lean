import Mathlib.Data.List.Sort
import Tabula.Cell.Order
import Tabula.Proofs.SortKey

/-!
The keys of cells that hold several choices. What counts is which of the field's choices a cell holds: its
key is made of their positions, whatever order they were chosen in.
-/
namespace Tabula

section
variable {choices : List SelectOption} {chosen left right : List OptionId} {position : Nat}

namespace CellType

end CellType

end

end Tabula
