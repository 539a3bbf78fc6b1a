import Tabula.IdMap
import Tabula.Schema.Basic
import Tabula.Value

/-! Stored rows. -/
namespace Tabula

abbrev Cells := IdMap .field Value

/-- A cell that a row has not stored reads as the initial value of its column. -/
structure Row where
  id : RowId
  order : Decimal
  createdOn : Instant
  updatedOn : Instant
  cells : Cells
  deriving Repr

def cellOf (cells : Cells) (column : Column) : Value :=
  (cells.find? column.id).getD column.spec.initial

namespace Row

def cell (row : Row) (column : Column) : Value := cellOf row.cells column

/-- Equality by value, whatever the scale of numbers and the offset of instants. -/
def sameAs (left right : Row) : Bool :=
  left.id == right.id && left.order.sameAs right.order && left.createdOn.sameAs right.createdOn &&
    left.updatedOn.sameAs right.updatedOn && left.cells.sameBy Value.sameAs right.cells

def compare (left right : Row) : Ordering :=
  (left.order.compare right.order).then (left.id.compare right.id)

def systemValue (row : Row) : SystemColumn → Value
  | .id => .number (.ofWord row.id.val)
  | .order => .number row.order
  | .createdOn => .instant row.createdOn
  | .updatedOn => .instant row.updatedOn

end Row
end Tabula
