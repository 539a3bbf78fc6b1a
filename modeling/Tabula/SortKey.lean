import Tabula.Calendar.Instant
import Tabula.Decimal.Basic
import Tabula.Text.Case

/-! Keys by which the cells of a column are ordered. -/
namespace Tabula

/-- The keys of one column are null or of one kind. -/
inductive SortKey
  | null
  | bool (flag : Bool)
  | number (amount : Decimal)
  | day (date : Day)
  | instant (time : Instant)
  | position (index : Nat)
  | positions (indexes : List Nat)
  | text (folded raw : String)
  deriving DecidableEq, Repr

namespace SortKey

def ofText (raw : String) : SortKey := .text (Text.fold raw) raw

def rank : SortKey → Nat
  | .null => 0
  | .bool _ => 1
  | .number _ => 2
  | .day _ => 3
  | .instant _ => 4
  | .position _ => 5
  | .positions _ => 6
  | .text .. => 7

def comparePositions : List Nat → List Nat → Ordering
  | [], [] => .eq
  | [], _ :: _ => .lt
  | _ :: _, [] => .gt
  | left :: lefts, right :: rights => (Ord.compare left right).then (comparePositions lefts rights)

/-- Null comes first; texts compare without case and then as written. -/
def compare : SortKey → SortKey → Ordering
  | .bool left, .bool right => Ord.compare left right
  | .number left, .number right => left.compare right
  | .day left, .day right => left.compare right
  | .instant left, .instant right => left.compare right
  | .position left, .position right => Ord.compare left right
  | .positions left, .positions right => comparePositions left right
  | .text leftFolded leftRaw, .text rightFolded rightRaw =>
    (Ord.compare leftFolded rightFolded).then (Ord.compare leftRaw rightRaw)
  | left, right => Ord.compare left.rank right.rank

end SortKey
end Tabula
