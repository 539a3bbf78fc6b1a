/-! Sets of code points. -/
namespace Tabula.Text

/-- A set of code points, given by the ascending points at which membership changes. -/
abbrev PointSet := List Nat

def PointSet.has : PointSet → Nat → Bool
  | [], _ => false
  | point :: points, code => if code < point then false else !PointSet.has points code

end Tabula.Text
