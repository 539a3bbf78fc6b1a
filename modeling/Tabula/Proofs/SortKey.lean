import Tabula.SortKey

/-! The comparison of sort keys is a linear preorder, with null at its bottom. -/
namespace Tabula.SortKey

/-- What a key that is no text holds, as numbers. -/
def numbers : SortKey → List Int
  | .null | .text .. => []
  | .bool flag => [flag.toInt]
  | .number amount => [amount.units]
  | .day date => [date.number]
  | .instant time => [time.nanos]
  | .position index => [Int.ofNat index]
  | .positions indexes => indexes.map Int.ofNat

def texts : SortKey → List String
  | .text folded raw => [folded, raw]
  | _ => []

theorem compare_ofNat (left right : Nat) :
    Ord.compare (Int.ofNat left) (Int.ofNat right) = Ord.compare left right := by
  change compareOfLessAndEq _ _ = compareOfLessAndEq _ _
  simp only [compareOfLessAndEq, Int.ofNat_eq_natCast, Int.ofNat_lt, Int.ofNat_inj]

theorem compare_toInt (left right : Bool) :
    Ord.compare left.toInt right.toInt = Ord.compare left right := by
  cases left <;> cases right <;> rfl

theorem compare_singleton (left right : Int) :
    (Ord.compare [left] [right]).then (Ord.compare ([] : List String) []) =
      Ord.compare left right := by
  rw [List.compare_cons_cons]
  cases Ord.compare left right <;> rfl

theorem comparePositions_eq (lefts rights : List Nat) :
    comparePositions lefts rights = Ord.compare (lefts.map Int.ofNat) (rights.map Int.ofNat) := by
  induction lefts generalizing rights with
  | nil => cases rights <;> rfl
  | cons left lefts ih =>
    cases rights with
    | nil => rfl
    | cons right rights =>
      rw [List.map_cons, List.map_cons, List.compare_cons_cons, compare_ofNat, ← ih]
      rfl

theorem compare_of_rank_ne {left right : SortKey} (different : left.rank ≠ right.rank) :
    left.compare right = Ord.compare left.rank right.rank := by
  cases left <;> cases right <;> first | rfl | exact absurd rfl different

theorem compare_of_rank_eq {left right : SortKey} (same : left.rank = right.rank) :
    left.compare right =
      (Ord.compare left.numbers right.numbers).then (Ord.compare left.texts right.texts) := by
  cases left <;> cases right <;> cases same
  case null => rfl
  case bool left right => exact (compare_toInt left right).symm.trans (compare_singleton _ _).symm
  case number left right => exact (compare_singleton left.units right.units).symm
  case day left right => exact (compare_singleton left.number right.number).symm
  case instant left right => exact (compare_singleton left.nanos right.nanos).symm
  case position left right =>
    exact (compare_ofNat left right).symm.trans (compare_singleton _ _).symm
  case positions left right =>
    rw [compare, comparePositions_eq]
    exact Ordering.then_eq.symm
  case text leftFolded leftRaw rightFolded rightRaw =>
    change _ = Ord.compare [leftFolded, leftRaw] [rightFolded, rightRaw]
    rw [List.compare_cons_cons, List.compare_cons_cons]
    change _ = (Ord.compare leftFolded rightFolded).then ((Ord.compare leftRaw rightRaw).then .eq)
    rw [Ordering.then_eq]
    rfl

/-- Keys compare by kind first, then by what they hold. -/
theorem compare_eq (left right : SortKey) :
    left.compare right =
      (Ord.compare left.rank right.rank).then
        ((Ord.compare left.numbers right.numbers).then (Ord.compare left.texts right.texts)) := by
  by_cases same : left.rank = right.rank
  · rw [compare_of_rank_eq same, same, Std.ReflOrd.compare_self]
    rfl
  · rw [compare_of_rank_ne same]
    cases kinds : Ord.compare left.rank right.rank with
    | eq => exact absurd (Std.LawfulEqOrd.eq_of_compare kinds) same
    | lt => rfl
    | gt => rfl

instance : Ord SortKey := ⟨compare⟩

instance : Std.TransOrd SortKey := by
  have lexicographic : compare = compareLex (compareOn rank)
      (compareLex (compareOn numbers) (compareOn texts)) := by
    funext left right
    exact compare_eq left right
  change Std.TransCmp compare
  rw [lexicographic]
  infer_instance

theorem compare_null {key : SortKey} (filled : key ≠ .null) : compare .null key = .lt := by
  cases key <;> first | rfl | exact absurd rfl filled

theorem ne_null_of_isLE {left right : SortKey} (filled : left ≠ .null)
    (order : (left.compare right).isLE = true) : right ≠ .null := by
  rintro rfl
  cases left with
  | null => exact filled rfl
  | bool _ | number _ | day _ | instant _ | position _ | positions _ | text _ _ => cases order

end Tabula.SortKey
