import Tabula.Cell.Order
import Tabula.Proofs.Cell.Canonical

/-!
The keys that the cells of one type have. They are of one kind, except those of dates, where a day has
a key of another kind than an instant: keys of dates go by time as long as the two are not mixed.
-/
namespace Tabula

/-- Keys of one kind, or one of them null. -/
def SortKey.Comparable (left right : SortKey) : Prop :=
  left = .null ∨ right = .null ∨ left.rank = right.rank

namespace Value

inductive Mixed : Value → Value → Prop
  | dayFirst {date : Day} {time : Instant} : Mixed (.day date) (.instant time)
  | instantFirst {date : Day} {time : Instant} : Mixed (.instant time) (.day date)

/-- When a date begins, in nanoseconds since 1970-01-01 UTC. -/
def begins? : Value → Option Int
  | .day date => some (date.number * Instant.nanosPerDay)
  | .instant time => some time.nanos
  | _ => none

end Value

theorem compare_nanosPerDay (left right : Int) :
    Ord.compare (left * Instant.nanosPerDay) (right * Instant.nanosPerDay) = Ord.compare left right := by
  have positive : (0 : Int) < Instant.nanosPerDay := by decide
  change compareOfLessAndEq _ _ = compareOfLessAndEq _ _
  unfold compareOfLessAndEq
  simp only [Int.mul_lt_mul_right positive, Int.mul_eq_mul_right_iff (Int.ne_of_gt positive)]

namespace CellType

/-- The kind of the keys of a type, other than null; dates have two. -/
def keyRank? : CellType → Option Nat
  | .text _ | .longText | .phoneNumber | .ai _ => some 7
  | .number _ => some 2
  | .boolean => some 1
  | .singleSelect _ => some 5
  | .multipleSelect _ => some 6
  | .file | .linkRow _ => some 0
  | .date _ => none

theorem keyRank?_eq_none {type : CellType} (two : type.keyRank? = none) :
    ∃ format, type = .date format := by
  cases type <;> cases two
  exact ⟨_, rfl⟩

theorem rank_orderKey {type : CellType} {rank : Nat} (one : type.keyRank? = some rank) (value : Value) :
    type.orderKey value = .null ∨ (type.orderKey value).rank = rank := by
  cases type with
  | boolean =>
    cases one
    exact .inr rfl
  | date format => cases one
  | singleSelect choices =>
    cases one
    cases value with
    | option chosen =>
      change ((choicePosition? _ chosen).map SortKey.position).getD .null = .null ∨
        (((choicePosition? _ chosen).map SortKey.position).getD .null).rank = 5
      cases (CellType.singleSelect choices).choicePosition? chosen with
      | none => exact .inl rfl
      | some position => exact .inr rfl
    | null | bool _ | number _ | text _ | day _ | instant _ | files _ | links _ | options _ =>
      exact .inl rfl
  | multipleSelect choices =>
    cases one
    cases value with
    | options chosen =>
      change positionsKey _ = .null ∨ (positionsKey _).rank = 6
      unfold positionsKey
      split
      · exact .inl rfl
      · exact .inr rfl
    | null | bool _ | number _ | text _ | day _ | instant _ | files _ | links _ | option _ =>
      exact .inl rfl
  | text _ | longText | phoneNumber | ai _ | number _ | file | linkRow _ =>
    cases one
    cases value <;> first | exact .inl rfl | exact .inr rfl

theorem comparable_orderKey {type : CellType} {rank : Nat} (one : type.keyRank? = some rank)
    (left right : Value) : (type.orderKey left).Comparable (type.orderKey right) := by
  rcases rank_orderKey one left with null | kind
  · exact .inl null
  · rcases rank_orderKey one right with null | other
    · exact .inr (.inl null)
    · exact .inr (.inr (kind.trans other.symm))

section
variable {format : DateFormat} {left right : Value}

theorem orderKey_date_cases (format : DateFormat) (value : Value) :
    (∃ date, value = .day date) ∨ (∃ time, value = .instant time) ∨
      (CellType.date format).orderKey value = .null ∧ value.begins? = none := by
  cases value with
  | day date => exact .inl ⟨date, rfl⟩
  | instant time => exact .inr (.inl ⟨time, rfl⟩)
  | null | bool _ | number _ | text _ | files _ | links _ | option _ | options _ =>
    exact .inr (.inr ⟨rfl, rfl⟩)

theorem comparable_date : ((CellType.date format).orderKey left).Comparable
    ((CellType.date format).orderKey right) ↔ ¬ left.Mixed right := by
  constructor
  · intro comparable mixed
    cases mixed with
    | dayFirst =>
      rcases comparable with null | null | same
      · cases null
      · cases null
      · exact absurd same (show ¬ 3 = 4 by decide)
    | instantFirst =>
      rcases comparable with null | null | same
      · cases null
      · cases null
      · exact absurd same (show ¬ 4 = 3 by decide)
  · intro unmixed
    rcases orderKey_date_cases format left with ⟨date, rfl⟩ | ⟨time, rfl⟩ | ⟨null, _⟩
    · rcases orderKey_date_cases format right with ⟨other, rfl⟩ | ⟨time, rfl⟩ | ⟨null, _⟩
      · exact .inr (.inr rfl)
      · exact absurd .dayFirst unmixed
      · exact .inr (.inl null)
    · rcases orderKey_date_cases format right with ⟨date, rfl⟩ | ⟨other, rfl⟩ | ⟨null, _⟩
      · exact absurd .instantFirst unmixed
      · exact .inr (.inr rfl)
      · exact .inr (.inl null)
    · exact .inl null

theorem compare_orderKey_date {start next : Int} (first : left.begins? = some start)
    (second : right.begins? = some next) (unmixed : ¬ left.Mixed right) :
    ((CellType.date format).orderKey left).compare ((CellType.date format).orderKey right) =
      Ord.compare start next := by
  rcases orderKey_date_cases format left with ⟨date, rfl⟩ | ⟨time, rfl⟩ | ⟨_, none⟩
  · cases first
    rcases orderKey_date_cases format right with ⟨other, rfl⟩ | ⟨time, rfl⟩ | ⟨_, none⟩
    · cases second
      exact (compare_nanosPerDay date.number other.number).symm
    · exact absurd .dayFirst unmixed
    · rw [none] at second
      cases second
  · cases first
    rcases orderKey_date_cases format right with ⟨date, rfl⟩ | ⟨other, rfl⟩ | ⟨_, none⟩
    · exact absurd .instantFirst unmixed
    · cases second
      rfl
    · rw [none] at second
      cases second
  · rw [none] at first
    cases first

theorem Stores.unmixed (stores : Stores (.date format) left) (other : Stores (.date format) right) :
    ¬ left.Mixed right := by
  intro mixed
  cases mixed with
  | dayFirst =>
    cases stores with
    | day untimed =>
      cases other with
      | instant timed _ => exact Bool.false_ne_true (untimed.symm.trans timed)
  | instantFirst =>
    cases stores with
    | instant timed _ =>
      cases other with
      | day untimed => exact Bool.false_ne_true (untimed.symm.trans timed)

end

end CellType
end Tabula
