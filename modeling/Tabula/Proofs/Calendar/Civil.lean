import Mathlib.Data.List.Basic
import Tabula.Calendar.Instant

/-! Day numbers and dates: every day number is that of exactly the date which is made from it. -/
namespace Tabula.Calendar

abbrev daysOf (lengths : List Nat) : Nat := lengths.foldl (· + ·) 0

theorem daysOf_cons (length : Nat) (lengths : List Nat) :
    daysOf (length :: lengths) = length + daysOf lengths := by
  unfold daysOf
  rw [← List.sum_eq_foldl, ← List.sum_eq_foldl, List.sum_cons]

/-- Counting off months passes some of them whole and ends on a day of the next. -/
theorem monthAndDay_spec {lengths : List Nat} {rest : Nat} (within : rest < daysOf lengths)
    (month : Nat) : ∃ passed length day, lengths[passed]? = some length ∧ day < length ∧
      rest = daysOf (lengths.take passed) + day ∧
      monthAndDay lengths month rest = (month + passed, day + 1) := by
  induction lengths generalizing month rest with
  | nil => cases within
  | cons first lengths ih =>
    unfold monthAndDay
    split
    · rename_i here
      exact ⟨0, first, rest, rfl, here, (Nat.zero_add rest).symm, rfl⟩
    · rename_i later
      rw [daysOf_cons] at within
      obtain ⟨passed, length, day, found, inside, total, counted⟩ :=
        ih (show rest - first < daysOf lengths by omega) (month + 1)
      refine ⟨passed + 1, length, day, found, inside, ?_, ?_⟩
      · rw [List.take_succ_cons, daysOf_cons]
        omega
      · rw [counted, Nat.add_assoc, Nat.add_comm 1]

theorem yearStart_succ (year : Int) :
    yearStart (year + 1) = yearStart year + daysOf (monthLengths year) := by
  have length : (daysOf (monthLengths year) : Int) = 365 + if isLeap year then 1 else 0 := by
    unfold monthLengths
    cases isLeap year <;> rfl
  rw [length]
  unfold yearStart isLeap
  simp only [Bool.and_eq_true, Bool.or_eq_true, beq_iff_eq, bne_iff_ne]
  split <;> omega

theorem ofDayNumber_spec (number : Int) :
    (Civil.ofDayNumber number).year = yearOf number ∧
      (Civil.ofDayNumber number).isReal = true ∧
      (Civil.ofDayNumber number).dayNumber = number := by
  obtain ⟨started, ended⟩ := yearOf_holds number
  rw [yearStart_succ] at ended
  have within : (number - yearStart (yearOf number)).toNat < daysOf (monthLengths (yearOf number)) := by
    omega
  obtain ⟨passed, length, day, found, inside, total, counted⟩ := monthAndDay_spec within 1
  have months : passed < 12 := List.getElem?_eq_some_iff.1 found |>.1
  have made : Civil.ofDayNumber number = ⟨yearOf number, 1 + passed, day + 1⟩ := by
    unfold Civil.ofDayNumber
    dsimp only
    rw [counted]
  rw [made]
  refine ⟨rfl, ?_, ?_⟩
  · simp only [Civil.isReal, monthLength, Nat.add_sub_cancel_left, List.getD_eq_getElem?_getD, found,
      Option.getD_some, Bool.and_eq_true, decide_eq_true_eq]
    omega
  · simp only [Civil.dayNumber, Nat.add_sub_cancel_left]
    unfold daysOf at total
    omega

theorem isReal_ofDayNumber (number : Int) : (Civil.ofDayNumber number).isReal = true :=
  (ofDayNumber_spec number).2.1

theorem dayNumber_ofDayNumber (number : Int) : (Civil.ofDayNumber number).dayNumber = number :=
  (ofDayNumber_spec number).2.2

end Tabula.Calendar

namespace Tabula.Day
open Calendar

theorem ofCivil?_civil (day : Day) : ofCivil? day.civil = some day := by
  unfold ofCivil? civil
  rw [if_pos (isReal_ofDayNumber day.number), dayNumber_ofDayNumber]
  exact dif_pos ⟨day.first_le, day.le_last⟩

theorem natAbs_year_lt (day : Day) : day.civil.year.natAbs < 10000 := by
  obtain ⟨started, ended⟩ := yearOf_holds day.number
  have first : -4371587 ≤ day.number := day.first_le
  have last : day.number ≤ 2932896 := day.le_last
  unfold yearStart at started ended
  unfold civil
  rw [(ofDayNumber_spec day.number).1]
  omega

end Tabula.Day

def Tabula.Instant.epoch : Tabula.Instant := .ofMidnight ⟨0, by decide, by decide⟩
