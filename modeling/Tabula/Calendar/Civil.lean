/-! The Gregorian calendar, extended to all years, and its count of days since 1970-01-01. -/
namespace Tabula.Calendar

structure Civil where
  year : Int
  month : Nat
  day : Nat
  deriving DecidableEq, Repr

def isLeap (year : Int) : Bool := year % 4 == 0 && (year % 100 != 0 || year % 400 == 0)

def monthLengths (year : Int) : List Nat :=
  [31, if isLeap year then 29 else 28, 31, 30, 31, 30, 31, 31, 30, 31, 30, 31]

def monthLength (year : Int) (month : Nat) : Nat := (monthLengths year).getD (month - 1) 0

def yearStart (year : Int) : Int :=
  365 * (year - 1) + (year - 1) / 4 - (year - 1) / 100 + (year - 1) / 400 - 719162

def Civil.isReal (date : Civil) : Bool :=
  1 ≤ date.month && date.month ≤ 12 && 1 ≤ date.day && date.day ≤ monthLength date.year date.month

def Civil.dayNumber (date : Civil) : Int :=
  let before : Nat := ((monthLengths date.year).take (date.month - 1)).foldl (· + ·) 0
  yearStart date.year + before + date.day - 1

/-- The year that holds a day: a first guess from the mean length, then at most one step. -/
def yearOf (number : Int) : Int :=
  let guess := (number + 719162) * 400 / 146097 + 1
  if number < yearStart guess then guess - 1
  else if yearStart (guess + 1) ≤ number then guess + 1
  else guess

/-- Counts off whole months; gives the month reached and the day in it. -/
def monthAndDay : List Nat → Nat → Nat → Nat × Nat
  | [], month, rest => (month, rest + 1)
  | length :: lengths, month, rest =>
    if rest < length then (month, rest + 1) else monthAndDay lengths (month + 1) (rest - length)

def Civil.ofDayNumber (number : Int) : Civil :=
  let year := yearOf number
  let (month, day) := monthAndDay (monthLengths year) 1 (number - yearStart year).toNat
  ⟨year, month, day⟩

theorem yearOf_holds (number : Int) :
    yearStart (yearOf number) ≤ number ∧ number < yearStart (yearOf number + 1) := by
  unfold yearOf
  dsimp only
  split
  · unfold yearStart at *
    omega
  · split
    · unfold yearStart at *
      omega
    · unfold yearStart at *
      omega

end Tabula.Calendar
