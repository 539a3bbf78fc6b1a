import Tabula.Proofs.Calendar.Civil
import Tabula.Proofs.Calendar.Reader

/-!
Written dates and what is read of them. With at least four digits in its year a date reads back; with at
least four characters there it does so unless one of these is a sign that stands for a digit.
-/
namespace Tabula.Text

-- Powers are those of the core library also where another instance is in reach.
attribute [local instance (10000)] instPowNat

theorem paddedDigits_of_length {width number : Nat} (long : width ≤ (digits number).length) :
    paddedDigits width number = digits number := by
  unfold paddedDigits padLeft
  rw [Nat.sub_eq_zero_of_le long]
  rfl

theorem lt_length_digits {width number : Nat} (large : 10 ^ width ≤ number) :
    width < (digits number).length := by
  have spelled := isNumeral_digits number
  have small := digitsValue_lt spelled.numeric
  rw [spelled.value] at small
  exact (Nat.pow_lt_pow_iff_right (by decide)).1 (Nat.lt_of_le_of_lt large small)

theorem splitSign_minus (rest : List Char) : splitSign ('-' :: rest) = (true, rest) := rfl

theorem splitSign_of_isDigit {c : Char} (digit : isDigit c = true) (rest : List Char) :
    splitSign (c :: rest) = (false, c :: rest) := by
  unfold splitSign
  split
  · rename_i same
    cases same
    cases digit
  · rename_i same
    cases same
    cases digit
  · rfl

theorem isBlank_of_isDigit {c : Char} (digit : isDigit c = true) : isBlank c = false := by
  have each : ∀ code < 58, 48 ≤ code → blank.has code = false := by decide
  obtain ⟨first, last⟩ := isDigit_iff.1 digit
  exact each c.toNat (by omega) first

theorem dropWhile_isBlank {chars : List Char} (solid : ∀ c ∈ chars.head?, isBlank c = false) :
    chars.dropWhile isBlank = chars := by
  cases chars with
  | nil => rfl
  | cons c rest => rw [List.dropWhile_cons, solid c rfl]; rfl

theorem trimChars_eq_self {chars : List Char} (first : ∀ c ∈ chars.head?, isBlank c = false)
    (last : ∀ c ∈ chars.getLast?, isBlank c = false) : trimChars chars = chars := by
  unfold trimChars trimEnd
  rw [dropWhile_isBlank first, dropWhile_isBlank, List.reverse_reverse]
  rwa [List.head?_reverse]

end Tabula.Text

namespace Tabula.Calendar
open Tabula.Text

attribute [local instance (10000)] instPowNat

/-- Years of which four characters leave out a digit, since one of them is the sign. -/
def IsShortYear (year : Int) : Prop := -1000 < year ∧ year < 0

instance (year : Int) : Decidable (IsShortYear year) := inferInstanceAs (Decidable (_ ∧ _))

theorem shortYear_of_long {year : Int} (long : ¬ IsShortYear year) :
    shortYear year = longYear year := by
  unfold IsShortYear at long
  unfold shortYear longYear
  split
  · have large : 10 ^ 3 ≤ year.natAbs := by omega
    have wide := lt_length_digits large
    rw [paddedDigits_of_length (by omega), paddedDigits_of_length wide]
  · rfl

theorem natAbs_lt_of_short {year : Int} (short : IsShortYear year) : year.natAbs < 10 ^ (2 + 1) := by
  unfold IsShortYear at short
  omega

theorem shortYear_of_short {year : Int} (short : IsShortYear year) :
    shortYear year = '-' :: paddedDigits 3 year.natAbs ∧ (shortYear year).length = 4 ∧
      (longYear year).length = 5 := by
  have small := natAbs_lt_of_short short
  have wide : year.natAbs < 10 ^ (3 + 1) := by omega
  unfold shortYear longYear
  rw [if_pos short.2, if_pos short.2]
  exact ⟨rfl, congrArg (· + 1) (paddedDigits_spec small).1, congrArg (· + 1) (paddedDigits_spec wide).1⟩

/-- The two written forms of a date are one, unless its year is short. -/
theorem plainChars_eq_isoChars (date : Civil) :
    plainChars date = isoChars date ↔ ¬ IsShortYear date.year := by
  constructor
  · intro same short
    obtain ⟨_, four, five⟩ := shortYear_of_short short
    have lengths := congrArg List.length same
    simp only [plainChars, isoChars, dashed, List.length_append, four, five] at lengths
    omega
  · intro long
    unfold plainChars isoChars
    rw [shortYear_of_long long]

theorem bounds_of_isReal {date : Civil} (real : date.isReal = true) :
    date.month < 100 ∧ date.day < 100 := by
  obtain ⟨⟨firstMonth, lastMonth⟩, _, lastDay⟩ := isReal_bounds real
  have short (year : Int) (month : Nat) (first : 1 ≤ month) (last : month ≤ 12) :
      monthLength year month ≤ 31 := by
    unfold monthLength monthLengths
    cases isLeap year
    · interval_cases month <;> decide
    · interval_cases month <;> decide
  have := short date.year date.month firstMonth lastMonth
  omega

theorem readCivil_dashed {year month day : Nat} (years : year < 10 ^ (3 + 1)) (months : month < 100)
    (days : day < 100) (rest : List Char) :
    readCivil (paddedDigits 4 year ++ '-' :: (twoDigits month ++ '-' :: (twoDigits day ++ rest))) =
      some (⟨year, month, day⟩, rest) :=
  readCivil_eq_some.2 ⟨year, month, day, years, months, days, rfl, rfl⟩

theorem readCivil_eq_none {chars : List Char} (mark : '-' ∈ chars.take 4) : readCivil chars = none := by
  cases read : readCivil chars with
  | none => rfl
  | some found =>
    obtain ⟨date, rest⟩ := found
    obtain ⟨year, month, day, years, _, _, _, rfl⟩ := readCivil_eq_some.1 read
    have small : year < 10 ^ (3 + 1) := years
    obtain ⟨four, numeric, _⟩ := paddedDigits_spec small
    rw [List.take_left' four] at mark
    exact absurd (numeric '-' mark) (by decide)

theorem exists_digit_paddedDigits {width number : Nat} (small : number < 10 ^ (width + 1)) :
    ∃ c rest, paddedDigits (width + 1) number = c :: rest ∧ isDigit c = true := by
  obtain ⟨length, numeric, _⟩ := paddedDigits_spec small
  cases written : paddedDigits (width + 1) number with
  | nil =>
    rw [written] at length
    cases length
  | cons c rest =>
    rw [written] at numeric
    exact ⟨c, rest, rfl, numeric c List.mem_cons_self⟩

theorem readDay_eq_some {chars body rest : List Char} {negative : Bool} {date : Civil} {day : Day}
    (sign : splitSign chars = (negative, body)) (read : readCivil body = some (date, rest))
    (held : Day.ofCivil? (if negative then { date with year := -date.year } else date) = some day) :
    readDay chars = some (day, rest) := by
  unfold readDay
  rw [sign]
  exact Option.bind_eq_some_iff.2 ⟨_, read, Option.bind_eq_some_iff.2 ⟨day, held, rfl⟩⟩

theorem readDay_isoChars (day : Day) (rest : List Char) :
    readDay (isoChars day.civil ++ rest) = some (day, rest) := by
  have held := day.ofCivil?_civil
  have years : day.civil.year.natAbs < 10 ^ (3 + 1) := day.natAbs_year_lt
  obtain ⟨months, days⟩ := bounds_of_isReal (isReal_ofDayNumber day.number)
  change day.civil.month < 100 at months
  change day.civil.day < 100 at days
  generalize day.civil = date at *
  have read := readCivil_dashed years months days rest
  have split : isoChars date ++ rest = longYear date.year ++
      '-' :: (twoDigits date.month ++ '-' :: (twoDigits date.day ++ rest)) := by
    simp [isoChars, dashed]
  rw [split, longYear]
  split
  · have year : -(date.year.natAbs : Int) = date.year := by omega
    refine readDay_eq_some (splitSign_minus _) read ?_
    rw [if_pos rfl]
    dsimp only
    rw [year]
    exact held
  · have year : (date.year.natAbs : Int) = date.year := by omega
    obtain ⟨c, behind, front, digit⟩ := exists_digit_paddedDigits years
    have unsigned (tail : List Char) : splitSign (paddedDigits 4 date.year.natAbs ++ tail) =
        (false, paddedDigits 4 date.year.natAbs ++ tail) := by
      rw [front]
      exact splitSign_of_isDigit digit _
    refine readDay_eq_some (unsigned _) read ?_
    rw [if_neg Bool.false_ne_true, year]
    exact held

/-- A short year is not read, since its sign leaves no room for four digits. -/
theorem readDay_of_short {date : Civil} (short : IsShortYear date.year) (rest : List Char) :
    readDay (plainChars date ++ rest) = none := by
  have small := natAbs_lt_of_short short
  have mark (behind : List Char) : '-' ∈ (paddedDigits 3 date.year.natAbs ++ '-' :: behind).take 4 := by
    rw [List.take_append, (paddedDigits_spec small).1]
    simp
  unfold readDay plainChars dashed
  rw [(shortYear_of_short short).1]
  simp only [List.cons_append, List.append_assoc, splitSign]
  rw [readCivil_eq_none (mark _)]
  rfl

theorem readZoned_of_short {date : Civil} (short : IsShortYear date.year) (rest : List Char) :
    readZoned (plainChars date ++ rest) = .ok none := by
  have unread : readStamp (plainChars date ++ rest) = none := by
    unfold readStamp plainChars dashed
    rw [(shortYear_of_short short).1, readCivil_eq_none (by simp)]
    rfl
  unfold readZoned
  rw [unread]

theorem readTime_minuteChars {second : Nat} (within : second < 86400) :
    readTime (minuteChars second) = some (60 * (second / 60)) := by
  have read : readMinutes (minuteChars second) = some (60 * (second / 60), []) := by
    refine readMinutes_eq_some.2 ⟨second / 3600, second / 60 % 60, by omega, by omega, by omega, ?_⟩
    rw [List.append_nil]
    rfl
  unfold readTime
  rw [read]
  rfl

theorem readPlain_isoChars (day : Day) {second : Nat} (within : second < 86400) :
    readPlain (isoChars day.civil ++ ' ' :: minuteChars second) =
      Instant.ofNanos? ((day.number * 86400 + (60 * (second / 60) : Nat)) * Instant.nanosPerSecond) 0 := by
  unfold readPlain
  rw [readDay_isoChars]
  change (readTime (minuteChars second)).bind _ = _
  rw [readTime_minuteChars within]
  rfl

/-! Written dates have no blanks at their ends. -/

theorem exists_head_shortYear {year : Int} (bound : year.natAbs < 10 ^ (3 + 1)) :
    ∃ c rest, shortYear year = c :: rest ∧ isBlank c = false := by
  unfold shortYear
  split
  · exact ⟨'-', _, rfl, rfl⟩
  · obtain ⟨c, rest, front, digit⟩ := exists_digit_paddedDigits bound
    exact ⟨c, rest, front, isBlank_of_isDigit digit⟩

theorem trimChars_of_ends {c : Char} {number : Nat} (solid : isBlank c = false) (small : number < 100)
    (middle : List Char) :
    trimChars (c :: middle ++ twoDigits number) = c :: middle ++ twoDigits number := by
  have bound : number < 10 ^ (1 + 1) := small
  obtain ⟨length, numeric, _⟩ := paddedDigits_spec bound
  have filled : twoDigits number ≠ [] := List.ne_nil_of_length_pos (by rw [twoDigits, length]; decide)
  apply trimChars_eq_self
  · intro first same
    cases same
    exact solid
  · intro last same
    rw [List.getLast?_append_of_ne_nil _ filled] at same
    exact isBlank_of_isDigit (numeric last (List.mem_of_mem_getLast? same))

theorem trimChars_plainChars (day : Day) : trimChars (plainChars day.civil) = plainChars day.civil := by
  have years : day.civil.year.natAbs < 10 ^ (3 + 1) := day.natAbs_year_lt
  obtain ⟨c, rest, front, solid⟩ := exists_head_shortYear years
  have days : day.civil.day < 100 := (bounds_of_isReal (isReal_ofDayNumber day.number)).2
  have trimmed := trimChars_of_ends solid days (rest ++ '-' :: twoDigits day.civil.month ++ ['-'])
  simpa [plainChars, dashed, front] using trimmed

theorem trimChars_minuteChars (day : Day) (second : Nat) :
    trimChars (plainChars day.civil ++ ' ' :: minuteChars second) =
      plainChars day.civil ++ ' ' :: minuteChars second := by
  have years : day.civil.year.natAbs < 10 ^ (3 + 1) := day.natAbs_year_lt
  have minutes : second / 60 % 60 < 100 := by omega
  obtain ⟨c, rest, front, solid⟩ := exists_head_shortYear years
  have trimmed := trimChars_of_ends solid minutes (rest ++ '-' :: twoDigits day.civil.month ++
    '-' :: twoDigits day.civil.day ++ ' ' :: twoDigits (second / 3600) ++ [':'])
  simpa [plainChars, dashed, minuteChars, front] using trimmed

theorem readMoment_of_day {day : Day} (long : ¬ IsShortYear day.civil.year) :
    readMoment (String.ofList (plainChars day.civil)) = .ok (some (.wholeDay day)) := by
  have read := readDay_isoChars day []
  rw [List.append_nil] at read
  unfold readMoment
  dsimp only
  rw [String.toList_ofList, trimChars_plainChars, (plainChars_eq_isoChars _).2 long, read]

theorem readMoment_of_minute {day : Day} (long : ¬ IsShortYear day.civil.year) {second : Nat}
    (within : second < 86400) {time : Instant}
    (held : Instant.ofNanos?
      ((day.number * 86400 + (60 * (second / 60) : Nat)) * Instant.nanosPerSecond) 0 = some time) :
    readMoment (String.ofList (plainChars day.civil ++ ' ' :: minuteChars second)) =
      .ok (some (.point time)) := by
  unfold readMoment
  dsimp only
  rw [String.toList_ofList, trimChars_minuteChars, (plainChars_eq_isoChars _).2 long, readDay_isoChars,
    readPlain_isoChars _ within, held]

theorem readMoment_of_short {date : Civil} (short : IsShortYear date.year) {text : String}
    {rest : List Char} (begins : trimChars text.toList = plainChars date ++ rest) :
    readMoment text = .ok none := by
  have unread := readDay_of_short short rest
  unfold readMoment readPlain
  dsimp only
  rw [begins, unread, readZoned_of_short short]
  rfl

end Tabula.Calendar
