import Mathlib.Data.List.TakeWhile
import Mathlib.Tactic.IntervalCases
import Tabula.Calendar.Reader
import Tabula.Calendar.Text
import Tabula.Proofs.Except
import Tabula.Proofs.Text.Numeral

/-!
The texts whose reading breaks off: stamps of an instant that lies, in UTC, behind the last day of the
calendar. There is no other, since stamps have years from 0 on and are never more than a day from UTC.
-/
namespace Tabula.Calendar
open Tabula.Text

-- Powers are those of the core library also where another instance is in reach.
attribute [local instance (10000)] instPowNat

/-- The fraction of a second in a stamp: nothing, or a point and digits. -/
def IsFraction (written : List Char) : Prop :=
  written = [] ∨ ∃ run, run ≠ [] ∧ (∀ c ∈ run, isDigit c = true) ∧ written = '.' :: run

/-- A stamp on the last day of the calendar, at an offset so far behind UTC that the instant falls on
the day after it there. -/
def IsLate (chars : List Char) : Prop :=
  ∃ (separator : Char) (hour minute second : Nat) (fraction : List Char) (hours minutes : Nat),
    chars = "9999-12-31".toList ++ separator :: (twoDigits hour ++ ':' :: (twoDigits minute ++
      ':' :: (twoDigits second ++ (fraction ++
        '-' :: (twoDigits hours ++ ':' :: twoDigits minutes))))) ∧
    separator.toNat < 128 ∧ (hour < 24 ∧ minute < 60 ∧ second < 60) ∧ IsFraction fraction ∧
    (hours < 24 ∧ minutes < 60) ∧
    86400 ≤ 3600 * (hour + hours) + 60 * (minute + minutes) + second

theorem IsLate.lt_length {chars : List Char} (late : IsLate chars) : 10 < chars.length := by
  obtain ⟨separator, hour, minute, second, fraction, hours, minutes, rfl, -⟩ := late
  simp

theorem takeTwo_eq_some {number : Nat} {chars rest : List Char} :
    takeDigits 2 chars = some (number, rest) ↔ number < 100 ∧ chars = twoDigits number ++ rest :=
  takeDigits_eq_some

theorem readCivil_eq_some {chars rest : List Char} {date : Civil} :
    readCivil chars = some (date, rest) ↔
      ∃ year month day : Nat, year < 10000 ∧ month < 100 ∧ day < 100 ∧ date = ⟨year, month, day⟩ ∧
        chars = paddedDigits 4 year ++
          '-' :: (twoDigits month ++ '-' :: (twoDigits day ++ rest)) := by
  constructor
  · intro read
    unfold readCivil at read
    obtain ⟨⟨year, afterYear⟩, first, read⟩ := Option.bind_eq_some_iff.1 read
    dsimp only at read
    split at read
    · obtain ⟨⟨month, afterMonth⟩, second, read⟩ := Option.bind_eq_some_iff.1 read
      dsimp only at read
      split at read
      · obtain ⟨⟨day, afterDay⟩, third, read⟩ := Option.bind_eq_some_iff.1 read
        cases read
        obtain ⟨years, rfl⟩ := takeDigits_eq_some.1 first
        obtain ⟨months, rfl⟩ := takeTwo_eq_some.1 second
        obtain ⟨days, rfl⟩ := takeTwo_eq_some.1 third
        exact ⟨year, month, day, years, months, days, rfl, rfl⟩
      · cases read
    · cases read
  · intro given
    obtain ⟨year, month, day, years, months, days, rfl, rfl⟩ := given
    unfold readCivil
    refine Option.bind_eq_some_iff.2 ⟨_, takeDigits_eq_some.2 ⟨years, rfl⟩, ?_⟩
    refine Option.bind_eq_some_iff.2 ⟨_, takeTwo_eq_some.2 ⟨months, rfl⟩, ?_⟩
    exact Option.bind_eq_some_iff.2 ⟨_, takeTwo_eq_some.2 ⟨days, rfl⟩, rfl⟩

theorem readMinutes_eq_some {chars rest : List Char} {minutes : Nat} :
    readMinutes chars = some (minutes, rest) ↔
      ∃ hour minute, hour < 24 ∧ minute < 60 ∧ minutes = 3600 * hour + 60 * minute ∧
        chars = twoDigits hour ++ ':' :: (twoDigits minute ++ rest) := by
  constructor
  · intro read
    unfold readMinutes at read
    obtain ⟨⟨hour, afterHour⟩, first, read⟩ := Option.bind_eq_some_iff.1 read
    dsimp only at read
    split at read
    · obtain ⟨⟨minute, afterMinute⟩, second, read⟩ := Option.bind_eq_some_iff.1 read
      dsimp only at read
      split at read
      · rename_i bounds
        cases read
        obtain ⟨_, rfl⟩ := takeTwo_eq_some.1 first
        obtain ⟨_, rfl⟩ := takeTwo_eq_some.1 second
        exact ⟨hour, minute, bounds.1, bounds.2, rfl, rfl⟩
      · cases read
    · cases read
  · intro given
    obtain ⟨hour, minute, hours, minutes, rfl, rfl⟩ := given
    unfold readMinutes
    refine Option.bind_eq_some_iff.2 ⟨_, takeTwo_eq_some.2 ⟨by omega, rfl⟩, ?_⟩
    refine Option.bind_eq_some_iff.2 ⟨_, takeTwo_eq_some.2 ⟨by omega, rfl⟩, ?_⟩
    exact if_pos ⟨hours, minutes⟩

theorem readFraction_lt {chars rest : List Char} {fraction : Nat}
    (read : readFraction chars = some (fraction, rest)) : fraction < 1000000000 := by
  unfold readFraction at read
  split at read
  · rename_i tail
    dsimp only at read
    split at read
    · cases read
    · cases read
      have numeric : ∀ c ∈ (tail.takeWhile isDigit ++ List.replicate 9 '0').take 9,
          isDigit c = true := by
        intro c member
        rcases List.mem_append.1 (List.mem_of_mem_take member) with inside | zero
        · exact List.mem_takeWhile_imp inside
        · rw [List.eq_of_mem_replicate zero]
          rfl
      have length : ((tail.takeWhile isDigit ++ List.replicate 9 '0').take 9).length = 9 := by
        simp
      have small := digitsValue_lt numeric
      rwa [length] at small
  · cases read
    decide

theorem isFraction_of_readFraction {chars rest : List Char} {fraction : Nat}
    (read : readFraction chars = some (fraction, rest)) :
    ∃ written, IsFraction written ∧ chars = written ++ rest := by
  unfold readFraction at read
  split at read
  · rename_i tail
    dsimp only at read
    split at read
    · cases read
    · rename_i filled
      cases read
      refine ⟨'.' :: tail.takeWhile isDigit, .inr ⟨_, by simpa using filled, ?_, rfl⟩, ?_⟩
      · intro c member
        exact List.mem_takeWhile_imp member
      · rw [List.cons_append, List.takeWhile_append_dropWhile]
  · cases read
    exact ⟨[], .inl rfl, rfl⟩

theorem readFraction_append {written : List Char} (fraction : IsFraction written)
    (shift : List Char) :
    ∃ number, readFraction (written ++ '-' :: shift) = some (number, '-' :: shift) := by
  rcases fraction with rfl | ⟨run, filled, numeric, rfl⟩
  · exact ⟨0, rfl⟩
  · have front : (run ++ '-' :: shift).takeWhile isDigit = run := by
      rw [List.takeWhile_append_of_pos numeric]
      simp [show isDigit '-' = false from rfl]
    have back : (run ++ '-' :: shift).dropWhile isDigit = '-' :: shift := by
      rw [List.dropWhile_append_of_pos numeric]
      simp [show isDigit '-' = false from rfl]
    refine ⟨digitsValue ((run ++ List.replicate 9 '0').take 9), ?_⟩
    rw [List.cons_append, readFraction, front, back, if_neg (by simpa using filled)]

theorem readOffset_eq_some {chars : List Char} {offset : Int} :
    readOffset chars = some offset ↔
      (chars = ['Z'] ∨ chars = ['z']) ∧ offset = 0 ∨
      ∃ (sign : Char) (hours minutes : Nat), hours < 24 ∧ minutes < 60 ∧
        chars = sign :: (twoDigits hours ++ ':' :: twoDigits minutes) ∧
        (sign = '+' ∧ offset = (3600 * hours + 60 * minutes : Nat) ∨
          sign = '-' ∧ offset = -(3600 * hours + 60 * minutes : Nat)) := by
  constructor
  · intro read
    unfold readOffset at read
    split at read
    · cases read
      exact .inl ⟨.inl rfl, rfl⟩
    · cases read
      exact .inl ⟨.inr rfl, rfl⟩
    · rename_i sign _ _ _
      obtain ⟨⟨seconds, tail⟩, whole, branch⟩ := Option.bind_eq_some_iff.1 read
      obtain ⟨hours, minutes, hoursBound, minutesBound, rfl, rfl⟩ := readMinutes_eq_some.1 whole
      clear read
      dsimp only at branch
      split at branch
      · cases branch
      · rename_i ended
        have none : tail = [] := by simpa using ended
        subst none
        refine .inr ⟨sign, hours, minutes, hoursBound, minutesBound, by rw [List.append_nil], ?_⟩
        split at branch
        · rename_i ahead
          cases branch
          exact .inl ⟨ahead, rfl⟩
        · split at branch
          · rename_i behind
            cases branch
            exact .inr ⟨behind, rfl⟩
          · cases branch
    · cases read
  · rintro (⟨rfl | rfl, rfl⟩ | ⟨sign, hours, minutes, hoursBound, minutesBound, rfl, signed⟩)
    · rfl
    · rfl
    · have read : readMinutes (twoDigits hours ++ ':' :: twoDigits minutes) =
          some (3600 * hours + 60 * minutes, []) :=
        readMinutes_eq_some.2
          ⟨hours, minutes, hoursBound, minutesBound, rfl, by rw [List.append_nil]⟩
      unfold readOffset
      rcases signed with ⟨rfl, rfl⟩ | ⟨rfl, rfl⟩
      · simp [read]
      · simp [read]

theorem readOffset_lt {chars : List Char} {offset : Int} (read : readOffset chars = some offset) :
    -86400 < offset ∧ offset < 86400 := by
  rcases readOffset_eq_some.1 read with ⟨_, rfl⟩ | ⟨_, hours, minutes, _, _, _, ⟨_, rfl⟩ | ⟨_, rfl⟩⟩
  · omega
  · omega
  · omega

theorem readStamp_eq_some {chars : List Char} {nanos : Int} {leap : Bool} :
    readStamp chars = some (nanos, leap) ↔
      ∃ (date : Civil) (day : Day) (separator : Char) (timed : List Char) (minutes : Nat)
        (afterMinutes : List Char) (second : Nat) (afterSecond : List Char) (fraction : Nat)
        (shift : List Char) (offset : Int),
        readCivil chars = some (date, separator :: timed) ∧ Day.ofCivil? date = some day ∧
        readMinutes timed = some (minutes, ':' :: afterMinutes) ∧
        takeDigits 2 afterMinutes = some (second, afterSecond) ∧
        readFraction afterSecond = some (fraction, shift) ∧ readOffset shift = some offset ∧
        separator.toNat < 128 ∧ second ≤ 60 ∧ leap = (second == 60) ∧
        nanos = (day.number * 86400 + minutes + (if leap then 59 else second : Nat) - offset) *
          Instant.nanosPerSecond + (if leap then 999999999 else fraction : Nat) := by
  constructor
  · intro read
    unfold readStamp at read
    obtain ⟨⟨date, rest⟩, dated, read⟩ := Option.bind_eq_some_iff.1 read
    obtain ⟨day, held, read⟩ := Option.bind_eq_some_iff.1 read
    dsimp only at read
    split at read
    · cases read
    · rename_i separator timed _
      obtain ⟨⟨minutes, rest⟩, clocked, read⟩ := Option.bind_eq_some_iff.1 read
      dsimp only at read
      split at read
      · rename_i afterMinutes
        obtain ⟨⟨second, afterSecond⟩, seconds, read⟩ := Option.bind_eq_some_iff.1 read
        obtain ⟨⟨fraction, shift⟩, fractions, read⟩ := Option.bind_eq_some_iff.1 read
        obtain ⟨offset, offsets, read⟩ := Option.bind_eq_some_iff.1 read
        dsimp only at read
        split at read
        · rename_i bounds
          cases read
          refine ⟨date, day, separator, timed, minutes, afterMinutes, second, afterSecond, fraction,
            shift, offset, dated, held, clocked, seconds, fractions, offsets, bounds.1, bounds.2, rfl, ?_⟩
          split <;> rfl
        · cases read
      · cases read
  · rintro ⟨date, day, separator, timed, minutes, afterMinutes, second, afterSecond, fraction, shift,
      offset, dated, held, clocked, seconds, fractions, offsets, ascii, bound, rfl, rfl⟩
    unfold readStamp
    refine Option.bind_eq_some_iff.2 ⟨_, dated, ?_⟩
    refine Option.bind_eq_some_iff.2 ⟨_, held, ?_⟩
    refine Option.bind_eq_some_iff.2 ⟨_, clocked, ?_⟩
    refine Option.bind_eq_some_iff.2 ⟨_, seconds, ?_⟩
    refine Option.bind_eq_some_iff.2 ⟨_, fractions, ?_⟩
    refine Option.bind_eq_some_iff.2 ⟨_, offsets, ?_⟩
    dsimp only
    rw [if_pos ⟨ascii, bound⟩]

theorem isReal_bounds {date : Civil} (real : date.isReal = true) :
    (1 ≤ date.month ∧ date.month ≤ 12) ∧ 1 ≤ date.day ∧
      date.day ≤ monthLength date.year date.month := by
  simp only [Civil.isReal, Bool.and_eq_true, decide_eq_true_eq] at real
  exact ⟨real.1.1, real.1.2, real.2⟩

theorem monthEnd_le (year : Int) {month : Nat} (first : 1 ≤ month) (last : month ≤ 12) :
    ((monthLengths year).take (month - 1)).foldl (· + ·) 0 + monthLength year month ≤ 366 := by
  unfold monthLength monthLengths
  cases isLeap year
  · interval_cases month <;> decide
  · interval_cases month <;> decide

theorem dayNumber_bounds {date : Civil} (real : date.isReal = true) :
    yearStart date.year ≤ date.dayNumber ∧ date.dayNumber ≤ yearStart date.year + 365 := by
  obtain ⟨⟨firstMonth, lastMonth⟩, firstDay, lastDay⟩ := isReal_bounds real
  have ended := monthEnd_le date.year firstMonth lastMonth
  unfold Civil.dayNumber
  dsimp only
  omega

theorem civil_eq_of_last {date : Civil} (real : date.isReal = true) (year : date.year < 10000)
    (last : Day.last ≤ date.dayNumber) : date = ⟨9999, 12, 31⟩ := by
  obtain ⟨⟨firstMonth, lastMonth⟩, firstDay, lastDay⟩ := isReal_bounds real
  have final : date.year = 9999 := by
    have bounds := dayNumber_bounds real
    unfold yearStart Day.last at *
    omega
  obtain ⟨_, month, day⟩ := date
  subst final
  have started : yearStart 9999 = 2932532 := by decide
  have lengths : monthLengths 9999 = [31, 28, 31, 30, 31, 30, 31, 31, 30, 31, 30, 31] := by decide
  unfold Civil.dayNumber Day.last at last
  dsimp only [monthLength] at firstMonth lastMonth firstDay lastDay last
  rw [lengths] at lastDay last
  rw [started] at last
  interval_cases month <;> simp at lastDay last ⊢ <;> omega

theorem isReal_of_ofCivil? {date : Civil} {day : Day} (held : Day.ofCivil? date = some day) :
    date.isReal = true ∧ day.number = date.dayNumber := by
  unfold Day.ofCivil? at held
  split at held
  · rename_i real
    unfold Day.ofNumber? at held
    split at held
    · cases held
      exact ⟨real, rfl⟩
    · cases held
  · cases held

theorem ofNanos?_eq_none {nanos : Int} :
    Instant.ofNanos? nanos 0 = none ↔
      nanos < Day.first * Instant.nanosPerDay ∨ (Day.last + 1) * Instant.nanosPerDay ≤ nanos := by
  simp only [Instant.ofNanos?, Instant.offsetLimit, Int.zero_mul, Int.add_zero]
  split
  · rename_i bounds
    simp only [reduceCtorEq, false_iff]
    omega
  · rename_i outside
    simp only [true_iff]
    simp only [Int.natAbs_zero, Nat.zero_le, true_and] at outside
    omega

theorem lastDay_append (rest : List Char) :
    "9999-12-31".toList ++ rest =
      paddedDigits 4 9999 ++ '-' :: (twoDigits 12 ++ '-' :: (twoDigits 31 ++ rest)) := by
  have written : "9999-12-31".toList =
      paddedDigits 4 9999 ++ '-' :: (twoDigits 12 ++ '-' :: twoDigits 31) := by
    decide +kernel
  rw [written]
  simp only [List.append_assoc, List.cons_append]

theorem readCivil_lastDay (rest : List Char) :
    readCivil ("9999-12-31".toList ++ rest) = some (⟨9999, 12, 31⟩, rest) :=
  readCivil_eq_some.2 ⟨9999, 12, 31, by decide, by decide, by decide, rfl, lastDay_append rest⟩

theorem ofCivil?_lastDay :
    Day.ofCivil? ⟨9999, 12, 31⟩ = some ⟨Day.last, by decide, by decide⟩ := by
  decide

theorem isLate_of_readStamp {chars : List Char} {nanos : Int}
    (read : readStamp chars = some (nanos, false)) (outside : Instant.ofNanos? nanos 0 = none) :
    IsLate chars := by
  obtain ⟨date, day, separator, timed, minutes, afterMinutes, second, afterSecond, fraction, shift,
    offset, dated, held, clocked, seconds, fractions, offsets, ascii, bound, leap, total⟩ :=
    readStamp_eq_some.1 read
  obtain ⟨year, month, dayOfMonth, years, _, _, named, rfl⟩ := readCivil_eq_some.1 dated
  obtain ⟨hour, minute, hourBound, minuteBound, rfl, rfl⟩ := readMinutes_eq_some.1 clocked
  obtain ⟨_, rfl⟩ := takeTwo_eq_some.1 seconds
  obtain ⟨written, isFraction, rfl⟩ := isFraction_of_readFraction fractions
  obtain ⟨real, number⟩ := isReal_of_ofCivil? held
  have yearRange : 0 ≤ date.year ∧ date.year < 10000 := by
    subst named
    dsimp only
    omega
  have early := (dayNumber_bounds real).1
  have small := readFraction_lt fractions
  have shifted := readOffset_lt offsets
  have whole : second ≠ 60 := by
    simpa using leap.symm
  have behind : Day.last < day.number + 1 ∧
      86400 ≤ 3600 * (hour : Int) + 60 * minute + second - offset := by
    have last := day.le_last
    simp only [Bool.false_eq_true, if_false] at total
    rcases ofNanos?_eq_none.1 outside with before | after
    · unfold yearStart at early
      simp only [Day.first, Instant.nanosPerDay, Instant.nanosPerSecond] at before total
      omega
    · simp only [Day.last, Instant.nanosPerDay, Instant.nanosPerSecond] at after total last ⊢
      omega
  have final : date = ⟨9999, 12, 31⟩ :=
    civil_eq_of_last real yearRange.2 (by omega)
  obtain ⟨sameYear, rfl, rfl⟩ : (year : Int) = 9999 ∧ month = 12 ∧ dayOfMonth = 31 := by
    rw [named] at final
    exact Civil.mk.injEq .. ▸ final
  obtain rfl : year = 9999 := by omega
  rcases readOffset_eq_some.1 offsets with ⟨_, rfl⟩ | ⟨sign, hours, minutes, hoursBound, minutesBound,
    rfl, ⟨_, rfl⟩ | ⟨rfl, rfl⟩⟩
  · omega
  · omega
  · exact ⟨separator, hour, minute, second, written, hours, minutes, (lastDay_append _).symm, ascii,
      ⟨hourBound, minuteBound, by omega⟩, isFraction, ⟨hoursBound, minutesBound⟩, by omega⟩

/-- What is read of a late stamp: the last day, and an instant behind it. -/
theorem readStamp_of_isLate {chars : List Char} (late : IsLate chars) :
    ∃ nanos, readStamp chars = some (nanos, false) ∧ Instant.ofNanos? nanos 0 = none := by
  obtain ⟨separator, hour, minute, second, written, hours, minutes, rfl, ascii,
    ⟨hourBound, minuteBound, secondBound⟩, isFraction, ⟨hoursBound, minutesBound⟩, beyond⟩ := late
  obtain ⟨fraction, fractions⟩ :=
    readFraction_append isFraction (twoDigits hours ++ ':' :: twoDigits minutes)
  have offsets := readOffset_eq_some.2 (.inr ⟨'-', hours, minutes, hoursBound, minutesBound, rfl,
    .inr ⟨rfl, rfl⟩⟩)
  have whole : (second == 60) = false := by
    simp
    omega
  refine ⟨_, readStamp_eq_some.2 ⟨_, _, separator, _, _, _, second, _, fraction, _, _,
    readCivil_lastDay _, ofCivil?_lastDay,
    readMinutes_eq_some.2 ⟨hour, minute, hourBound, minuteBound, rfl, rfl⟩,
    takeTwo_eq_some.2 ⟨by omega, rfl⟩, fractions, offsets, ascii, by omega, whole.symm, rfl⟩, ?_⟩
  refine ofNanos?_eq_none.2 (.inr ?_)
  simp only [Bool.false_eq_true, if_false, Day.last, Instant.nanosPerDay, Instant.nanosPerSecond]
  omega

theorem readZoned_eq_error {chars : List Char} {fault : Fault} :
    readZoned chars = .error fault ↔ fault = .calendarExceeded ∧ IsLate chars := by
  constructor
  · intro broken
    unfold readZoned at broken
    split at broken
    · cases broken
    · rename_i nanos leap read
      split at broken
      · cases broken
      · cases broken
      · cases broken
      · rename_i outside
        cases broken
        exact ⟨rfl, isLate_of_readStamp read outside⟩
  · rintro ⟨rfl, late⟩
    obtain ⟨nanos, read, outside⟩ := readStamp_of_isLate late
    unfold readZoned
    rw [read]
    dsimp only
    rw [outside]

theorem readTime_eq_none {hour minute second : Nat} {rest : List Char} (hours : hour < 24)
    (minutes : minute < 60) (seconds : second < 60) (more : rest ≠ []) :
    readTime (twoDigits hour ++ ':' :: (twoDigits minute ++ ':' :: (twoDigits second ++ rest))) =
      none := by
  have clocked : readMinutes
      (twoDigits hour ++ ':' :: (twoDigits minute ++ ':' :: (twoDigits second ++ rest))) =
        some (3600 * hour + 60 * minute, ':' :: (twoDigits second ++ rest)) :=
    readMinutes_eq_some.2 ⟨hour, minute, hours, minutes, rfl, rfl⟩
  have taken : takeDigits 2 (twoDigits second ++ rest) = some (second, rest) :=
    takeTwo_eq_some.2 ⟨by omega, rfl⟩
  unfold readTime
  simp [clocked, taken, more]

theorem not_plain_of_isLate {chars : List Char} (late : IsLate chars) :
    (∀ day, readDay chars ≠ some (day, [])) ∧ readPlain chars = none := by
  obtain ⟨separator, hour, minute, second, written, hours, minutes, rfl, _, ⟨hourBound, minuteBound,
    secondBound⟩, -, -⟩ := late
  have dayRead (rest : List Char) : readDay ("9999-12-31".toList ++ rest) =
      some (⟨Day.last, by decide, by decide⟩, rest) := by
    have unsigned : splitSign ("9999-12-31".toList ++ rest) =
        (false, "9999-12-31".toList ++ rest) := rfl
    unfold readDay
    rw [unsigned]
    exact Option.bind_eq_some_iff.2 ⟨_, readCivil_lastDay rest,
      Option.bind_eq_some_iff.2 ⟨_, ofCivil?_lastDay, rfl⟩⟩
  constructor
  · intro day whole
    rw [dayRead] at whole
    cases whole
  · unfold readPlain
    rw [dayRead]
    dsimp only [Option.bind_eq_bind, Option.bind_some]
    split
    · rename_i timed spaced
      have noTime : readTime timed = none := by
        cases spaced
        exact readTime_eq_none hourBound minuteBound secondBound (by simp)
      rw [noTime]
      rfl
    · rfl

/-- Reading a text breaks off on late stamps and on nothing else. -/
theorem readMoment_eq_error {text : String} {fault : Fault} :
    readMoment text = .error fault ↔
      fault = .calendarExceeded ∧ IsLate (trimChars text.toList) := by
  unfold readMoment
  dsimp only
  constructor
  · intro broken
    split at broken
    · cases broken
    · split at broken
      · cases broken
      · cases zoned : readZoned (trimChars text.toList) with
        | ok read =>
          rw [zoned] at broken
          cases broken
        | error other =>
          rw [zoned] at broken
          cases broken
          exact readZoned_eq_error.1 zoned
  · rintro ⟨rfl, late⟩
    obtain ⟨notDay, notPlain⟩ := not_plain_of_isLate late
    split
    · rename_i whole
      exact absurd whole (notDay _)
    · rw [notPlain, readZoned_eq_error.2 ⟨rfl, late⟩]
      rfl

theorem offset_of_ofNanos? {nanos offset : Int} {time : Instant}
    (held : Instant.ofNanos? nanos offset = some time) : time.offset = offset := by
  unfold Instant.ofNanos? at held
  dsimp only at held
  split at held
  · cases held
    rfl
  · cases held

theorem offset_of_readZoned {chars : List Char} {time : Instant}
    (read : readZoned chars = .ok (some time)) : time.offset = 0 := by
  unfold readZoned at read
  split at read
  · cases read
  · split at read
    · rename_i held _
      cases read
      exact offset_of_ofNanos? held
    · rename_i held _
      split at read
      · cases read
        exact offset_of_ofNanos? held
      · cases read
    · cases read
    · cases read

theorem offset_of_readPlain {chars : List Char} {time : Instant}
    (read : readPlain chars = some time) : time.offset = 0 := by
  unfold readPlain at read
  obtain ⟨⟨day, rest⟩, _, read⟩ := Option.bind_eq_some_iff.1 read
  dsimp only at read
  split at read
  · obtain ⟨second, _, held⟩ := Option.bind_eq_some_iff.1 read
    exact offset_of_ofNanos? held
  · cases read

theorem offset_of_readMoment {text : String} {time : Instant}
    (read : readMoment text = .ok (some (.point time))) : time.offset = 0 := by
  unfold readMoment at read
  dsimp only at read
  split at read
  · cases read
  · split at read
    · rename_i plain
      cases read
      exact offset_of_readPlain plain
    · obtain ⟨moment?, zoned, same⟩ := map_eq_ok.1 read
      obtain ⟨instant, rfl, rest⟩ := Option.map_eq_some_iff.1 same
      cases rest
      exact offset_of_readZoned zoned

end Tabula.Calendar
