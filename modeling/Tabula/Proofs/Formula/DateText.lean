import Tabula.Cell.Display
import Tabula.Formula.Eval
import Tabula.Proofs.Calendar.Text
import Tabula.Proofs.Cell.Utc

/-!
Dates as texts in formulas: what is written there of a date or of an instant is what a date field shows of
it in ISO style to the minute, and reads back as a date, except for the years whose sign costs them a
digit.
-/
namespace Tabula
open Calendar

abbrev Instant.nanosPerMinute : Int := 60 * Instant.nanosPerSecond

namespace Moment

def value : Moment → Value
  | wholeDay date => .day date
  | point time => .instant time

/-- A day, or the beginning of the minute in which an instant lies. -/
def toMinute? : Moment → Option Moment
  | wholeDay date => some (.wholeDay date)
  | point time =>
    (Instant.ofNanos? (time.nanos - time.nanos % Instant.nanosPerMinute) 0).map .point

def clockChars : Moment → List Char
  | wholeDay _ => []
  | point time => ' ' :: minuteChars (secondOfDay time)

end Moment

section
variable {time : Instant}

theorem Instant.number_localDay (utc : time.offset = 0) : time.localDay.number = time.dayNumber := by
  change (time.nanos + time.offset * _) / _ = _
  rw [utc, Int.zero_mul, Int.add_zero]
  rfl

theorem Instant.civil_localDay (utc : time.offset = 0) : time.localDay.civil = time.civil :=
  congrArg Civil.ofDayNumber (Instant.number_localDay utc)

theorem secondOfDay_lt (time : Instant) : secondOfDay time < 86400 := by
  unfold secondOfDay
  omega

theorem Instant.minutes_of_day (utc : time.offset = 0) :
    (time.localDay.number * 86400 + (60 * (secondOfDay time / 60) : Nat)) * nanosPerSecond =
      time.nanos - time.nanos % nanosPerMinute := by
  rw [number_localDay utc]
  simp only [secondOfDay, seconds, dayNumber, nanosPerDay, nanosPerMinute, nanosPerSecond]
  omega

theorem Instant.exists_minute (utc : time.offset = 0) :
    ∃ minute, ofNanos? (time.nanos - time.nanos % nanosPerMinute) 0 = some minute := by
  have first := time.first_le
  have last := time.lt_end
  rw [utc, Int.zero_mul, Int.add_zero] at first last
  simp only [Day.first, Day.last, nanosPerDay, nanosPerSecond] at first last
  have lower : Day.first * nanosPerDay ≤ time.nanos - time.nanos % nanosPerMinute + 0 * nanosPerSecond := by
    simp only [Day.first, nanosPerDay, nanosPerMinute, nanosPerSecond]
    omega
  have upper : time.nanos - time.nanos % nanosPerMinute + 0 * nanosPerSecond <
      (Day.last + 1) * nanosPerDay := by
    simp only [Day.last, nanosPerDay, nanosPerMinute, nanosPerSecond]
    omega
  exact ⟨_, dif_pos ⟨by decide, lower, upper⟩⟩

end

section
variable {moment : Moment}

theorem Moment.exists_toMinute? (utc : moment.value.IsUtc) :
    ∃ minute, moment.toMinute? = some minute := by
  cases moment with
  | wholeDay date => exact ⟨_, rfl⟩
  | point time =>
    obtain ⟨minute, held⟩ := Instant.exists_minute utc
    exact ⟨.point minute, congrArg (Option.map Moment.point) held⟩

theorem renderText_moment (utc : moment.value.IsUtc) :
    Formula.renderText moment.value =
      .ok (String.ofList (plainChars moment.civil ++ moment.clockChars)) := by
  cases moment with
  | wholeDay date =>
    unfold Moment.clockChars
    rw [List.append_nil]
    rfl
  | point time =>
    unfold Formula.renderText Moment.value
    dsimp only
    rw [Instant.utcFault?_eq_none utc]
    rfl

theorem checkedText_moment (utc : moment.value.IsUtc) {field : Field}
    (iso : field.type = .date { style := .iso, includeTime := true, clock := .hours24 }) :
    field.checkedText moment.value =
      .ok (some (String.ofList (isoChars moment.civil ++ moment.clockChars))) := by
  unfold Field.checkedText Field.textFault? Field.searchText
  rw [iso]
  cases moment with
  | wholeDay date =>
    unfold Moment.clockChars
    rw [List.append_nil]
    rfl
  | point time =>
    unfold CellType.textFault? Moment.value
    dsimp only
    rw [Instant.utcFault?_eq_none utc]
    rfl

theorem trimChars_moment (utc : moment.value.IsUtc) :
    Text.trimChars (plainChars moment.civil ++ moment.clockChars) =
      plainChars moment.civil ++ moment.clockChars := by
  cases moment with
  | wholeDay date =>
    unfold Moment.clockChars
    rw [List.append_nil]
    exact trimChars_plainChars date
  | point time =>
    have trimmed := trimChars_minuteChars time.localDay (secondOfDay time)
    rw [Instant.civil_localDay utc] at trimmed
    exact trimmed

/-- What is written of a moment in any but a short year reads as its minute. -/
theorem readMoment_moment (utc : moment.value.IsUtc) (long : ¬ IsShortYear moment.civil.year)
    {minute : Moment} (begun : moment.toMinute? = some minute) :
    readMoment (String.ofList (plainChars moment.civil ++ moment.clockChars)) = .ok (some minute) := by
  cases moment with
  | wholeDay date =>
    cases begun
    unfold Moment.clockChars
    rw [List.append_nil]
    exact readMoment_of_day long
  | point time =>
    obtain ⟨start, held, rfl⟩ := Option.map_eq_some_iff.1 begun
    have date := Instant.civil_localDay utc
    change ¬ IsShortYear time.civil.year at long
    rw [← Instant.minutes_of_day utc] at held
    rw [← date] at long
    have read := readMoment_of_minute long (secondOfDay_lt time) held
    rw [date] at read
    exact read

end

namespace Formula

theorem coerce_of_read {content : String} {moment : Moment}
    (read : readMoment content = .ok (some moment)) (format : DateFormat) :
    coerce (.text content) (.date format) = .ok moment.value := by
  change toDate (.text content) = _
  unfold toDate
  dsimp only
  rw [read]
  cases moment <;> rfl

theorem coerce_of_unread {content : String} (read : readMoment content = .ok none)
    (format : DateFormat) :
    coerce (.text content) (.date format) = .error (.error (.conversion "text" "date")) := by
  change toDate (.text content) = _
  unfold toDate
  dsimp only
  rw [read]
  rfl

/-- What a formula writes of a date, or of an instant in UTC, is what a date field shows of it in ISO style
to the minute, and brought into a date it comes to the date or to the minute of the instant. In the years
from -999 to -1, and only there, neither holds: the text is another, and it is no date. -/
theorem date_text_reads_back {moment : Moment} (utc : moment.value.IsUtc) {field : Field}
    (iso : field.type = .date { style := .iso, includeTime := true, clock := .hours24 })
    (format : DateFormat) :
    ∃ written shown minute, renderText moment.value = .ok written ∧
      field.checkedText moment.value = .ok (some shown) ∧ moment.toMinute? = some minute ∧
      (written = shown ↔ ¬ IsShortYear moment.civil.year) ∧
      coerce (.text written) (.date format) =
        if IsShortYear moment.civil.year then .error (.error (.conversion "text" "date"))
        else .ok minute.value := by
  obtain ⟨minute, begun⟩ := Moment.exists_toMinute? utc
  refine ⟨_, _, minute, renderText_moment utc, checkedText_moment utc iso, begun, ?_, ?_⟩
  · rw [String.ofList_inj, List.append_left_inj]
    exact plainChars_eq_isoChars moment.civil
  · split
    · rename_i short
      apply coerce_of_unread
      apply readMoment_of_short short
      rw [String.toList_ofList]
      exact trimChars_moment utc
    · rename_i long
      exact coerce_of_read (readMoment_moment utc long begun) format

def whenField : Field :=
  ⟨⟨4⟩, ⟨3⟩, "When", 1, false, .stored (.date { style := .iso, includeTime := true })⟩

def earlyMoment : Moment :=
  .point ⟨-1170178 * Instant.nanosPerDay + 46594 * Instant.nanosPerSecond, 0, Instant.epoch.offset_le,
    by decide, by decide⟩

theorem date_text_of_early_moment : ∃ minute, earlyMoment.toMinute? = some minute ∧
    renderText earlyMoment.value = .ok "-1234-03-01 12:56" ∧
    whenField.checkedText earlyMoment.value = .ok (some "-1234-03-01 12:56") ∧
    coerce (.text "-1234-03-01 12:56") (.date {}) = .ok minute.value := by
  have utc : earlyMoment.value.IsUtc := rfl
  have iso : whenField.type = .date { style := .iso, includeTime := true, clock := .hours24 } := rfl
  have text : renderText earlyMoment.value = .ok "-1234-03-01 12:56" := by decide +kernel
  obtain ⟨written, shown, minute, rendered, displayed, begun, same, read⟩ :=
    date_text_reads_back utc iso {}
  have long : ¬ IsShortYear earlyMoment.civil.year := by decide +kernel
  rw [text] at rendered
  cases rendered
  rw [if_neg long] at read
  rw [← same.2 long] at displayed
  exact ⟨minute, begun, text, displayed, read⟩

def shortDay : Day := ⟨-721295, by decide, by decide⟩

/-- In a short year a formula writes a date with one digit less than a date field, and does not read it
back. -/
theorem not_all_date_texts_read_back : ¬ ∀ moment : Moment, moment.value.IsUtc →
    ∃ written minute, renderText moment.value = .ok written ∧
      whenField.checkedText moment.value = .ok (some written) ∧ moment.toMinute? = some minute ∧
      ∀ format, coerce (.text written) (.date format) = .ok minute.value := by
  intro refuted
  obtain ⟨written, minute, rendered, displayed, _⟩ := refuted (.wholeDay shortDay) trivial
  have short : renderText (.day shortDay) = .ok "-005-03-01" := by decide +kernel
  have long : whenField.checkedText (.day shortDay) = .ok (some "-0005-03-01") := by decide +kernel
  rw [show Moment.value (.wholeDay shortDay) = .day shortDay from rfl, short] at rendered
  cases rendered
  rw [show Moment.value (.wholeDay shortDay) = .day shortDay from rfl, long] at displayed
  exact absurd displayed (by decide)

end Formula
end Tabula
