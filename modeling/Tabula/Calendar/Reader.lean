import Tabula.Calendar.Instant
import Tabula.Fault
import Tabula.Text.Blank
import Tabula.Text.Numeral

/-! Reading days and instants from text. -/
namespace Tabula.Calendar
open Tabula.Text

def readCivil (chars : List Char) : Option (Civil × List Char) := do
  let (year, rest) ← takeDigits 4 chars
  match rest with
  | '-' :: rest =>
    let (month, rest) ← takeDigits 2 rest
    match rest with
    | '-' :: rest =>
      let (day, rest) ← takeDigits 2 rest
      some (⟨year, month, day⟩, rest)
    | _ => none
  | _ => none

def readDay (chars : List Char) : Option (Day × List Char) := do
  let (negative, body) := splitSign chars
  let (date, rest) ← readCivil body
  let day ← Day.ofCivil? (if negative then { date with year := -date.year } else date)
  some (day, rest)

def readMinutes (chars : List Char) : Option (Nat × List Char) := do
  let (hour, rest) ← takeDigits 2 chars
  match rest with
  | ':' :: rest =>
    let (minute, rest) ← takeDigits 2 rest
    if hour < 24 ∧ minute < 60 then some (3600 * hour + 60 * minute, rest) else none
  | _ => none

def readTime (chars : List Char) : Option Nat := do
  let (minutes, rest) ← readMinutes chars
  match rest with
  | [] => some minutes
  | ':' :: rest =>
    let (second, rest) ← takeDigits 2 rest
    if rest.isEmpty ∧ second < 60 then some (minutes + second) else none
  | _ => none

def readPlain (chars : List Char) : Option Instant := do
  let (day, rest) ← readDay chars
  match rest with
  | ' ' :: rest => Instant.ofNanos? ((day.number * 86400 + (← readTime rest)) * Instant.nanosPerSecond) 0
  | _ => none

/-- A fraction of a second in nanoseconds; digits past the ninth count for nothing. -/
def readFraction : List Char → Option (Nat × List Char)
  | '.' :: rest =>
    let run := rest.takeWhile isDigit
    if run.isEmpty then none
    else some (digitsValue ((run ++ List.replicate 9 '0').take 9), rest.dropWhile isDigit)
  | chars => some (0, chars)

def readOffset : List Char → Option Int
  | ['Z'] => some 0
  | ['z'] => some 0
  | sign :: rest => do
    let (minutes, rest) ← readMinutes rest
    if !rest.isEmpty then none
    else if sign = '+' then some minutes
    else if sign = '-' then some (-(minutes : Int))
    else none
  | [] => none

/-- A stamp in the form of RFC 3339: its nanoseconds since 1970-01-01 UTC, and whether it names a
leap second, which is taken for the end of the second before. -/
def readStamp (chars : List Char) : Option (Int × Bool) := do
  let (date, rest) ← readCivil chars
  let day ← Day.ofCivil? date
  match rest with
  | [] => none
  | separator :: rest =>
    let (minutes, rest) ← readMinutes rest
    match rest with
    | ':' :: rest =>
      let (second, rest) ← takeDigits 2 rest
      let (fraction, rest) ← readFraction rest
      let offset ← readOffset rest
      let leap := second == 60
      let seconds := day.number * 86400 + minutes + (if leap then 59 else second) - offset
      if separator.toNat < 128 ∧ second ≤ 60 then
        some (seconds * Instant.nanosPerSecond + (if leap then 999999999 else fraction : Nat), leap)
      else none
    | _ => none

def endsMonth (instant : Instant) : Bool :=
  instant.seconds % 86400 == 86399 && (Civil.ofDayNumber (instant.dayNumber + 1)).day == 1

/-- A stamp of a real instant; a leap second is real at the end of a month only. -/
def readZoned (chars : List Char) : Except Fault (Option Instant) :=
  match readStamp chars with
  | none => .ok none
  | some (nanos, leap) =>
    match Instant.ofNanos? nanos 0, leap with
    | some instant, false => .ok (some instant)
    | some instant, true => .ok (if endsMonth instant then some instant else none)
    | none, true => .ok none
    | none, false => .error .calendarExceeded

/-- Reads a day, a day with a time in UTC, or a stamp with an offset. -/
def readMoment (text : String) : Except Fault (Option Moment) :=
  let chars := trimChars text.toList
  match readDay chars with
  | some (day, []) => .ok (some (.wholeDay day))
  | _ =>
    match readPlain chars with
    | some instant => .ok (some (.point instant))
    | none => (readZoned chars).map (·.map .point)

end Tabula.Calendar
