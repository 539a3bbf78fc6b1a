import Tabula.Calendar.Civil
import Tabula.Fault

/-! Days and instants of the years -9999 to 9999. -/
namespace Tabula

abbrev Day.first : Int := -4371587

abbrev Day.last : Int := 2932896

/-- A day, counted from 1970-01-01. -/
structure Day where
  number : Int
  first_le : Day.first ≤ number
  le_last : number ≤ Day.last
  deriving DecidableEq, Repr

namespace Day
open Calendar

def ofNumber? (number : Int) : Option Day :=
  if bounds : first ≤ number ∧ number ≤ last then some ⟨number, bounds.1, bounds.2⟩ else none

def ofCivil? (date : Civil) : Option Day :=
  if date.isReal then ofNumber? date.dayNumber else none

def civil (day : Day) : Civil := Civil.ofDayNumber day.number

def compare (left right : Day) : Ordering := Ord.compare left.number right.number

def julian (day : Day) : Int := day.number + 2440588

end Day

abbrev Instant.nanosPerSecond : Int := 1000000000

abbrev Instant.nanosPerDay : Int := 86400 * Instant.nanosPerSecond

/-- The largest offset, 25:59:59 in either direction. -/
abbrev Instant.offsetLimit : Nat := 93599

/-- A point in time, in nanoseconds since 1970-01-01 UTC, shown at an offset given in seconds. The
calendar holds the day on which it is shown, and perhaps not the day in UTC. -/
structure Instant where
  nanos : Int
  offset : Int
  offset_le : offset.natAbs ≤ Instant.offsetLimit
  first_le : Day.first * Instant.nanosPerDay ≤ nanos + offset * Instant.nanosPerSecond
  lt_end : nanos + offset * Instant.nanosPerSecond < (Day.last + 1) * Instant.nanosPerDay
  deriving DecidableEq, Repr

namespace Instant
open Calendar

def ofNanos? (nanos offset : Int) : Option Instant :=
  let shown := nanos + offset * nanosPerSecond
  if bounds : offset.natAbs ≤ offsetLimit ∧ Day.first * nanosPerDay ≤ shown ∧
      shown < (Day.last + 1) * nanosPerDay then
    some ⟨nanos, offset, bounds.1, bounds.2.1, bounds.2.2⟩
  else none

def sameAs (left right : Instant) : Bool := left.nanos == right.nanos

def compare (left right : Instant) : Ordering := Ord.compare left.nanos right.nanos

def dayNumber (instant : Instant) : Int := instant.nanos / nanosPerDay

def civil (instant : Instant) : Civil := Civil.ofDayNumber instant.dayNumber

def localDay (instant : Instant) : Day where
  number := (instant.nanos + instant.offset * nanosPerSecond) / nanosPerDay
  first_le := by
    have := instant.first_le
    simp only [Day.first, nanosPerDay, nanosPerSecond] at *
    omega
  le_last := by
    have := instant.lt_end
    simp only [Day.last, nanosPerDay, nanosPerSecond] at *
    omega

def atOffset? (instant : Instant) (offset : Int) : Option Instant := ofNanos? instant.nanos offset

def toUtc? (instant : Instant) : Option Instant := instant.atOffset? 0

/-- The fault of seeing an instant in UTC, where it is searched and written. -/
def utcFault? (instant : Instant) : Option Fault :=
  if instant.toUtc?.isSome then none else some .calendarExceeded

def ofMidnight (day : Day) : Instant where
  nanos := day.number * nanosPerDay
  offset := 0
  offset_le := by decide
  first_le := by
    have := day.first_le
    simp only [Day.first, nanosPerDay, nanosPerSecond] at *
    omega
  lt_end := by
    have := day.le_last
    simp only [Day.last, nanosPerDay, nanosPerSecond] at *
    omega

def seconds (instant : Instant) : Int := instant.nanos / nanosPerSecond

def subseconds (instant : Instant) : Nat := (instant.nanos % nanosPerSecond).toNat

def localSeconds (instant : Instant) : Int := instant.seconds + instant.offset

def advance? (instant : Instant) (seconds : Int) : Option Instant :=
  ofNanos? (instant.nanos + seconds * nanosPerSecond) instant.offset

end Instant

inductive Moment
  | wholeDay (day : Day)
  | point (instant : Instant)
  deriving DecidableEq, Repr

def Moment.dayNumber : Moment → Int
  | .wholeDay day => day.number
  | .point instant => instant.dayNumber

def Moment.civil (moment : Moment) : Calendar.Civil := .ofDayNumber moment.dayNumber

end Tabula
