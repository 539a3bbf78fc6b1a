import Tabula.Calendar.Instant
import Tabula.Text.Numeral

/-! Written forms of days and instants. -/
namespace Tabula.Calendar
open Tabula.Text

/-- At least four digits after the sign. -/
def longYear (year : Int) : List Char :=
  if year < 0 then '-' :: paddedDigits 4 year.natAbs else paddedDigits 4 year.natAbs

/-- At least four characters, the sign among them. -/
def shortYear (year : Int) : List Char :=
  if year < 0 then '-' :: paddedDigits 3 year.natAbs else paddedDigits 4 year.natAbs

def twoDigits (number : Nat) : List Char := paddedDigits 2 number

def dashed (year : List Char) (date : Civil) : List Char :=
  year ++ '-' :: twoDigits date.month ++ '-' :: twoDigits date.day

def isoChars (date : Civil) : List Char := dashed (longYear date.year) date

def plainChars (date : Civil) : List Char := dashed (shortYear date.year) date

def minuteChars (second : Nat) : List Char :=
  twoDigits (second / 3600) ++ ':' :: twoDigits (second / 60 % 60)

def halfDayChars (second : Nat) : List Char :=
  let hour := second / 3600
  twoDigits (if hour % 12 = 0 then 12 else hour % 12) ++ ':' :: twoDigits (second / 60 % 60) ++
    (if hour < 12 then " AM" else " PM").toList

def secondOfDay (instant : Instant) : Nat := (instant.seconds % 86400).toNat

def fractionChars (nanos : Nat) : List Char :=
  if nanos = 0 then []
  else '.' :: ((paddedDigits 9 nanos).reverse.dropWhile (· == '0')).reverse

def offsetChars (offset : Int) : List Char :=
  if offset = 0 then ['Z']
  else
    let minutes := offset.natAbs / 60
    (if offset < 0 then '-' else '+') :: twoDigits (minutes / 60) ++ ':' :: twoDigits (minutes % 60)

/-- The form of RFC 3339, which has years 0 to 9999 and offsets of whole minutes below a day. -/
def stampText? (instant : Instant) : Option String :=
  let date := Civil.ofDayNumber (instant.localSeconds / 86400)
  let second := (instant.localSeconds % 86400).toNat
  if 0 ≤ date.year ∧ date.year ≤ 9999 ∧ instant.offset % 60 = 0 ∧ instant.offset.natAbs < 86400 then
    some (String.ofList (isoChars date ++ 'T' :: minuteChars second ++ ':' :: twoDigits (second % 60) ++
      fractionChars instant.subseconds ++ offsetChars instant.offset))
  else none

end Tabula.Calendar
