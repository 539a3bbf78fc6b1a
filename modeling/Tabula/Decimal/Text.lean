import Tabula.Decimal.Basic
import Tabula.Text.Numeral

/-! Decimal numerals: the written forms of a number and the forms that read as one. -/
namespace Tabula.Decimal
open Tabula.Text

attribute [local instance (10000)] instPowNat

def pointed (mantissa scale : Nat) : List Char :=
  let chars := paddedDigits (scale + 1) mantissa
  let whole := chars.take (chars.length - scale)
  if scale = 0 then whole else whole ++ '.' :: chars.drop (chars.length - scale)

def withSign (negative : Bool) (chars : List Char) : List Char :=
  if negative then '-' :: chars else chars

def chars (number : Decimal) : List Char :=
  withSign number.negative (pointed number.mantissa number.scale)

def text (number : Decimal) : String := String.ofList number.chars

/-- How many zeros fit behind the mantissa, up to `bound`. -/
def spareZeros (mantissa : Nat) : Nat → Nat
  | 0 => 0
  | bound + 1 => if mantissa * 10 < mantissaLimit then spareZeros (mantissa * 10) bound + 1 else 0

/-- Mantissa and scale of a number rounded to `places` digits and padded to them with zeros, as far
as the mantissa has room; the scale may pass `maxScale` here. -/
def padded (number : Decimal) (places : Nat) : Nat × Nat :=
  let rounded := number.round places
  if rounded.isZero then (0, min places maxScale)
  else
    let zeros := spareZeros rounded.mantissa (places - rounded.scale)
    (rounded.mantissa * 10 ^ zeros, rounded.scale + zeros)

def fixedText (number : Decimal) (places : Nat) : String :=
  let (mantissa, scale) := number.padded places
  String.ofList (withSign (number.round places).negative (pointed mantissa scale))

abbrev textRoom : Nat := 30

def fitsText (number : Decimal) (places : Nat) : Bool := (number.padded places).2 ≤ textRoom

/-- Rounds a full mantissa by the first digit that it has no room for. -/
def roundLast (mantissa scale digit : Nat) : Option (Nat × Nat) :=
  if digit < 5 then some (mantissa, scale)
  else if mantissa + 1 < mantissaLimit then some (mantissa + 1, scale)
  else if scale = 0 then none
  else some ((mantissa + 5) / 10, scale - 1)

def takeFraction (mantissa scale : Nat) : List Nat → Option (Nat × Nat)
  | [] => some (mantissa, scale)
  | digit :: rest =>
    if scale < maxScale && 10 * mantissa + digit < mantissaLimit then
      takeFraction (10 * mantissa + digit) (scale + 1) rest
    else roundLast mantissa scale digit

def isDigitRun : List Char → Bool
  | [] => false
  | first :: rest => isDigit first && rest.all fun c => isDigit c || c == '_'

/-- Reads a numeral without an exponent. The digits behind the one it is rounded by have no weight, but
are still asked to be digits. -/
def ofPlain? (source : List Char) : Option Decimal :=
  let (negative, body) := splitSign source
  let whole := body.takeWhile (· != '.')
  let fraction := (body.dropWhile (· != '.')).drop 1
  let size := digitsValue (whole.filter isDigit)
  if isDigitRun (whole ++ fraction) && size < mantissaLimit then do
    let (mantissa, scale) ← takeFraction size 0 ((fraction.filter isDigit).map digitValue)
    of? (negative && mantissa != 0) mantissa scale
  else none

/-- Divides by a power of ten; digits beyond the last place are rounded, halves up. The sign stays,
also where nothing else is left. -/
def shiftDown (number : Decimal) (exponent : Nat) : Option Decimal :=
  if maxScale < exponent then none
  else if number.scale + exponent ≤ maxScale then
    of? number.negative number.mantissa (number.scale + exponent)
  else
    of? number.negative (halfUp number.mantissa (10 ^ (number.scale + exponent - maxScale))) maxScale

def shiftUp (number : Decimal) (exponent : Nat) : Option Decimal :=
  if exponent ≤ number.scale then of? number.negative number.mantissa (number.scale - exponent)
  else if maxScale < exponent then none
  else of? number.negative (number.mantissa * 10 ^ (exponent - number.scale)) 0

def isExponentMark (c : Char) : Bool := c == 'e' || c == 'E'

def ofScientific? (source : List Char) : Option Decimal := do
  let base ← ofPlain? (source.takeWhile (!isExponentMark ·))
  match source.dropWhile (!isExponentMark ·) with
  | [] => none
  | _ :: '-' :: exponent => base.shiftDown (← unsigned? UInt32.size exponent)
  | _ :: exponent => base.shiftUp (← unsigned? UInt32.size exponent)

def ofChars? (source : List Char) : Option Decimal :=
  (ofPlain? source).or (ofScientific? source)

def ofText? (source : String) : Option Decimal := ofChars? source.toList

end Tabula.Decimal
