import Tabula.Decimal.Basic
import Tabula.Decimal.Text

/-! Binary floating point values of 64 bits and their shortest decimal text. -/
namespace Tabula

/-- The number `mantissa * 2 ^ exponent`, negated when `negative`. -/
structure Binary64 where
  negative : Bool
  mantissa : Nat
  exponent : Int
  deriving DecidableEq, Repr

namespace Binary64

attribute [local instance (10000)] instPowNat

abbrev hiddenBit : Nat := 0x10000000000000

abbrev lowestExponent : Int := -1074

/-- The number nearest to a fraction with a denominator above zero; a tie goes to the even mantissa. -/
def ofRatio (negative : Bool) (size unit : Nat) : Binary64 :=
  if size = 0 then ⟨negative, 0, lowestExponent⟩
  else
    let guess : Int := (Nat.log2 size : Int) - Nat.log2 unit - 52
    let small := size * 2 ^ (-guess).toNat < hiddenBit * (unit * 2 ^ guess.toNat)
    let exponent := max lowestExponent (if small then guess - 1 else guess)
    let mantissa := Decimal.halfEven (size * 2 ^ (-exponent).toNat) (unit * 2 ^ exponent.toNat)
    if mantissa = 2 * hiddenBit then ⟨negative, hiddenBit, exponent + 1⟩
    else ⟨negative, mantissa, exponent⟩

def times (left right : Binary64) : Binary64 :=
  let exponent := left.exponent + right.exponent
  ofRatio (left.negative != right.negative) (left.mantissa * right.mantissa * 2 ^ exponent.toNat)
    (2 ^ (-exponent).toNat)

def dividedBy (left right : Binary64) : Binary64 :=
  let exponent := left.exponent - right.exponent
  ofRatio (left.negative != right.negative) (left.mantissa * 2 ^ exponent.toNat)
    (right.mantissa * 2 ^ (-exponent).toNat)

def powerOfTen (exponent : Nat) : Binary64 := ofRatio false (10 ^ exponent) 1

abbrev largestPower : Nat := 308

/-- Scales by a power of ten in one rounded step, or in two where the power is no number itself. -/
def scale (number : Binary64) (exponent : Int) : Binary64 :=
  if 0 ≤ exponent then number.times (powerOfTen exponent.toNat)
  else if exponent.natAbs ≤ largestPower then number.dividedBy (powerOfTen exponent.natAbs)
  else (number.dividedBy (powerOfTen largestPower)).dividedBy (powerOfTen (exponent.natAbs - largestPower))

/-- The bounds of the numbers that round to this one, and the number itself, as multiples of
`2 ^ (exponent - 2)`. -/
def neighbourhood (number : Binary64) : Nat × Nat × Nat :=
  let centre := 4 * number.mantissa
  let narrow := number.mantissa = hiddenBit ∧ lowestExponent < number.exponent
  (centre - (if narrow then 1 else 2), centre, centre + 2)

def ratio (factor : Nat) (exponent place : Int) : Nat × Nat :=
  (factor * 2 ^ exponent.toNat * 10 ^ (-place).toNat, 2 ^ (-exponent).toNat * 10 ^ place.toNat)

/-- The multiple of `10 ^ place` nearest to the number, if one rounds to it; halfway, the larger. -/
def nearest? (number : Binary64) (place : Int) : Option Nat :=
  let (low, centre, high) := number.neighbourhood
  let exponent := number.exponent - 2
  let (size, unit) := ratio centre exponent place
  let (lowSize, _) := ratio low exponent place
  let (highSize, _) := ratio high exponent place
  let even := number.mantissa % 2 = 0
  let rounds (candidate : Nat) : Bool :=
    if even then lowSize ≤ candidate * unit && candidate * unit ≤ highSize
    else lowSize < candidate * unit && candidate * unit < highSize
  let below := size / unit
  match rounds below, rounds (below + 1) with
  | true, true => some (if 2 * (size % unit) < unit then below else below + 1)
  | true, false => some below
  | false, true => some (below + 1)
  | false, false => none

def coarsest (number : Binary64) : Nat → Int → Option (Nat × Int)
  | 0, _ => none
  | steps + 1, place =>
    match number.nearest? place with
    | some digits => some (digits, place)
    | none => coarsest number steps (place - 1)

/-- The fewest digits that read back, written without an exponent. -/
def chars (number : Binary64) : List Char :=
  let size :=
    if number.mantissa = 0 then ['0']
    else
      match coarsest number 660 309 with
      | some (digits, place) => Decimal.pointed (digits * 10 ^ place.toNat) (-place).toNat
      | none => []
  Decimal.withSign number.negative size

def text (number : Binary64) : String := String.ofList number.chars

end Binary64

inductive Float64
  | number (value : Binary64)
  | infinity (negative : Bool)
  | nan
  deriving DecidableEq, Repr

def Float64.text : Float64 → String
  | number value => value.text
  | infinity true => "-inf"
  | infinity false => "inf"
  | nan => "NaN"

end Tabula
