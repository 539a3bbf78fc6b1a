/-! Fixed point decimal numbers: size, order and rounding. -/
namespace Tabula

abbrev Decimal.mantissaLimit : Nat := UInt32.size * UInt64.size

abbrev Decimal.maxScale : Nat := 28

/-- The number `mantissa / 10 ^ scale`, negated when `negative`. -/
structure Decimal where
  negative : Bool
  mantissa : Nat
  scale : Nat
  mantissa_lt : mantissa < Decimal.mantissaLimit
  scale_le : scale ≤ Decimal.maxScale
  deriving DecidableEq, Repr

namespace Decimal

-- Powers are those of the core library also where another instance is in reach.
attribute [local instance (10000)] instPowNat

def of? (negative : Bool) (mantissa scale : Nat) : Option Decimal :=
  if fits : mantissa < mantissaLimit ∧ scale ≤ maxScale then
    some ⟨negative, mantissa, scale, fits.1, fits.2⟩
  else none

def zero : Decimal := ⟨false, 0, 0, by decide, by decide⟩

def one : Decimal := ⟨false, 1, 0, by decide, by decide⟩

def ofWord (word : UInt64) : Decimal :=
  ⟨false, word.toNat, 0, Nat.lt_trans word.toNat_lt (by decide), by decide⟩

def ofInt? (number : Int) : Option Decimal := of? (number < 0) number.natAbs 0

def isZero (number : Decimal) : Bool := number.mantissa == 0

def signed (negative : Bool) (size : Nat) : Int := if negative then -(size : Int) else size

/-- The number in units of the finest scale; two numbers are equal when these are. -/
def units (number : Decimal) : Int :=
  signed number.negative (number.mantissa * 10 ^ (maxScale - number.scale))

def sameAs (left right : Decimal) : Bool := left.units == right.units

def compare (left right : Decimal) : Ordering := Ord.compare left.units right.units

def below (left right : Decimal) : Bool := left.units < right.units

/-- A zero keeps the turned sign. -/
def neg (number : Decimal) : Decimal := { number with negative := !number.negative }

def dropZeros (mantissa : Nat) : Nat → Nat × Nat
  | 0 => (mantissa, 0)
  | scale + 1 => if mantissa % 10 = 0 then dropZeros (mantissa / 10) scale else (mantissa, scale + 1)

theorem dropZeros_le (mantissa scale : Nat) :
    (dropZeros mantissa scale).1 ≤ mantissa ∧ (dropZeros mantissa scale).2 ≤ scale := by
  induction scale generalizing mantissa with
  | zero => simp [dropZeros]
  | succ scale ih =>
    unfold dropZeros
    split
    · have := ih (mantissa / 10)
      omega
    · simp

def unsignedZero (number : Decimal) : Decimal :=
  { number with negative := number.negative && !number.isZero }

def normalize (number : Decimal) : Decimal where
  negative := number.negative && number.mantissa != 0
  mantissa := (dropZeros number.mantissa number.scale).1
  scale := (dropZeros number.mantissa number.scale).2
  mantissa_lt := Nat.lt_of_le_of_lt (dropZeros_le _ _).1 number.mantissa_lt
  scale_le := Nat.le_trans (dropZeros_le _ _).2 number.scale_le

def halfUp (number divisor : Nat) : Nat := (2 * number + divisor) / (2 * divisor)

def halfEven (number divisor : Nat) : Nat :=
  let quotient := number / divisor
  let twice := 2 * (number % divisor)
  if divisor < twice ∨ (twice = divisor ∧ quotient % 2 = 1) then quotient + 1 else quotient

theorem halfUp_pow_le (number drop : Nat) : halfUp number (10 ^ drop) ≤ number := by
  unfold halfUp
  have positive : 0 < 10 ^ drop := Nat.pow_pos (by decide)
  rcases Nat.eq_zero_or_pos drop with rfl | nonzero
  · omega
  · have large : 10 ≤ 10 ^ drop := by
      calc 10 = 10 ^ 1 := rfl
        _ ≤ 10 ^ drop := Nat.pow_le_pow_right (by decide) nonzero
    rcases Nat.eq_zero_or_pos number with rfl | some
    · exact Nat.le_of_eq (Nat.div_eq_of_lt (by omega))
    · apply Nat.div_le_of_le_mul
      have : 10 ^ drop + 2 * number ≤ 2 * 10 ^ drop * number := by
        have h₁ : 10 ^ drop * 1 ≤ 10 ^ drop * number := Nat.mul_le_mul_left _ some
        have h₂ : 10 * number ≤ 10 ^ drop * number := Nat.mul_le_mul_right _ large
        have h₃ : 2 * 10 ^ drop * number = 10 ^ drop * number + 10 ^ drop * number := by
          rw [Nat.mul_assoc, Nat.two_mul]
        omega
      omega

/-- Rounds half away from zero; a number with no more than `places` fraction digits stays as it is. A
number below zero that rounds to zero loses its sign, a zero keeps the sign that it has. -/
def round (number : Decimal) (places : Nat) : Decimal :=
  if fewer : number.scale ≤ places then number
  else
    { negative := number.negative &&
        (number.isZero || halfUp number.mantissa (10 ^ (number.scale - places)) != 0)
      mantissa := halfUp number.mantissa (10 ^ (number.scale - places))
      scale := places
      mantissa_lt := Nat.lt_of_le_of_lt (halfUp_pow_le _ _) number.mantissa_lt
      scale_le := by have := number.scale_le; omega }

end Decimal
end Tabula
