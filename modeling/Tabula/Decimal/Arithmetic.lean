import Tabula.Decimal.Basic

/-! Sums, products and quotients, exact where they fit and rounded where they do not. -/
namespace Tabula.Decimal

attribute [local instance (10000)] instPowNat

/-- Drops the fewest digits that make the number fit, rounding halves to even. The sign stays, also
where nothing else is left. -/
def fit? (negative : Bool) (mantissa scale : Nat) : Option Decimal :=
  (List.range (scale + 1)).findSome? fun drop =>
    of? negative (halfEven mantissa (10 ^ drop)) (scale - drop)

def aligned (number : Decimal) (scale : Nat) : Int :=
  signed number.negative (number.mantissa * 10 ^ (scale - number.scale))

/-- A zero operand leaves the other as it is written. -/
def add? (left right : Decimal) : Option Decimal :=
  if left.isZero then some right
  else if right.isZero then some left
  else
    let scale := max left.scale right.scale
    let sum := left.aligned scale + right.aligned scale
    fit? (sum < 0) sum.natAbs scale

def sub? (left right : Decimal) : Option Decimal :=
  if right.isZero then some (if left.isZero then right else left)
  else left.add? right.neg

def isShort (number : Decimal) : Bool := number.mantissa < UInt32.size

/-- Two short factors have a zero without a sign as their product where it rounds to zero, and always
where they have more than 47 fraction digits together. -/
def mul? (left right : Decimal) : Option Decimal :=
  let scale := left.scale + right.scale
  let product? := fit? (left.negative != right.negative) (left.mantissa * right.mantissa) scale
  if left.isZero || right.isZero then some zero
  else if !(left.isShort && right.isShort) then product?
  else if 47 < scale then some zero
  else product?.map unsignedZero

def growth (quotient : Nat) : Nat → Nat
  | 0 => 0
  | power + 1 => if quotient * 10 ^ (power + 1) < mantissaLimit then power + 1 else growth quotient power

theorem growth_le (quotient bound : Nat) : growth quotient bound ≤ bound := by
  induction bound with
  | zero => simp [growth]
  | succ bound ih =>
    unfold growth
    split
    · exact Nat.le_refl _
    · omega

def shorten (quotient : Nat) (scale : Int) (more : Bool) : Option (Nat × Int) :=
  let last := quotient % 10
  let kept := quotient / 10
  let up := 5 < last || (last == 5 && (more || kept % 2 == 1))
  if scale < 1 then none else some (if up then kept + 1 else kept, scale - 1)

/-- Long division: `quotient / 10 ^ scale` so far, with `remainder` of `divisor` still to divide. -/
def quotientFrom (divisor quotient remainder : Nat) (scale : Int) : Option (Nat × Int) :=
  if _even : remainder = 0 then
    if _whole : 0 ≤ scale then some (quotient, scale)
    else
      let power := min 9 (-scale).toNat
      let grown := quotient * 10 ^ power
      if grown < mantissaLimit then quotientFrom divisor grown 0 (scale + power)
      else shorten grown (scale + power) false
  else
    let power := growth quotient (min 9 (maxScale - scale).toNat)
    if full : power = 0 then
      if scale < 0 then none
      else
        let up := divisor < 2 * remainder ∨ (2 * remainder = divisor ∧ quotient % 2 = 1)
        let rounded := if up then quotient + 1 else quotient
        if rounded < mantissaLimit then some (rounded, scale) else shorten rounded scale true
    else
      let grown := quotient * 10 ^ power + remainder * 10 ^ power / divisor
      let left := remainder * 10 ^ power % divisor
      if grown < mantissaLimit then quotientFrom divisor grown left (scale + power)
      else shorten grown (scale + power) (left != 0)
termination_by ((maxScale : Int) - scale).toNat
decreasing_by
  · have : power = min 9 (-scale).toNat := rfl
    simp only [maxScale]
    omega
  · have := growth_le quotient (min 9 ((maxScale : Int) - scale).toNat)
    have : power = growth quotient (min 9 ((maxScale : Int) - scale).toNat) := rfl
    simp only [maxScale] at *
    omega

def dropEights (quotient : Nat) (scale : Nat) : Nat × Nat :=
  if quotient % UInt32.size = 0 ∧ 8 ≤ scale ∧ quotient % 100000000 = 0 then
    dropEights (quotient / 100000000) (scale - 8)
  else (quotient, scale)
termination_by scale

def dropOnce (count : Nat) (number : Nat × Nat) : Nat × Nat :=
  if number.1 % 2 ^ count = 0 ∧ count ≤ number.2 ∧ number.1 % 10 ^ count = 0 then
    (number.1 / 10 ^ count, number.2 - count)
  else number

/-- Strips zeros in blocks of eight, then at most one block each of four, two and one. -/
def trimQuotient (quotient scale : Nat) : Nat × Nat :=
  dropOnce 1 (dropOnce 2 (dropOnce 4 (dropEights quotient scale)))

/-- The divisor is not zero. A quotient that came out even keeps its digits, any other is trimmed. -/
def div? (left right : Decimal) : Option Decimal :=
  if left.isZero then some zero
  else do
    let remainder := left.mantissa % right.mantissa
    let (quotient, scale) ← quotientFrom right.mantissa (left.mantissa / right.mantissa) remainder
      ((left.scale : Int) - right.scale)
    let (quotient, scale) :=
      if remainder = 0 then (quotient, scale.toNat) else trimQuotient quotient scale.toNat
    of? (left.negative != right.negative && quotient != 0) quotient scale

end Tabula.Decimal
