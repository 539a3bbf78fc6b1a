import Mathlib.Tactic.Ring
import Tabula.Decimal.Arithmetic

/-! One more than a number: greater also where it is rounded, and missing behind one number only. -/
namespace Tabula.Decimal

attribute [local instance (10000)] instPowNat

/-- The largest of all numbers, which has no fraction digits to spare. -/
def largest : Decimal := ⟨false, mantissaLimit - 1, 0, by decide, Nat.zero_le maxScale⟩

def thousandth : Decimal := { one with scale := 3, scale_le := by decide }

theorem units_le_largest (number : Decimal) : number.units ≤ largest.units := by
  have bound := number.mantissa_lt
  have places : 10 ^ (maxScale - number.scale) ≤ 10 ^ maxScale :=
    Nat.pow_le_pow_right (by decide) (Nat.sub_le _ _)
  have size : number.mantissa * 10 ^ (maxScale - number.scale) ≤
      (mantissaLimit - 1) * 10 ^ maxScale :=
    Nat.mul_le_mul (by omega) places
  have shown : largest.units = ((mantissaLimit - 1) * 10 ^ maxScale : Nat) := rfl
  rw [shown]
  unfold units signed
  split <;> omega

theorem halfEven_one (number : Nat) : halfEven number 1 = number := by
  unfold halfEven
  simp [Nat.mod_one]

theorem halfEven_ten_le (number : Nat) : halfEven number 10 ≤ number / 10 + 1 := by
  unfold halfEven
  dsimp only
  split <;> omega

theorem le_halfEven_ten (number : Nat) : number ≤ 10 * halfEven number 10 + 5 := by
  unfold halfEven
  dsimp only
  split <;> omega

theorem of?_eq_some {mantissa scale : Nat} (negative : Bool) (small : mantissa < mantissaLimit)
    (coarse : scale ≤ maxScale) :
    of? negative mantissa scale = some ⟨negative, mantissa, scale, small, coarse⟩ := by
  unfold of?
  rw [dif_pos ⟨small, coarse⟩]

theorem of?_eq_none {mantissa scale : Nat} (negative : Bool) (big : mantissaLimit ≤ mantissa) :
    of? negative mantissa scale = none := by
  unfold of?
  rw [dif_neg]
  intro fits
  exact absurd fits.1 (Nat.not_lt.2 big)

theorem fit?_of_small {mantissa scale : Nat} (negative : Bool) (small : mantissa < mantissaLimit)
    (coarse : scale ≤ maxScale) :
    fit? negative mantissa scale = some ⟨negative, mantissa, scale, small, coarse⟩ := by
  unfold fit?
  rw [List.range_succ_eq_map, List.findSome?_cons, Nat.pow_zero, halfEven_one, Nat.sub_zero,
    of?_eq_some negative small coarse]

theorem fit?_of_big {mantissa scale : Nat} (negative : Bool) (big : mantissaLimit ≤ mantissa)
    (small : halfEven mantissa 10 < mantissaLimit) (coarse : scale ≤ maxScale) :
    fit? negative mantissa (scale + 1) =
      some ⟨negative, halfEven mantissa 10, scale, small, coarse⟩ := by
  unfold fit?
  have shorter : of? negative (halfEven mantissa (10 ^ Nat.succ 0)) (scale + 1 - Nat.succ 0) =
      some ⟨negative, halfEven mantissa 10, scale, small, coarse⟩ := of?_eq_some negative small coarse
  rw [List.range_succ_eq_map, List.range_succ_eq_map, List.findSome?_cons, Nat.pow_zero, halfEven_one,
    of?_eq_none _ big, List.map_cons, List.findSome?_cons, shorter]

theorem signed_mul (negative : Bool) (size factor : Nat) :
    signed negative (size * factor) = signed negative size * factor := by
  unfold signed
  split <;> push_cast <;> ring

theorem signed_natAbs (number : Int) : signed (number < 0) number.natAbs = number := by
  unfold signed
  split <;> rename_i below <;> simp only [decide_eq_true_eq] at below <;> omega

theorem pow_lt_mantissaLimit {scale : Nat} (coarse : scale ≤ maxScale) : 10 ^ scale < mantissaLimit :=
  Nat.lt_of_le_of_lt (Nat.pow_le_pow_right (by decide) coarse) (by decide)

theorem add?_one_of_nonzero {number : Decimal} (nonzero : number.isZero = false) :
    number.add? one =
      let sum := signed number.negative number.mantissa + (10 ^ number.scale : Nat)
      fit? (sum < 0) sum.natAbs number.scale := by
  have scales : max number.scale one.scale = number.scale := Nat.max_eq_left (Nat.zero_le _)
  have own : number.aligned number.scale = signed number.negative number.mantissa := by
    unfold aligned
    rw [Nat.sub_self, Nat.pow_zero, Nat.mul_one]
  have unit : one.aligned number.scale = (10 ^ number.scale : Nat) := by
    unfold aligned
    change ((1 * 10 ^ (number.scale - 0) : Nat) : Int) = _
    rw [Nat.one_mul, Nat.sub_zero]
  unfold add?
  rw [nonzero, if_neg Bool.false_ne_true, if_neg (by decide)]
  dsimp only
  rw [scales, own, unit]

theorem units_lt_one {number : Decimal} (zero : number.isZero = true) : number.units < one.units := by
  have none : number.mantissa = 0 := by simpa [isZero] using zero
  unfold units
  rw [none, Nat.zero_mul]
  unfold signed
  split <;> decide

theorem lt_rounded {mantissa scale : Nat} (coarse : scale + 1 ≤ maxScale) :
    mantissa * 10 ^ (maxScale - (scale + 1)) <
      halfEven (mantissa + 10 ^ (scale + 1)) 10 * 10 ^ (maxScale - scale) := by
  have finer : 0 < 10 ^ (maxScale - (scale + 1)) := Nat.pow_pos (by decide)
  have least : 10 ≤ 10 ^ (scale + 1) := by
    calc 10 = 10 ^ 1 := rfl
      _ ≤ 10 ^ (scale + 1) := Nat.pow_le_pow_right (by decide) (by omega)
  have rounded := le_halfEven_ten (mantissa + 10 ^ (scale + 1))
  have places : maxScale - scale = maxScale - (scale + 1) + 1 := by omega
  calc mantissa * 10 ^ (maxScale - (scale + 1))
      < halfEven (mantissa + 10 ^ (scale + 1)) 10 * 10 * 10 ^ (maxScale - (scale + 1)) := by
        apply Nat.mul_lt_mul_of_pos_right _ finer
        omega
    _ = halfEven (mantissa + 10 ^ (scale + 1)) 10 * 10 ^ (maxScale - scale) := by
        rw [Nat.mul_assoc, Nat.mul_comm 10, ← Nat.pow_succ, Nat.succ_eq_add_one, ← places]

/-- Only the largest number has no number behind it. -/
theorem add?_one (number : Decimal) :
    number = largest ∨ ∃ next, number.add? one = some next ∧ number.units < next.units := by
  by_cases zero : number.isZero = true
  · refine .inr ⟨one, ?_, units_lt_one zero⟩
    unfold add?
    rw [if_pos zero]
  rw [Bool.not_eq_true] at zero
  have power := pow_lt_mantissaLimit number.scale_le
  have positive : 0 < 10 ^ number.scale := Nat.pow_pos (by decide)
  have bound := number.mantissa_lt
  rw [add?_one_of_nonzero zero]
  dsimp only
  generalize total : signed number.negative number.mantissa + (10 ^ number.scale : Nat) = sum
  by_cases small : sum.natAbs < mantissaLimit
  · refine .inr ⟨_, fit?_of_small _ small number.scale_le, ?_⟩
    have finer : (0 : Int) < (10 ^ (maxScale - number.scale) : Nat) :=
      Int.natCast_pos.2 (Nat.pow_pos (by decide))
    unfold units
    dsimp only
    rw [signed_mul, signed_mul, signed_natAbs]
    apply Int.mul_lt_mul_of_pos_right _ finer
    omega
  rw [Nat.not_lt] at small
  -- The sum leaves the range of a mantissa upwards only: from below zero it comes closer to zero.
  have above : number.negative = false := by
    by_contra below
    rw [Bool.not_eq_false] at below
    rw [below] at total
    change -(number.mantissa : Int) + _ = _ at total
    omega
  rw [above] at total
  change (number.mantissa : Int) + _ = _ at total
  have whole : sum.natAbs = number.mantissa + 10 ^ number.scale := by omega
  have sign : decide (sum < 0) = false := by
    rw [decide_eq_false_iff_not]
    omega
  rw [sign, whole]
  rw [whole] at small
  clear total whole sign zero positive
  rcases number with ⟨negative, mantissa, scale, mantissa_lt, scale_le⟩
  dsimp only at *
  subst above
  cases scale with
  | zero =>
    rw [Nat.pow_zero] at small
    have last : mantissa = mantissaLimit - 1 := by omega
    subst last
    exact .inl rfl
  | succ scale =>
    have rounded := halfEven_ten_le (mantissa + 10 ^ (scale + 1))
    have short : halfEven (mantissa + 10 ^ (scale + 1)) 10 < mantissaLimit := by omega
    have coarse : scale ≤ maxScale := by omega
    exact .inr ⟨_, fit?_of_big false small short coarse, Int.ofNat_lt.2 (lt_rounded scale_le)⟩

theorem add?_one_eq_none {number : Decimal} : number.add? one = none ↔ number = largest := by
  constructor
  · intro missing
    rcases number.add?_one with last | ⟨next, sum, _⟩
    · exact last
    · rw [missing] at sum
      cases sum
  · rintro rfl
    rfl

end Tabula.Decimal
