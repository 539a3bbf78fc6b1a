import Mathlib.Tactic.ByContra
import Tabula.Decimal.Basic

/-! The normal form of a decimal number: numbers of one size have the same. -/
namespace Tabula.Decimal

attribute [local instance (10000)] instPowNat

theorem dropZeros_size (mantissa scale : Nat) :
    (dropZeros mantissa scale).1 * 10 ^ (scale - (dropZeros mantissa scale).2) = mantissa := by
  induction scale generalizing mantissa with
  | zero => simp [dropZeros]
  | succ scale ih =>
    unfold dropZeros
    split
    · rename_i divisible
      have fewer := (dropZeros_le (mantissa / 10) scale).2
      calc (dropZeros (mantissa / 10) scale).1 * 10 ^ (scale + 1 - (dropZeros (mantissa / 10) scale).2)
          = (dropZeros (mantissa / 10) scale).1 *
              10 ^ (scale - (dropZeros (mantissa / 10) scale).2) * 10 := by
            rw [Nat.succ_sub fewer, Nat.pow_succ, Nat.mul_assoc]
        _ = mantissa / 10 * 10 := by rw [ih]
        _ = mantissa := Nat.div_mul_cancel (Nat.dvd_of_mod_eq_zero divisible)
    · simp

theorem dropZeros_last (mantissa scale : Nat) :
    (dropZeros mantissa scale).2 = 0 ∨ (dropZeros mantissa scale).1 % 10 ≠ 0 := by
  induction scale generalizing mantissa with
  | zero => exact .inl rfl
  | succ scale ih =>
    unfold dropZeros
    split
    · exact ih (mantissa / 10)
    · rename_i other
      exact .inr other

/-- No fraction digit to spare, and no sign on zero. -/
structure IsNormal (number : Decimal) : Prop where
  last : number.scale = 0 ∨ number.mantissa % 10 ≠ 0
  sign : number.mantissa = 0 → number.negative = false

def size (number : Decimal) : Nat := number.mantissa * 10 ^ (maxScale - number.scale)

theorem natAbs_units (number : Decimal) : number.units.natAbs = number.size := by
  unfold units signed
  split
  · exact Int.natAbs_neg _
  · rfl

theorem units_of_size_eq {left right : Decimal} (sizes : left.size = right.size)
    (signs : left.negative = right.negative ∨ left.size = 0) : left.units = right.units := by
  change signed left.negative left.size = signed right.negative right.size
  rcases signs with same | zero
  · rw [same, sizes]
  · rw [← sizes, zero]
    unfold signed
    split <;> split <;> rfl

theorem size_normalize (number : Decimal) : number.normalize.size = number.size := by
  have fewer : (dropZeros number.mantissa number.scale).2 ≤ number.scale := (dropZeros_le _ _).2
  have least := number.scale_le
  have places : maxScale - (dropZeros number.mantissa number.scale).2 =
      (number.scale - (dropZeros number.mantissa number.scale).2) + (maxScale - number.scale) := by
    omega
  unfold size normalize
  dsimp only
  rw [places, Nat.pow_add, ← Nat.mul_assoc, dropZeros_size]

theorem units_normalize (number : Decimal) : number.normalize.units = number.units := by
  apply units_of_size_eq number.size_normalize
  by_cases zero : number.mantissa = 0
  · right
    rw [size_normalize]
    unfold size
    rw [zero, Nat.zero_mul]
  · left
    unfold normalize
    simp [zero]

theorem isNormal_normalize (number : Decimal) : number.normalize.IsNormal where
  last := dropZeros_last number.mantissa number.scale
  sign zero := by
    have whole := dropZeros_size number.mantissa number.scale
    change (dropZeros number.mantissa number.scale).1 = 0 at zero
    rw [zero, Nat.zero_mul] at whole
    unfold normalize
    simp [← whole]

theorem scale_le_of_isNormal {left right : Decimal} (normal : right.IsNormal)
    (sizes : left.size = right.size) : right.scale ≤ left.scale := by
  rw [← Nat.not_lt]
  intro finer
  have least := right.scale_le
  have places : maxScale - left.scale =
      (right.scale - left.scale - 1) + 1 + (maxScale - right.scale) := by omega
  unfold size at sizes
  rw [places, Nat.pow_add, ← Nat.mul_assoc] at sizes
  have whole := Nat.eq_of_mul_eq_mul_right (Nat.pow_pos (by decide)) sizes
  rcases normal.last with none | last
  · omega
  · rw [← whole, Nat.pow_succ, ← Nat.mul_assoc, Nat.mul_mod_left] at last
    exact last rfl

theorem size_eq_zero_of_sign_ne {left right : Decimal} (same : left.units = right.units)
    (sizes : left.size = right.size) (signs : left.negative ≠ right.negative) : left.size = 0 := by
  change signed left.negative left.size = signed right.negative right.size at same
  rw [← sizes] at same
  unfold signed at same
  cases first : left.negative <;> cases second : right.negative
  · exact absurd (first.trans second.symm) signs
  · rw [first, second] at same
    simp only [Bool.false_eq_true, if_false, if_true] at same
    omega
  · rw [first, second] at same
    simp only [Bool.false_eq_true, if_false, if_true] at same
    omega
  · exact absurd (first.trans second.symm) signs

theorem eq_of_isNormal {left right : Decimal} (first : left.IsNormal) (second : right.IsNormal)
    (same : left.units = right.units) : left = right := by
  have sizes : left.size = right.size := by rw [← natAbs_units, ← natAbs_units, same]
  have scales : left.scale = right.scale :=
    Nat.le_antisymm (scale_le_of_isNormal first sizes.symm) (scale_le_of_isNormal second sizes)
  have mantissas : left.mantissa = right.mantissa := by
    unfold size at sizes
    rw [scales] at sizes
    exact Nat.eq_of_mul_eq_mul_right (Nat.pow_pos (by decide)) sizes
  have signs : left.negative = right.negative := by
    by_contra different
    have zero := size_eq_zero_of_sign_ne same sizes different
    have none : left.mantissa = 0 := by
      unfold size at zero
      exact (Nat.mul_eq_zero.1 zero).resolve_right (Nat.ne_of_gt (Nat.pow_pos (by decide)))
    exact different ((first.sign none).trans (second.sign (mantissas ▸ none)).symm)
  cases left
  cases right
  cases scales
  cases mantissas
  cases signs
  rfl

/-- Numbers have one normal form exactly when they have one size. -/
theorem normalize_eq_iff {left right : Decimal} :
    left.normalize = right.normalize ↔ left.sameAs right = true := by
  unfold sameAs
  rw [beq_iff_eq]
  constructor
  · intro same
    rw [← units_normalize left, same, units_normalize]
  · intro same
    apply eq_of_isNormal left.isNormal_normalize right.isNormal_normalize
    rw [units_normalize, units_normalize, same]

end Tabula.Decimal
