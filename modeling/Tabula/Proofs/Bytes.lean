import Tabula.Bytes

/-! Byte strings of a fixed width hold the number, as far as it fits, and nothing of what follows. -/
namespace Tabula

attribute [local instance (10000)] instPowNat

theorem bigEndian_succ (count number : Nat) :
    bigEndian (count + 1) number = UInt8.ofNat (number / 256 ^ count) :: bigEndian count number := by
  unfold bigEndian
  rw [List.range_succ, List.reverse_append]
  rfl

theorem length_bigEndian (count number : Nat) : (bigEndian count number).length = count := by
  unfold bigEndian
  rw [List.length_map, List.length_reverse, List.length_range]

theorem ofNat_inj {left right : Nat} (same : UInt8.ofNat left = UInt8.ofNat right) :
    left % 256 = right % 256 := by
  have values := congrArg UInt8.toNat same
  rwa [UInt8.toNat_ofNat', UInt8.toNat_ofNat'] at values

theorem bigEndian_inj {count left right : Nat} (same : bigEndian count left = bigEndian count right) :
    left % 256 ^ count = right % 256 ^ count := by
  induction count with
  | zero => rw [Nat.pow_zero, Nat.mod_one, Nat.mod_one]
  | succ count ih =>
    rw [bigEndian_succ, bigEndian_succ] at same
    obtain ⟨first, rest⟩ := List.cons.inj same
    rw [Nat.pow_succ, Nat.mod_mul, Nat.mod_mul, ih rest, ofNat_inj first]

theorem bigEndian_append_inj {count left right : Nat} {rest rest' : Bytes}
    (equal : bigEndian count left ++ rest = bigEndian count right ++ rest') :
    left % 256 ^ count = right % 256 ^ count ∧ rest = rest' := by
  have lengths : (bigEndian count left).length = (bigEndian count right).length := by
    rw [length_bigEndian, length_bigEndian]
  obtain ⟨front, back⟩ := List.append_inj equal lengths
  exact ⟨bigEndian_inj front, back⟩

/-- A number that fits is told by its bytes, whatever follows them. -/
theorem bigEndian_append_iff {count left right : Nat} {rest rest' : Bytes}
    (first : left < 256 ^ count) (second : right < 256 ^ count) :
    bigEndian count left ++ rest = bigEndian count right ++ rest' ↔ left = right ∧ rest = rest' := by
  constructor
  · intro equal
    obtain ⟨low, back⟩ := bigEndian_append_inj equal
    rw [Nat.mod_eq_of_lt first, Nat.mod_eq_of_lt second] at low
    exact ⟨low, back⟩
  · intro given
    obtain ⟨rfl, rfl⟩ := given
    rfl

theorem toNat_emod_lt (number : Int) (count : Nat) : (number % 256 ^ count).toNat < 256 ^ count := by
  have positive : (0 : Int) < 256 ^ count := Int.pow_pos (by decide)
  rw [Int.toNat_lt (Int.emod_nonneg number (Int.ne_of_gt positive))]
  exact Int.emod_lt_of_pos number positive

theorem bigEndianInt_append_inj {count : Nat} {left right : Int} {rest rest' : Bytes}
    (equal : bigEndianInt count left ++ rest = bigEndianInt count right ++ rest') :
    left % 256 ^ count = right % 256 ^ count ∧ rest = rest' := by
  obtain ⟨low, back⟩ :=
    (bigEndian_append_iff (toNat_emod_lt left count) (toNat_emod_lt right count)).1 equal
  have nonzero : (256 : Int) ^ count ≠ 0 := Int.ne_of_gt (Int.pow_pos (by decide))
  refine ⟨?_, back⟩
  calc left % 256 ^ count = ((left % 256 ^ count).toNat : Int) :=
        (Int.toNat_of_nonneg (Int.emod_nonneg left nonzero)).symm
    _ = ((right % 256 ^ count).toNat : Int) := congrArg Nat.cast low
    _ = right % 256 ^ count := Int.toNat_of_nonneg (Int.emod_nonneg right nonzero)

end Tabula
