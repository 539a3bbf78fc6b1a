import Mathlib.Data.List.Basic
import Mathlib.Data.List.Induction
import Tabula.Text.Numeral

/-! Runs of digits and the numbers that they are the numerals of. -/
namespace Tabula.Text

-- Powers are those of the core library also where another instance is in reach.
attribute [local instance (10000)] instPowNat

theorem isDigit_iff {c : Char} : isDigit c = true ↔ 48 ≤ c.toNat ∧ c.toNat ≤ 57 := by
  simp only [isDigit, Bool.and_eq_true, decide_eq_true_eq, Char.le_def, UInt32.le_iff_toNat_le]
  rfl

theorem digitValue_lt {c : Char} (digit : isDigit c = true) : digitValue c < 10 := by
  have bounds := isDigit_iff.1 digit
  change c.toNat - 48 < 10
  omega

theorem digitChar_digitValue {c : Char} (digit : isDigit c = true) :
    digitChar (digitValue c) = c := by
  have bounds := isDigit_iff.1 digit
  have whole : '0'.toNat + (c.toNat - '0'.toNat) = c.toNat := by
    change 48 + (c.toNat - 48) = c.toNat
    omega
  unfold digitChar digitValue
  rw [whole, Char.ofNat_toNat]

theorem digitValue_digitChar {digit : Nat} (small : digit < 10) :
    digitValue (digitChar digit) = digit := by
  have each : ∀ digit < 10, digitValue (digitChar digit) = digit := by decide
  exact each digit small

theorem isDigit_digitChar {digit : Nat} (small : digit < 10) : isDigit (digitChar digit) = true := by
  have each : ∀ digit < 10, isDigit (digitChar digit) = true := by decide
  exact each digit small

theorem digitsValue_append_singleton (chars : List Char) (c : Char) :
    digitsValue (chars ++ [c]) = 10 * digitsValue chars + digitValue c := by
  simp [digitsValue]

theorem paddedDigits_succ {width digit : Nat} (number : Nat) (filled : 0 < width)
    (small : digit < 10) :
    paddedDigits (width + 1) (10 * number + digit) = paddedDigits width number ++ [digitChar digit] := by
  unfold paddedDigits padLeft
  rcases Nat.eq_zero_or_pos number with rfl | positive
  · have alone : digits (10 * 0 + digit) = [digitChar digit] := by
      rw [digits, if_pos (by omega), Nat.mul_zero, Nat.zero_add]
    have zero : digits 0 = ['0'] := by rw [digits]; rfl
    rw [alone, zero]
    have zeros : List.replicate (width - 1) '0' ++ ['0'] = List.replicate width '0' := by
      rw [← List.replicate_succ']
      congr 1
      omega
    simp [zeros]
  · have split : digits (10 * number + digit) = digits number ++ [digitChar digit] := by
      rw [digits, if_neg (by omega)]
      congr 3 <;> omega
    rw [split, List.length_append, List.length_singleton, Nat.add_sub_add_right, List.append_assoc]

/-- A run of digits is the numeral of its value, padded to its own length. -/
theorem paddedDigits_digitsValue {run : List Char} (filled : run ≠ [])
    (numeric : ∀ c ∈ run, isDigit c = true) : paddedDigits run.length (digitsValue run) = run := by
  induction run using List.reverseRecOn with
  | nil => exact absurd rfl filled
  | append_singleton front last ih =>
    have digit : isDigit last = true := numeric last (by simp)
    rw [digitsValue_append_singleton, List.length_append, List.length_singleton]
    rcases List.eq_nil_or_concat front with rfl | ⟨_, _, more⟩
    · have single : digits (digitValue last) = [digitChar (digitValue last)] := by
        rw [digits, if_pos (digitValue_lt digit)]
      simp [paddedDigits, padLeft, digitsValue, single, digitChar_digitValue digit]
    · have nonempty : front ≠ [] := by simp [more]
      rw [paddedDigits_succ _ (List.length_pos_iff.2 nonempty) (digitValue_lt digit),
        ih nonempty fun c inside => numeric c (List.mem_append_left _ inside),
        digitChar_digitValue digit]

theorem paddedDigits_spec {width number : Nat} (small : number < 10 ^ (width + 1)) :
    (paddedDigits (width + 1) number).length = width + 1 ∧
      (∀ c ∈ paddedDigits (width + 1) number, isDigit c = true) ∧
      digitsValue (paddedDigits (width + 1) number) = number := by
  induction width generalizing number with
  | zero =>
    have single : paddedDigits 1 number = [digitChar number] := by
      have alone : digits number = [digitChar number] := by rw [digits, if_pos (by omega)]
      simp [paddedDigits, padLeft, alone]
    rw [single]
    refine ⟨rfl, ?_, ?_⟩
    · simpa using isDigit_digitChar (by omega)
    · simpa [digitsValue] using digitValue_digitChar (by omega)
  | succ width ih =>
    have last : number % 10 < 10 := Nat.mod_lt _ (by decide)
    have front : number / 10 < 10 ^ (width + 1) := by
      rw [Nat.pow_succ] at small
      omega
    obtain ⟨length, numeric, value⟩ := ih front
    have split : number = 10 * (number / 10) + number % 10 := by omega
    rw [split, paddedDigits_succ _ (Nat.succ_pos width) last]
    refine ⟨?_, ?_, ?_⟩
    · rw [List.length_append, length, List.length_singleton]
    · intro c member
      rcases List.mem_append.1 member with inside | alone
      · exact numeric c inside
      · rw [List.mem_singleton.1 alone]
        exact isDigit_digitChar last
    · rw [digitsValue_append_singleton, value, digitValue_digitChar last]

theorem digitsValue_lt {run : List Char} (numeric : ∀ c ∈ run, isDigit c = true) :
    digitsValue run < 10 ^ run.length := by
  induction run using List.reverseRecOn with
  | nil => exact Nat.one_pos
  | append_singleton front last ih =>
    have small := digitValue_lt (numeric last (by simp))
    have earlier := ih fun c inside => numeric c (List.mem_append_left _ inside)
    rw [digitsValue_append_singleton, List.length_append, List.length_singleton, Nat.pow_succ]
    omega

/-- Digits are taken exactly off the front of texts that begin with a padded numeral. -/
theorem takeDigits_eq_some {width number : Nat} {chars rest : List Char} :
    takeDigits (width + 1) chars = some (number, rest) ↔
      number < 10 ^ (width + 1) ∧ chars = paddedDigits (width + 1) number ++ rest := by
  unfold takeDigits
  constructor
  · intro taken
    dsimp only at taken
    split at taken
    · rename_i allowed
      rw [Bool.and_eq_true, decide_eq_true_eq, List.all_eq_true] at allowed
      obtain ⟨length, numeric⟩ := allowed
      cases taken
      have filled : chars.take (width + 1) ≠ [] := by
        intro empty
        rw [empty] at length
        cases length
      have small := digitsValue_lt numeric
      have padded := paddedDigits_digitsValue filled numeric
      rw [length] at small padded
      rw [padded]
      exact ⟨small, (List.take_append_drop _ _).symm⟩
    · cases taken
  · intro given
    obtain ⟨small, rfl⟩ := given
    obtain ⟨length, numeric, value⟩ := paddedDigits_spec small
    rw [List.take_left' length, List.drop_left' length, if_pos, value]
    rw [Bool.and_eq_true, decide_eq_true_eq, List.all_eq_true]
    exact ⟨length, numeric⟩

/-- The numeral of a number: digits alone, with no zero in front of others. -/
structure IsNumeral (number : Nat) (chars : List Char) : Prop where
  filled : chars ≠ []
  numeric : ∀ c ∈ chars, isDigit c = true
  value : digitsValue chars = number
  shortest : chars.head? = some '0' → chars = ['0']

theorem isNumeral_digits (number : Nat) : IsNumeral number (digits number) := by
  induction number using digits.induct with
  | case1 number small =>
    have alone : digits number = [digitChar number] := by rw [digits, if_pos small]
    rw [alone]
    constructor
    · exact List.cons_ne_nil _ _
    · simpa using isDigit_digitChar small
    · simpa [digitsValue] using digitValue_digitChar small
    · intro zero
      rw [Option.some.inj zero]
  | case2 number large ih =>
    have split : digits number = digits (number / 10) ++ [digitChar (number % 10)] := by
      rw [digits, if_neg large]
    have small : number % 10 < 10 := Nat.mod_lt _ (by decide)
    rw [split]
    constructor
    · simp
    · intro c member
      rcases List.mem_append.1 member with inside | alone
      · exact ih.numeric c inside
      · rw [List.mem_singleton.1 alone]
        exact isDigit_digitChar small
    · rw [digitsValue_append_singleton, ih.value, digitValue_digitChar small]
      omega
    · intro zero
      rw [List.head?_append_of_ne_nil _ ih.filled] at zero
      -- A single zero would be the numeral of a number below ten without its last digit.
      have nothing : number / 10 = 0 := by rw [← ih.value, ih.shortest zero]; rfl
      omega

theorem isNumeral_iff {number : Nat} {chars : List Char} :
    IsNumeral number chars ↔ chars = digits number := by
  constructor
  · intro spelled
    have padded := paddedDigits_digitsValue spelled.filled spelled.numeric
    rw [spelled.value, paddedDigits, padLeft] at padded
    cases missing : chars.length - (digits number).length with
    | zero => simpa [missing] using padded.symm
    | succ more =>
      have zero : chars.head? = some '0' := by
        rw [← padded, missing]
        rfl
      have positive := List.length_pos_iff.2 (digits_ne_nil number)
      rw [spelled.shortest zero] at missing
      simp at missing
      omega
  · rintro rfl
    exact isNumeral_digits number

end Tabula.Text
