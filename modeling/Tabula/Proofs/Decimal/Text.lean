import Mathlib.Tactic.Ring
import Tabula.Decimal.Text
import Tabula.Proofs.Calendar.Text
import Tabula.Proofs.Decimal.Normal

/-!
The text of a number with a fixed count of fraction digits. It denotes the number and reads back as one of
the same size; digits that the mantissa has no room for are left out.
-/
namespace Tabula.Text

attribute [local instance (10000)] instPowNat

theorem digitsValue_append (front back : List Char) :
    digitsValue (front ++ back) = digitsValue front * 10 ^ back.length + digitsValue back := by
  induction back using List.reverseRecOn with
  | nil => simp [digitsValue]
  | append_singleton back last ih =>
    rw [← List.append_assoc, digitsValue_append_singleton, digitsValue_append_singleton, ih,
      List.length_append, List.length_singleton, Nat.pow_succ]
    ring

theorem paddedDigits_split (scale number : Nat) :
    ∃ fraction, paddedDigits (scale + 1) number = digits (number / 10 ^ scale) ++ fraction ∧
      fraction.length = scale ∧ (∀ c ∈ fraction, isDigit c = true) ∧
      digitsValue fraction = number % 10 ^ scale := by
  induction scale generalizing number with
  | zero =>
    refine ⟨[], ?_, rfl, nofun, ?_⟩
    · have long := List.length_pos_iff.2 (digits_ne_nil number)
      simp [paddedDigits_of_length long]
    · simp [digitsValue, Nat.mod_one]
  | succ scale ih =>
    obtain ⟨fraction, split, length, numeric, value⟩ := ih (number / 10)
    have last : number % 10 < 10 := Nat.mod_lt _ (by decide)
    have whole : 10 * (number / 10) + number % 10 = number := Nat.div_add_mod number 10
    refine ⟨fraction ++ [digitChar (number % 10)], ?_, ?_, ?_, ?_⟩
    · calc paddedDigits (scale + 1 + 1) number
          = paddedDigits (scale + 1) (number / 10) ++ [digitChar (number % 10)] := by
            rw [← paddedDigits_succ _ (Nat.succ_pos scale) last, whole]
        _ = digits (number / 10 ^ (scale + 1)) ++ (fraction ++ [digitChar (number % 10)]) := by
            rw [split, List.append_assoc, Nat.div_div_eq_div_mul, Nat.pow_succ, Nat.mul_comm 10]
    · simp [length]
    · intro c member
      rcases List.mem_append.1 member with inside | alone
      · exact numeric c inside
      · rw [List.mem_singleton.1 alone]
        exact isDigit_digitChar last
    · rw [digitsValue_append_singleton, value, digitValue_digitChar last, Nat.pow_succ,
        Nat.mul_comm (10 ^ scale), Nat.mod_mul]
      omega

end Tabula.Text

namespace Tabula.Decimal
open Tabula.Text

attribute [local instance (10000)] instPowNat

def withPoint (whole fraction : List Char) : List Char :=
  if fraction.isEmpty then whole else whole ++ '.' :: fraction

/-- The characters are a numeral with exactly `places` fraction digits, and denote the number. -/
def Spells (number : Decimal) (places : Nat) (chars : List Char) : Prop :=
  ∃ whole fraction, chars = withSign number.negative (withPoint (digits whole) fraction) ∧
    (∀ c ∈ fraction, isDigit c = true) ∧ fraction.length = places ∧
    (whole * 10 ^ places + digitsValue fraction) * 10 ^ number.scale = number.mantissa * 10 ^ places

/-- Of the fraction digits asked for, as many are shown as the mantissa has room for. -/
structure Shows (number : Decimal) (asked shown : Nat) : Prop where
  within : shown ≤ asked
  room : number.mantissa * 10 ^ (shown - number.scale) < mantissaLimit
  most : shown < asked → mantissaLimit ≤ number.mantissa * 10 ^ (shown + 1 - number.scale)

theorem Shows.eq_asked {number : Decimal} {asked shown : Nat} (counted : number.Shows asked shown) :
    shown = asked ↔ number.mantissa * 10 ^ (asked - number.scale) < mantissaLimit := by
  constructor
  · intro same
    rw [← same]
    exact counted.room
  · intro room
    by_contra other
    have fewer : shown < asked := Nat.lt_of_le_of_ne counted.within other
    have larger : 10 ^ (shown + 1 - number.scale) ≤ 10 ^ (asked - number.scale) :=
      Nat.pow_le_pow_right (by decide) (by omega)
    have := Nat.mul_le_mul_left number.mantissa larger
    have := counted.most fewer
    omega

section
variable {mantissa bound : Nat}

theorem spareZeros_le (mantissa bound : Nat) : spareZeros mantissa bound ≤ bound := by
  induction bound generalizing mantissa with
  | zero => simp [spareZeros]
  | succ bound ih =>
    have fewer := ih (mantissa * 10)
    by_cases room : mantissa * 10 < mantissaLimit
    · simp only [spareZeros, if_pos room]
      omega
    · simp [spareZeros, room]

theorem spareZeros_room (small : mantissa < mantissaLimit) (bound : Nat) :
    mantissa * 10 ^ spareZeros mantissa bound < mantissaLimit := by
  induction bound generalizing mantissa with
  | zero => simpa [spareZeros] using small
  | succ bound ih =>
    by_cases room : mantissa * 10 < mantissaLimit
    · simp only [spareZeros, if_pos room]
      rw [Nat.pow_succ', ← Nat.mul_assoc]
      exact ih room
    · simpa [spareZeros, room] using small

theorem spareZeros_most (fewer : spareZeros mantissa bound < bound) :
    mantissaLimit ≤ mantissa * 10 ^ (spareZeros mantissa bound + 1) := by
  induction bound generalizing mantissa with
  | zero => exact absurd fewer (Nat.not_lt_zero _)
  | succ bound ih =>
    by_cases room : mantissa * 10 < mantissaLimit
    · simp only [spareZeros, if_pos room] at fewer ⊢
      rw [Nat.pow_succ', ← Nat.mul_assoc]
      exact ih (Nat.lt_of_succ_lt_succ fewer)
    · simp only [spareZeros, if_neg room]
      simpa using Nat.le_of_not_lt room

end

theorem exists_pointed (mantissa scale : Nat) :
    ∃ fraction, pointed mantissa scale = withPoint (digits (mantissa / 10 ^ scale)) fraction ∧
      (∀ c ∈ fraction, isDigit c = true) ∧ fraction.length = scale ∧
      digitsValue fraction = mantissa % 10 ^ scale := by
  obtain ⟨fraction, split, length, numeric, value⟩ := paddedDigits_split scale mantissa
  refine ⟨fraction, ?_, numeric, length, value⟩
  have front : (paddedDigits (scale + 1) mantissa).length - scale =
      (digits (mantissa / 10 ^ scale)).length := by
    rw [split, List.length_append, length, Nat.add_sub_cancel]
  unfold pointed withPoint
  dsimp only
  rw [front, split, List.take_left, List.drop_left, ← length]
  simp only [List.isEmpty_iff_length_eq_zero]

/-- A number is spelled by its digits, followed by any count of zeros. -/
theorem spells_pointed (number : Decimal) (zeros : Nat) :
    number.Spells (number.scale + zeros) (withSign number.negative
      (pointed (number.mantissa * 10 ^ zeros) (number.scale + zeros))) := by
  obtain ⟨fraction, split, numeric, length, value⟩ :=
    exists_pointed (number.mantissa * 10 ^ zeros) (number.scale + zeros)
  refine ⟨_, fraction, by rw [split], numeric, length, ?_⟩
  rw [value, Nat.div_add_mod', Nat.pow_add]
  ring

theorem spells_pointed_zero {number : Decimal} (zero : number.isZero = true) (places : Nat) :
    number.Spells places (withSign number.negative (pointed 0 places)) := by
  have none : number.mantissa = 0 := beq_iff_eq.1 zero
  obtain ⟨fraction, split, numeric, length, value⟩ := exists_pointed 0 places
  refine ⟨_, fraction, by rw [split], numeric, length, ?_⟩
  simp [value, none]

theorem round_eq_self {number : Decimal} {places : Nat} (fewer : number.scale ≤ places) :
    number.round places = number :=
  dif_pos fewer

theorem exists_shown {number : Decimal} {places : Nat} (fewer : number.scale ≤ places)
    (coarse : places ≤ maxScale) :
    ∃ shown, (number.padded places).2 = shown ∧ number.Shows places shown ∧
      number.Spells shown (number.fixedText places).toList := by
  unfold fixedText padded
  simp only [round_eq_self fewer, String.toList_ofList]
  by_cases zero : number.isZero = true
  · have none : number.mantissa = 0 := beq_iff_eq.1 zero
    rw [if_pos zero, Nat.min_eq_left coarse]
    refine ⟨places, rfl, ?_, spells_pointed_zero zero places⟩
    constructor
    · exact Nat.le_refl places
    · rw [none, Nat.zero_mul]
      decide
    · intro missing
      exact absurd missing (Nat.lt_irrefl places)
  · rw [if_neg zero]
    have zeros := spareZeros_le number.mantissa (places - number.scale)
    have room := spareZeros_room number.mantissa_lt (places - number.scale)
    refine ⟨_, rfl, ?_, spells_pointed number _⟩
    constructor
    · omega
    · rwa [Nat.add_sub_cancel_left]
    · intro missing
      rw [Nat.add_assoc, Nat.add_sub_cancel_left]
      exact spareZeros_most (by omega)

/-! Reading a numeral: its sign, the digits before the point and those behind it. -/

theorem isDigit_ne_point {c : Char} (digit : isDigit c = true) : (c != '.') = true := by
  rw [bne_iff_ne]
  intro point
  rw [point] at digit
  cases digit

theorem splitSign_withSign {body : List Char} (begins : ∀ c ∈ body.head?, isDigit c = true)
    (negative : Bool) : splitSign (withSign negative body) = (negative, body) := by
  cases negative with
  | true => exact splitSign_minus body
  | false =>
    cases body with
    | nil => rfl
    | cons c rest => exact splitSign_of_isDigit (begins c rfl) rest

section
variable {whole fraction : List Char} (numeric : ∀ c ∈ whole, isDigit c = true)
include numeric

theorem takeWhile_withPoint : (withPoint whole fraction).takeWhile (· != '.') = whole := by
  have all : ∀ c ∈ whole, (c != '.') = true := fun c member => isDigit_ne_point (numeric c member)
  cases fraction with
  | nil => exact List.takeWhile_eq_self_iff.2 all
  | cons c rest =>
    change (whole ++ '.' :: c :: rest).takeWhile (· != '.') = whole
    rw [List.takeWhile_append_of_pos all]
    simp

theorem dropWhile_withPoint : ((withPoint whole fraction).dropWhile (· != '.')).drop 1 = fraction := by
  have all : ∀ c ∈ whole, (c != '.') = true := fun c member => isDigit_ne_point (numeric c member)
  cases fraction with
  | nil =>
    have nothing : whole.dropWhile (· != '.') = [] := List.dropWhile_eq_nil_iff.2 all
    simpa [withPoint] using congrArg (List.drop 1) nothing
  | cons c rest =>
    change ((whole ++ '.' :: c :: rest).dropWhile (· != '.')).drop 1 = c :: rest
    rw [List.dropWhile_append_of_pos all]
    simp

end

theorem takeFraction_of_room {mantissa scale : Nat} {fraction : List Char}
    (numeric : ∀ c ∈ fraction, isDigit c = true) (coarse : scale + fraction.length ≤ maxScale)
    (room : mantissa * 10 ^ fraction.length + digitsValue fraction < mantissaLimit) :
    takeFraction mantissa scale (fraction.map digitValue) =
      some (mantissa * 10 ^ fraction.length + digitsValue fraction, scale + fraction.length) := by
  induction fraction generalizing mantissa scale with
  | nil => simp [takeFraction, digitsValue]
  | cons c rest ih =>
    have first : digitsValue (c :: rest) = digitValue c * 10 ^ rest.length + digitsValue rest := by
      simpa [digitsValue] using digitsValue_append [c] rest
    have more : mantissa * 10 ^ (c :: rest).length + digitsValue (c :: rest) =
        (10 * mantissa + digitValue c) * 10 ^ rest.length + digitsValue rest := by
      rw [first, List.length_cons, Nat.pow_succ]
      ring
    rw [List.length_cons] at coarse
    rw [more] at room ⊢
    have smaller : 10 * mantissa + digitValue c < mantissaLimit := by
      have := Nat.le_mul_of_pos_right (10 * mantissa + digitValue c)
        (Nat.pow_pos (n := rest.length) (by decide : 0 < 10))
      omega
    have fits : (scale < maxScale && 10 * mantissa + digitValue c < mantissaLimit) = true := by
      simp only [Bool.and_eq_true, decide_eq_true_eq]
      omega
    rw [List.map_cons, takeFraction, if_pos fits,
      ih (fun c member => numeric c (List.mem_cons_of_mem _ member)) (by omega) room]
    congr 2
    simp only [List.length_cons]
    omega

theorem head_withPoint (size : Nat) (fraction : List Char) :
    ∀ c ∈ (withPoint (digits size) fraction).head?, isDigit c = true := by
  have spelled := isNumeral_digits size
  have front : (withPoint (digits size) fraction).head? = (digits size).head? := by
    unfold withPoint
    split
    · rfl
    · exact List.head?_append_of_ne_nil _ spelled.filled
  rw [front]
  intro c first
  exact spelled.numeric c (List.mem_of_mem_head? first)

theorem Spells.length_fraction {number : Decimal} {places : Nat} {chars : List Char}
    (spells : number.Spells places chars) :
    (((splitSign chars).2.dropWhile (· != '.')).drop 1).length = places := by
  obtain ⟨whole, fraction, rfl, -, length, -⟩ := spells
  rw [splitSign_withSign (head_withPoint whole fraction),
    dropWhile_withPoint (isNumeral_digits whole).numeric, length]

theorem Spells.unique {number other : Decimal} {places more : Nat} {chars : List Char}
    (spells : number.Spells places chars) (again : other.Spells more chars) : places = more := by
  rw [← spells.length_fraction, again.length_fraction]

theorem Spells.solid {number : Decimal} {places : Nat} {chars : List Char}
    (spells : number.Spells places chars) : ∀ c ∈ chars, isBlank c = false := by
  obtain ⟨whole, fraction, rfl, numeric, -⟩ := spells
  have body : ∀ c ∈ withPoint (digits whole) fraction, isBlank c = false := by
    intro c member
    have parts : c ∈ digits whole ∨ c = '.' ∨ c ∈ fraction := by
      unfold withPoint at member
      split at member
      · exact .inl member
      · simpa using member
    rcases parts with front | rfl | back
    · exact isBlank_of_isDigit ((isNumeral_digits whole).numeric c front)
    · rfl
    · exact isBlank_of_isDigit (numeric c back)
  intro c member
  cases sign : number.negative with
  | false =>
    rw [sign] at member
    exact body c member
  | true =>
    rw [sign] at member
    rcases List.mem_cons.1 member with rfl | inside
    · rfl
    · exact body c inside

theorem isDigitRun_of_numeric {run : List Char} (filled : run ≠ [])
    (numeric : ∀ c ∈ run, isDigit c = true) : isDigitRun run = true := by
  cases run with
  | nil => exact absurd rfl filled
  | cons first rest =>
    simp only [isDigitRun, Bool.and_eq_true, List.all_eq_true]
    refine ⟨numeric first List.mem_cons_self, ?_⟩
    intro c member
    simp [numeric c (List.mem_cons_of_mem _ member)]

/-- A numeral whose digits fit a mantissa reads as the number that it denotes. -/
theorem ofChars?_withPoint {size : Nat} {fraction : List Char} (negative : Bool)
    (numeric : ∀ c ∈ fraction, isDigit c = true) (coarse : fraction.length ≤ maxScale)
    (room : size * 10 ^ fraction.length + digitsValue fraction < mantissaLimit) :
    ofChars? (withSign negative (withPoint (digits size) fraction)) =
      of? (negative && size * 10 ^ fraction.length + digitsValue fraction != 0)
        (size * 10 ^ fraction.length + digitsValue fraction) fraction.length := by
  have spelled := isNumeral_digits size
  have small : size < mantissaLimit := by
    have := Nat.le_mul_of_pos_right size (Nat.pow_pos (n := fraction.length) (by decide : 0 < 10))
    omega
  have run : isDigitRun (digits size ++ fraction) = true := by
    apply isDigitRun_of_numeric
    · simp [spelled.filled]
    · intro c member
      rcases List.mem_append.1 member with front | back
      · exact spelled.numeric c front
      · exact numeric c back
  have taken := @takeFraction_of_room size 0 fraction numeric (by simpa using coarse) room
  have plain : ofPlain? (withSign negative (withPoint (digits size) fraction)) =
      of? (negative && size * 10 ^ fraction.length + digitsValue fraction != 0)
        (size * 10 ^ fraction.length + digitsValue fraction) fraction.length := by
    unfold ofPlain?
    simp only [splitSign_withSign (head_withPoint size fraction), takeWhile_withPoint spelled.numeric,
      dropWhile_withPoint spelled.numeric, List.filter_eq_self.2 spelled.numeric,
      List.filter_eq_self.2 numeric, spelled.value, run, small, taken, decide_true, Bool.and_true,
      if_true, Nat.zero_add]
    rfl
  unfold ofChars?
  rw [plain]
  unfold of?
  rw [dif_pos ⟨room, coarse⟩]
  rfl

theorem size_eq_of_denotes {number read : Decimal}
    (denotes : read.mantissa * 10 ^ number.scale = number.mantissa * 10 ^ read.scale) :
    number.size = read.size := by
  have positive : 0 < 10 ^ (number.scale + read.scale) := Nat.pow_pos (by decide)
  have first : maxScale - number.scale + (number.scale + read.scale) = maxScale + read.scale := by
    have := number.scale_le
    omega
  have second : maxScale - read.scale + (number.scale + read.scale) = maxScale + number.scale := by
    have := read.scale_le
    omega
  apply Nat.eq_of_mul_eq_mul_right positive
  calc number.size * 10 ^ (number.scale + read.scale)
      = number.mantissa * 10 ^ read.scale * 10 ^ maxScale := by
        rw [size, Nat.mul_assoc, ← Nat.pow_add, first, Nat.pow_add, Nat.mul_assoc,
          Nat.mul_comm (10 ^ read.scale)]
    _ = read.mantissa * 10 ^ number.scale * 10 ^ maxScale := by rw [denotes]
    _ = read.size * 10 ^ (number.scale + read.scale) := by
        rw [size, Nat.mul_assoc, ← Nat.pow_add, Nat.mul_assoc, ← Nat.pow_add, second, Nat.add_comm]

/-- A number reads back from any text that spells it with no more digits than a mantissa has. -/
theorem Spells.exists_read {number : Decimal} {places : Nat} {chars : List Char}
    (spells : number.Spells places chars) (coarse : places ≤ maxScale)
    (room : number.mantissa * 10 ^ (places - number.scale) < mantissaLimit) :
    ∃ read, ofChars? chars = some read ∧ number.sameAs read = true := by
  obtain ⟨whole, fraction, rfl, numeric, rfl, denotes⟩ := spells
  have fits : whole * 10 ^ fraction.length + digitsValue fraction < mantissaLimit := by
    have positive : 0 < 10 ^ number.scale := Nat.pow_pos (by decide)
    have bound : (whole * 10 ^ fraction.length + digitsValue fraction) * 10 ^ number.scale ≤
        number.mantissa * 10 ^ (fraction.length - number.scale) * 10 ^ number.scale := by
      rw [denotes, Nat.mul_assoc, ← Nat.pow_add]
      exact Nat.mul_le_mul_left _ (Nat.pow_le_pow_right (by decide) (by omega))
    have := Nat.le_of_mul_le_mul_right bound positive
    omega
  have found := ofChars?_withPoint number.negative numeric coarse fits
  unfold of? at found
  rw [dif_pos ⟨fits, coarse⟩] at found
  refine ⟨_, found, beq_iff_eq.2 (units_of_size_eq (size_eq_of_denotes denotes) ?_)⟩
  -- Only a zero loses its sign when it is read.
  by_cases zero : number.mantissa = 0
  · right
    simp [size, zero]
  · left
    have nonzero : whole * 10 ^ fraction.length + digitsValue fraction ≠ 0 := by
      intro nothing
      rw [nothing, Nat.zero_mul] at denotes
      exact zero (by simpa using denotes.symm)
    change number.negative = (number.negative && _)
    rw [bne_iff_ne.2 nonzero, Bool.and_true]

end Tabula.Decimal
