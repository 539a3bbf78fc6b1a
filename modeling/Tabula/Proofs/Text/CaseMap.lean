import Tabula.Text.CaseMap
import Tabula.Text.Numeric

/-!
Small forms of characters. All but one character have a single one, which is a letter if it is another
character, and is its own small form. The capital I with a dot becomes a small one followed by the dot.
-/
namespace Tabula.Text

-- The two checks of the tables compare by `Nat.blt` and `Nat.ble`, which are fast on large tables.

def PointSet.isUniform (inside : Bool) (first last : Nat) : PointSet → Bool
  | [] => !inside
  | point :: points =>
    bif last.blt point then !inside
    else point.ble first && PointSet.isUniform (!inside) first last points

theorem PointSet.has_of_isUniform {points : PointSet} {inside : Bool} {first last code : Nat}
    (uniform : PointSet.isUniform inside first last points = true) (least : first ≤ code)
    (most : code ≤ last) : points.has code = inside := by
  induction points generalizing inside with
  | nil => simpa [isUniform, has] using uniform
  | cons point points ih =>
    simp only [isUniform, cond_eq_ite, Nat.blt_eq] at uniform
    split at uniform
    · have below : code < point := by omega
      simpa [has, below] using uniform
    · rw [Bool.and_eq_true, Nat.ble_eq] at uniform
      have above : ¬ code < point := by omega
      simp [has, above, ih uniform.2]

namespace CaseRun

/-- A run maps to points that are characters, none before the small letters. -/
def IsSmall (run : CaseRun) : Prop :=
  0x61 ≤ run.image ∧ (run.image + (run.last - run.first) < 0xd800 ∨
    0xdfff < run.image ∧ run.image + (run.last - run.first) < 0x110000)

instance (run : CaseRun) : Decidable run.IsSmall := inferInstanceAs (Decidable (_ ∧ _))

/-- What a run maps to lies apart from another run, or between its points. -/
def misses (run other : CaseRun) : Bool :=
  (run.image + (run.last - run.first)).blt other.first || other.last.blt run.image ||
    other.step == 2 && (run.first == run.last || run.step == 2) && (run.image + other.first) % 2 == 1

variable {run other : CaseRun} {code : Nat}

theorem covers_iff : run.covers code = true ↔
    run.first ≤ code ∧ code ≤ run.last ∧ (code - run.first) % run.step = 0 := by
  simp [covers, and_assoc]

theorem not_covers_of_misses (apart : run.misses other = true) (covered : run.covers code = true) :
    other.covers (run.map code) = false := by
  obtain ⟨least, most, stepped⟩ := covers_iff.1 covered
  simp only [misses, Bool.or_eq_true, Bool.and_eq_true, Nat.blt_eq, beq_iff_eq] at apart
  rw [← Bool.not_eq_true, covers_iff]
  intro inside
  unfold map at inside
  rcases apart with (before | behind) | ⟨⟨two, single | alternate⟩, odd⟩
  · omega
  · omega
  · rw [two] at inside
    omega
  · rw [two] at inside
    rw [alternate] at stepped
    omega

theorem IsSmall.toNat_map (small : run.IsSmall) (covered : run.covers code = true) :
    (Char.ofNat (run.map code)).toNat = run.map code := by
  obtain ⟨least, most, _⟩ := covers_iff.1 covered
  obtain ⟨_, range⟩ := small
  have valid : (run.map code).isValidChar := by
    unfold map Nat.isValidChar
    omega
  unfold Char.ofNat
  rw [dif_pos valid]
  rfl

end CaseRun

/-! What is checked of the runs of capital letters. -/

theorem isSmall_of_mem_lowerRuns : ∀ run ∈ lowerRuns, run.IsSmall := by decide +kernel

theorem lowerRuns_miss : lowerRuns.all (fun run => lowerRuns.all run.misses) = true := by
  decide +kernel

theorem lowerRuns_alphabetic : lowerRuns.all (fun run => PointSet.isUniform true run.image
    (run.image + (run.last - run.first)) alphabetic) = true := by
  decide +kernel

theorem lowerRuns_not_dotted : ∀ run ∈ lowerRuns,
    ¬ (run.image ≤ 0x130 ∧ 0x130 ≤ run.image + (run.last - run.first)) := by
  decide +kernel

theorem lowerChar_dotted : lowerChar 'İ' = ['i', '\u0307'] := by decide +kernel

theorem lowerChar_of_not_covered {c : Char} (plain : c.toNat ≠ 0x130)
    (uncovered : ∀ run ∈ lowerRuns, run.covers c.toNat = false) : lowerChar c = [c] := by
  have missed : lowerRuns.find? (·.covers c.toNat) = none := by
    simpa [List.find?_eq_none] using uncovered
  have unlisted : lowerSequences.lookup c.toNat = none := by
    rw [lowerSequences, List.lookup_cons, beq_false_of_ne plain]
    rfl
  simp [lowerChar, mapCase, missed, unlisted]

theorem exists_lowerChar {c : Char} (plain : c ≠ 'İ') :
    ∃ d, lowerChar c = [d] ∧ lowerChar d = [d] ∧ (d = c ∨ isAlphabetic d = true ∧ 0x61 ≤ d.toNat) := by
  cases found : lowerRuns.find? (·.covers c.toNat) with
  | none =>
    have uncovered : ∀ run ∈ lowerRuns, run.covers c.toNat = false := by
      simpa [List.find?_eq_none] using found
    have other : c.toNat ≠ 0x130 := fun same => plain (Char.toNat_inj.1 same)
    have own := lowerChar_of_not_covered other uncovered
    exact ⟨c, own, own, .inl rfl⟩
  | some run =>
    have member := List.mem_of_find?_eq_some found
    have covered : run.covers c.toNat = true := by simpa using List.find?_some found
    obtain ⟨least, most, _⟩ := CaseRun.covers_iff.1 covered
    have missed := List.all_eq_true.1 (List.all_eq_true.1 lowerRuns_miss run member)
    have letters := List.all_eq_true.1 lowerRuns_alphabetic run member
    have small := isSmall_of_mem_lowerRuns run member
    have code := small.toNat_map covered
    refine ⟨Char.ofNat (run.map c.toNat), by simp [lowerChar, mapCase, found], ?_, .inr ⟨?_, ?_⟩⟩
    · apply lowerChar_of_not_covered
      · have apart := lowerRuns_not_dotted run member
        rw [code]
        unfold CaseRun.map
        omega
      · intro other inside
        rw [code]
        exact CaseRun.not_covers_of_misses (missed other inside) covered
    · unfold isAlphabetic
      rw [code]
      apply PointSet.has_of_isUniform letters <;> unfold CaseRun.map <;> omega
    · rw [code]
      have bound := small.1
      unfold CaseRun.map
      omega

end Tabula.Text
