import Mathlib.Data.List.Infix
import Tabula.Text.Case

/-!
Folding a text and a part of it. All characters fold alone but the capital sigma, so a part folds as it
does in its text where its sigmas end words in the one as in the other.
-/
namespace Tabula.Text

theorem occurs_iff {needle chars : List Char} : occurs needle chars = true ↔ needle <:+: chars := by
  induction chars with
  | nil => rw [occurs, List.isEmpty_iff, List.infix_nil]
  | cons c rest ih =>
    rw [occurs, Bool.or_eq_true, List.isPrefixOf_iff_prefix, ih, List.infix_cons_iff]

theorem foldContains_iff {text needle : String} :
    foldContains text needle = true ↔ needle.toList <:+: (fold text).toList := occurs_iff

theorem toList_fold (text : String) : (fold text).toList = lowerAfter [] text.toList :=
  String.toList_ofList

/-- Lowercases characters between others; `before` holds those in front, the nearest first. -/
def lowerBetween (before after : List Char) : List Char → List Char
  | [] => []
  | c :: rest =>
    (if c = 'Σ' then [if endsWord before (rest ++ after) then 'ς' else 'σ'] else lowerChar c) ++
      lowerBetween (c :: before) after rest

theorem lowerAfter_append {before chars after : List Char} :
    lowerAfter before (chars ++ after) =
      lowerBetween before after chars ++ lowerAfter (chars.reverse ++ before) after := by
  induction chars generalizing before with
  | nil => rfl
  | cons c rest ih => simp [lowerAfter, lowerBetween, ih]

theorem lowerAfter_eq (before chars : List Char) :
    lowerAfter before chars = lowerBetween before [] chars := by
  have whole := @lowerAfter_append before chars []
  rwa [List.append_nil, lowerAfter, List.append_nil] at whole

/-- The capital sigmas of a part end words in the text around it just where they do in the part alone. -/
def SigmasAgree (before part after : List Char) : Prop :=
  ∀ front back, part = front ++ 'Σ' :: back →
    endsWord (front.reverse ++ before.reverse) (back ++ after) = endsWord front.reverse back

theorem sigmasAgree_of_not_mem {before part after : List Char} (free : 'Σ' ∉ part) :
    SigmasAgree before part after := by
  rintro front back rfl
  exact absurd (List.mem_append_right front List.mem_cons_self) free

theorem forall_split_cons {α : Type} {Holds : List α → List α → Prop} {c mark : α} {rest : List α} :
    (∀ front back, c :: rest = front ++ mark :: back → Holds front back) ↔
      (c = mark → Holds [] rest) ∧
        ∀ front back, rest = front ++ mark :: back → Holds (c :: front) back := by
  constructor
  · intro each
    refine ⟨?_, ?_⟩
    · rintro rfl
      exact each [] rest rfl
    · rintro front back rfl
      exact each (c :: front) back rfl
  · rintro ⟨here, later⟩ front back split
    cases front with
    | nil =>
      cases split
      exact here rfl
    | cons first front =>
      cases split
      exact later front back rfl

/-- What is left of a part folds as it does alone if and only if the sigmas in it agree. -/
theorem lowerBetween_rest_iff {before passed rest after : List Char} :
    lowerBetween (passed.reverse ++ before.reverse) after rest = lowerBetween passed.reverse [] rest ↔
      ∀ front back, rest = front ++ 'Σ' :: back →
        endsWord ((passed ++ front).reverse ++ before.reverse) (back ++ after) =
          endsWord (passed ++ front).reverse back := by
  induction rest generalizing passed with
  | nil => simp [lowerBetween]
  | cons c rest ih =>
    have later := @ih (passed ++ [c])
    rw [List.reverse_append, List.reverse_singleton, List.singleton_append, List.cons_append] at later
    rw [lowerBetween, lowerBetween, forall_split_cons, List.append_nil, List.append_nil]
    simp only [List.append_assoc, List.singleton_append] at later
    rw [← later]
    -- A sigma becomes one of two letters, and these differ; all other characters cancel.
    by_cases sigma : c = 'Σ'
    · rw [if_pos sigma, if_pos sigma, List.singleton_append, List.singleton_append, List.cons.injEq]
      apply and_congr_left'
      cases endsWord (passed.reverse ++ before.reverse) (rest ++ after) <;>
        cases endsWord passed.reverse rest <;> simp [sigma]
    · rw [if_neg sigma, if_neg sigma, List.append_cancel_left_eq]
      simp [sigma]

theorem lowerBetween_alone_iff {before part after : List Char} :
    lowerBetween before.reverse after part = lowerBetween [] [] part ↔ SigmasAgree before part after :=
  @lowerBetween_rest_iff before [] part after

/-- A part of a text is found in it without case, if its sigmas agree. -/
theorem fold_infix_fold {text part : String} {before after : List Char}
    (split : text.toList = before ++ part.toList ++ after)
    (agree : SigmasAgree before part.toList after) : (fold part).toList <:+: (fold text).toList := by
  rw [toList_fold, toList_fold, split, List.append_assoc, lowerAfter_append, lowerAfter_append,
    lowerAfter_eq, List.append_nil, lowerBetween_alone_iff.2 agree]
  exact ⟨_, _, List.append_assoc _ _ _⟩

end Tabula.Text
