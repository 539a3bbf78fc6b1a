import Mathlib.Data.List.Infix
import Tabula.Proofs.Text.Numeral
import Tabula.Schema.Naming
import Tabula.Schema.System

/-! The names that fields get from their identifiers, and what tells them from other names. -/
namespace Tabula
open Text

theorem afterStart?_eq_some {start text rest : List Char} :
    afterStart? start text = some rest ↔ text = start ++ rest := by
  unfold afterStart?
  constructor
  · intro found
    split at found
    · rename_i begins
      cases found
      exact (List.prefix_iff_eq_append.1 (List.isPrefixOf_iff_prefix.1 begins)).symm
    · cases found
  · intro same
    subst same
    rw [if_pos (List.isPrefixOf_iff_prefix.2 (List.prefix_append _ _)), List.drop_left]

namespace Id

variable {entity : Entity}

theorem toList_text (id : Id entity) : id.text.toList = Nat.toDigits 10 id.val.toNat := by
  unfold text
  rw [Nat.toString_eq_repr, Nat.toList_repr]

theorem isNumeral_text (id : Id entity) : IsNumeral id.val.toNat id.text.toList := by
  have char : ∀ digit < 10, Nat.digitChar digit = digitChar digit := by decide
  have same (number : Nat) : Nat.toDigits 10 number = digits number := by
    induction number using digits.induct with
    | case1 number small => rw [digits, if_pos small, Nat.toDigits_of_lt_base small, char _ small]
    | case2 number large ih =>
      rw [digits, if_neg large, Nat.toDigits_of_base_le (by decide) (Nat.le_of_not_lt large), ih,
        char _ (Nat.mod_lt _ (by decide))]
  rw [toList_text, same]
  exact isNumeral_digits _

theorem text_inj {left right : Id entity} (same : left.text.toList = right.text.toList) :
    left = right := by
  obtain ⟨left⟩ := left
  obtain ⟨right⟩ := right
  rw [toList_text, toList_text] at same
  have numbers := congrArg (Nat.ofDigitChars 10 · 0) same
  simp only [Nat.ofDigitChars_toDigits (by decide : 1 < 10) (Nat.le_refl 10)] at numbers
  rw [UInt64.toNat_inj.1 numbers]

theorem isDigit_of_mem_text {id : Id entity} {c : Char} (member : c ∈ id.text.toList) :
    isDigit c = true := by
  rw [toList_text] at member
  have digit := Nat.isDigit_of_mem_toDigits (by decide) (Nat.le_refl 10) member
  rw [Char.isDigit, Bool.and_eq_true, decide_eq_true_eq, decide_eq_true_eq] at digit
  exact isDigit_iff.2 digit

theorem digitsValue_text (id : Id entity) : digitsValue id.text.toList = id.val.toNat := by
  rw [toList_text]
  exact Nat.ofDigitChars_toDigits (by decide) (Nat.le_refl 10)

theorem text_ne_nil (id : Id entity) : id.text.toList ≠ [] := by
  rw [toList_text]
  exact Nat.toDigits_ne_nil

theorem toList_stableName (id : FieldId) : id.stableName.toList = stableMark ++ id.text.toList :=
  String.toList_append

theorem stableName_inj {left right : FieldId} : left.stableName = right.stableName ↔ left = right := by
  constructor
  · intro same
    have chars := congrArg String.toList same
    rw [toList_stableName, toList_stableName, List.append_cancel_left_eq] at chars
    exact text_inj chars
  · intro same
    rw [same]

end Id

theorem hasStableShape_iff {name : String} :
    hasStableShape name = true ↔
      ∃ run, name.toList = stableMark ++ run ∧ run ≠ [] ∧ ∀ c ∈ run, isDigit c = true := by
  simp only [← afterStart?_eq_some]
  unfold hasStableShape
  cases afterStart? stableMark name.toList with
  | none => simp
  | some run => simp

theorem hasStableShape_stableName (id : FieldId) : hasStableShape id.stableName = true :=
  hasStableShape_iff.2 ⟨_, id.toList_stableName, id.text_ne_nil, fun _ => Id.isDigit_of_mem_text⟩

/-- What stands behind the last underscore of a text. -/
theorem append_underscore_inj {front other back behind : List Char} (plain : '_' ∉ back)
    (plainToo : '_' ∉ behind) (same : front ++ '_' :: back = other ++ '_' :: behind) :
    front = other ∧ back = behind := by
  rcases List.append_eq_append_iff.1 same with ⟨rest, rfl, split⟩ | ⟨rest, rfl, split⟩
  · cases rest with
    | nil =>
      cases split
      exact ⟨(List.append_nil _).symm, rfl⟩
    | cons c rest =>
      cases split
      simp at plain
  · cases rest with
    | nil =>
      cases split
      exact ⟨List.append_nil _, rfl⟩
    | cons c rest =>
      cases split
      simp at plainToo

theorem underscore_not_mem {run : List Char} (numeric : ∀ c ∈ run, isDigit c = true) : '_' ∉ run := by
  intro member
  exact absurd (numeric _ member) (by decide)

theorem toList_qualifiedName (name : String) (field : Field) :
    (qualifiedName name field).toList =
      (name.toList ++ "_field".toList) ++ '_' :: field.id.text.toList := by
  have stable : field.stableName.toList = stableMark ++ field.id.text.toList :=
    field.id.toList_stableName
  unfold qualifiedName
  rw [String.toList_append, String.toList_append, stable, List.append_assoc, List.append_assoc]
  rfl

theorem id_of_qualifiedName {name other : String} {left right : Field}
    (same : qualifiedName name left = qualifiedName other right) : left.id = right.id := by
  have chars := congrArg String.toList same
  rw [toList_qualifiedName, toList_qualifiedName] at chars
  have plain (field : Field) : '_' ∉ field.id.text.toList :=
    underscore_not_mem fun _ => Id.isDigit_of_mem_text
  exact Id.text_inj (append_underscore_inj (plain left) (plain right) chars).2

theorem hasStableShape_qualifiedName (name : String) (field : Field) :
    hasStableShape (qualifiedName name field) = false := by
  rw [Bool.eq_false_iff, ne_eq, hasStableShape_iff]
  intro shaped
  obtain ⟨run, chars, _, numeric⟩ := shaped
  rw [toList_qualifiedName] at chars
  have mark : stableMark ++ run = "field".toList ++ '_' :: run := rfl
  rw [mark] at chars
  have plain : '_' ∉ field.id.text.toList := underscore_not_mem fun _ => Id.isDigit_of_mem_text
  have front := (append_underscore_inj plain (underscore_not_mem numeric) chars).1
  have length := congrArg List.length front
  rw [List.length_append] at length
  change _ + 6 = 5 at length
  omega

def endsInDigit (name : String) : Bool := name.toList.getLast?.any isDigit

theorem endsInDigit_append (front : String) {back : String} (ends : endsInDigit back = true) :
    endsInDigit (front ++ back) = true := by
  unfold endsInDigit at ends ⊢
  rw [String.toList_append, List.getLast?_append]
  cases last : back.toList.getLast? with
  | none =>
    rw [last] at ends
    cases ends
  | some c =>
    rw [last] at ends
    exact ends

theorem endsInDigit_stableName (id : FieldId) : endsInDigit id.stableName = true := by
  apply endsInDigit_append
  unfold endsInDigit
  rw [List.getLast?_eq_getLast_of_ne_nil id.text_ne_nil]
  exact Id.isDigit_of_mem_text (List.getLast_mem _)

theorem endsInDigit_qualifiedName (name : String) (field : Field) :
    endsInDigit (qualifiedName name field) = true :=
  endsInDigit_append _ (endsInDigit_stableName field.id)

theorem not_mem_systemNames {name : String} (ends : endsInDigit name = true) :
    name ∉ SystemColumn.reservedNames := by
  have plain : ∀ system ∈ SystemColumn.reservedNames, endsInDigit system = false := by decide
  intro member
  rw [plain name member] at ends
  cases ends

end Tabula
