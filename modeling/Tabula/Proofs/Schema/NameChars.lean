import Tabula.Proofs.Schema.Represented
import Tabula.Proofs.Text.CaseMap

/-! The characters of attribute names: none that has a meaning of its own in the text of an ordering. -/
namespace Tabula
open Text

/-- Lowercasing leaves a character as it is, or gives characters from the small letters on. -/
theorem mem_lowerChar {c d : Char} (member : d ∈ lowerChar c) : d = c ∨ 0x61 ≤ d.toNat := by
  by_cases dotted : c = 'İ'
  · rw [dotted, lowerChar_dotted] at member
    right
    rcases List.mem_pair.1 member with rfl | rfl <;> decide
  · obtain ⟨small, lowered, _, same | ⟨_, bound⟩⟩ := exists_lowerChar dotted
    · rw [lowered, List.mem_singleton] at member
      exact .inl (member.trans same)
    · rw [lowered, List.mem_singleton] at member
      exact .inr (member ▸ bound)

def IsNameChar (c : Char) : Prop := c = '_' ∨ isAlphanumeric c = true ∨ 0x61 ≤ c.toNat

theorem isNameChar_of_isDigit {c : Char} (digit : isDigit c = true) : IsNameChar c := by
  have each : ∀ number < 10, isAlphanumeric (digitChar number) = true := by decide
  have own := each _ (digitValue_lt digit)
  rw [digitChar_digitValue digit] at own
  exact .inr (.inl own)

theorem IsNameChar.ne_mark {c mark : Char} (allowed : IsNameChar c) (among : mark ∈ [',', '+', '-']) :
    c ≠ mark := by
  rintro rfl
  unfold IsNameChar at allowed
  simp only [List.mem_cons, List.not_mem_nil, or_false] at among
  rcases among with rfl | rfl | rfl <;> exact absurd allowed (by decide)

theorem isNameChar_joinWords {started separated : Bool} {name : List Char} :
    ∀ c ∈ joinWords started separated name, IsNameChar c := by
  induction name generalizing started separated with
  | nil => nofun
  | cons first rest ih =>
    intro c member
    unfold joinWords at member
    split at member
    · rename_i word
      rw [List.mem_append, List.mem_append] at member
      rcases member with (between | lowered) | later
      · split at between
        · exact .inl (List.mem_singleton.1 between)
        · cases between
      · rcases mem_lowerChar lowered with rfl | small
        · exact .inr (.inl word)
        · exact .inr (.inr small)
      · exact ih c later
    · exact ih c member

theorem isNameChar_stableMark : ∀ c ∈ stableMark, IsNameChar c := by
  have letters : stableMark.all (fun c => c == '_' || 0x61 ≤ c.toNat) = true := by decide
  intro c member
  have own := List.all_eq_true.1 letters c member
  rw [Bool.or_eq_true, beq_iff_eq, decide_eq_true_eq] at own
  rcases own with underscore | letter
  · exact .inl underscore
  · exact .inr (.inr letter)

theorem isNameChar_sanitize (name : String) : ∀ c ∈ (sanitize name).toList, IsNameChar c := by
  intro c member
  unfold sanitize at member
  rw [String.toList_ofList] at member
  unfold sanitizeChars at member
  have words : ∀ c ∈ joinWords false false name.toList, IsNameChar c := isNameChar_joinWords
  split at member
  · rename_i first rest joined
    rw [joined] at words
    split at member
    · rcases List.mem_append.1 member with mark | word
      · exact isNameChar_stableMark c mark
      · exact words c word
    · exact words c member
  · cases member

theorem isNameChar_stableName (id : FieldId) : ∀ c ∈ id.stableName.toList, IsNameChar c := by
  intro c member
  rw [Id.toList_stableName] at member
  rcases List.mem_append.1 member with mark | digit
  · exact isNameChar_stableMark c mark
  · exact isNameChar_of_isDigit (Id.isDigit_of_mem_text digit)

namespace Schema
variable {table : Table} {options : ComposeOptions} {column : Column}

/-- Attribute names are not empty and have no other characters. -/
theorem attributeName_chars (member : column ∈ columnsOf table options) :
    column.attributeName.toList ≠ [] ∧ ∀ c ∈ column.attributeName.toList, IsNameChar c := by
  obtain ⟨field, _, _, takes⟩ := takes_of_mem_columnsOf member
  generalize column.attributeName = name at takes
  have filled : field.stableName.toList ≠ [] := by
    change field.id.stableName.toList ≠ []
    rw [Id.toList_stableName]
    exact List.append_ne_nil_of_right_ne_nil _ field.id.text_ne_nil
  cases takes with
  | stable => exact ⟨filled, isNameChar_stableName field.id⟩
  | alone candidate =>
    obtain ⟨rfl, some, _⟩ := candidate?_eq_some.1 candidate
    exact ⟨fun none => some (String.toList_inj.1 none), isNameChar_sanitize _⟩
  | @shared name candidate =>
    obtain ⟨rfl, _⟩ := candidate?_eq_some.1 candidate
    unfold qualifiedName
    rw [String.toList_append, String.toList_append]
    refine ⟨List.append_ne_nil_of_right_ne_nil _ filled, ?_⟩
    intro c member
    rcases List.mem_append.1 member with front | stable
    · rcases List.mem_append.1 front with word | mark
      · exact isNameChar_sanitize _ c word
      · exact .inl (List.mem_singleton.1 mark)
    · exact isNameChar_stableName field.id c stable

end Schema
end Tabula
