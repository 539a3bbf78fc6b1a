import Tabula.Proofs.Text.CaseMap
import Tabula.Proofs.Text.Numeral
import Tabula.Schema.Naming

/-!
Names that are sanitized once more. Nothing changes, unless the name had a capital I with a dot: the dot
is written as if it were a letter, and separates words when it is read.
-/
namespace Tabula
open Text

/-- The dot that a capital I leaves in lowercase. -/
def dotAbove : Char := '\u0307'

theorem not_isAlphanumeric_dotAbove : isAlphanumeric dotAbove = false := by decide +kernel

theorem not_isAlphanumeric_underscore : isAlphanumeric '_' = false := by decide +kernel

/-- A word character that is written as it is. -/
def IsLower (c : Char) : Prop := isAlphanumeric c = true ∧ lowerChar c = [c]

instance : DecidablePred IsLower := fun _ => inferInstanceAs (Decidable (_ ∧ _))

theorem exists_isLower {c : Char} (plain : c ≠ 'İ') (word : isAlphanumeric c = true) :
    ∃ d, lowerChar c = [d] ∧ IsLower d := by
  obtain ⟨d, lowered, own, rfl | ⟨letter, _⟩⟩ := exists_lowerChar plain
  · exact ⟨d, lowered, word, own⟩
  · exact ⟨d, lowered, by simp [isAlphanumeric, letter], own⟩

theorem isLower_of_isDigit {c : Char} (digit : isDigit c = true) : IsLower c := by
  have each : ∀ number < 10, isAlphanumeric (digitChar number) = true ∧
      lowerChar (digitChar number) = [digitChar number] := by decide +kernel
  have own := each _ (digitValue_lt digit)
  rwa [digitChar_digitValue digit] at own

section
variable {started separated : Bool} {name rest : List Char}

theorem joinWords_cons_lower {c : Char} (lower : IsLower c) :
    joinWords started separated (c :: rest) =
      (if started && separated then ['_'] else []) ++ c :: joinWords true false rest := by
  simp [joinWords, lower.1, lower.2]

theorem joinWords_underscore :
    joinWords started separated ('_' :: rest) = joinWords started true rest := by
  simp [joinWords, not_isAlphanumeric_underscore]

theorem joinWords_joinWords (plain : 'İ' ∉ name) :
    joinWords started false (joinWords started separated name) = joinWords started separated name := by
  induction name generalizing started separated with
  | nil => rfl
  | cons c rest ih =>
    obtain ⟨other, later⟩ : c ≠ 'İ' ∧ 'İ' ∉ rest := by simpa [eq_comm] using plain
    by_cases word : isAlphanumeric c = true
    · obtain ⟨d, lowered, lower⟩ := exists_isLower other word
      have written : joinWords started separated (c :: rest) =
          (if started && separated then ['_'] else []) ++ d :: joinWords true false rest := by
        simp [joinWords, word, lowered]
      rw [written]
      cases between : started && separated with
      | false => simp [joinWords_cons_lower lower, ih later]
      | true =>
        obtain ⟨rfl, rfl⟩ := Bool.and_eq_true_iff.1 between
        simp [joinWords_underscore, joinWords_cons_lower lower, ih later]
    · simp [joinWords, word, ih later]

/-- What can be written: marks between words, lowercase characters and the dot. -/
theorem mem_joinWords {d : Char} (member : d ∈ joinWords started separated name) :
    d = '_' ∨ IsLower d ∨ d = dotAbove ∧ 'İ' ∈ name := by
  induction name generalizing started separated with
  | nil => cases member
  | cons c rest ih =>
    by_cases word : isAlphanumeric c = true
    · simp only [joinWords, word, if_true, List.mem_append] at member
      rcases member with (between | lowered) | later
      · split at between
        · exact .inl (List.mem_singleton.1 between)
        · cases between
      · by_cases dotted : c = 'İ'
        · rw [dotted, lowerChar_dotted] at lowered
          have letter : IsLower 'i' := ⟨by decide +kernel, by decide +kernel⟩
          rcases List.mem_pair.1 lowered with rfl | rfl
          · exact .inr (.inl letter)
          · exact .inr (.inr ⟨rfl, by simp [dotted]⟩)
        · obtain ⟨small, single, lower⟩ := exists_isLower dotted word
          rw [single, List.mem_singleton] at lowered
          exact .inr (.inl (lowered ▸ lower))
      · exact (ih later).imp_right (.imp_right (.imp_right (List.mem_cons_of_mem c)))
    · simp only [joinWords, word] at member
      exact (ih member).imp_right (.imp_right (.imp_right (List.mem_cons_of_mem c)))

theorem dotAbove_mem_joinWords (member : 'İ' ∈ name) :
    dotAbove ∈ joinWords started separated name := by
  induction name generalizing started separated with
  | nil => cases member
  | cons c rest ih =>
    rcases List.mem_cons.1 member with rfl | later
    · have word : isAlphanumeric 'İ' = true := by decide +kernel
      simp [joinWords, word, lowerChar_dotted, dotAbove]
    · unfold joinWords
      split
      · exact List.mem_append_right _ (ih later)
      · exact ih later

theorem joinWords_append_lower {word : List Char} (lower : ∀ c ∈ word, IsLower c) :
    joinWords true false (word ++ rest) = word ++ joinWords true false rest := by
  induction word with
  | nil => rfl
  | cons c word ih =>
    obtain ⟨first, others⟩ := List.forall_mem_cons.1 lower
    simp [joinWords_cons_lower first, ih others]

theorem isLower_of_mem_field : ∀ c ∈ "field".toList, IsLower c := by
  have checked : "field".toList.all (IsLower ·) = true := by decide +kernel
  simpa only [List.all_eq_true, decide_eq_true_eq] using checked

theorem joinWords_stableMark (started : Bool) (rest : List Char) :
    joinWords started false (stableMark ++ rest) = "field".toList ++ joinWords true true rest := by
  have split : stableMark ++ rest = 'f' :: ("ield".toList ++ '_' :: rest) := rfl
  have first : IsLower 'f' := isLower_of_mem_field 'f' (by decide)
  have others : ∀ c ∈ "ield".toList, IsLower c :=
    fun c member => isLower_of_mem_field c (List.mem_cons_of_mem 'f' member)
  rw [split, joinWords_cons_lower first, joinWords_append_lower others, joinWords_underscore]
  simp

/-- A name is its words, with the mark in front of them where they begin with a digit. -/
theorem sanitizeChars_cases (name : List Char) :
    (∃ c rest, joinWords false false name = c :: rest ∧ isDigit c = true ∧
      sanitizeChars name = stableMark ++ c :: rest) ∨
    (∀ c ∈ (joinWords false false name).head?, isDigit c = false) ∧
      sanitizeChars name = joinWords false false name := by
  unfold sanitizeChars
  cases joinWords false false name with
  | nil => simp
  | cons c rest => cases digit : isDigit c <;> simp [digit]

theorem sanitizeChars_of_joined (own : joinWords false false name = name)
    (plain : ∀ c ∈ name.head?, isDigit c = false) : sanitizeChars name = name := by
  rcases sanitizeChars_cases name with ⟨c, rest, joined, digit, _⟩ | ⟨_, same⟩
  · have first : name = c :: rest := own.symm.trans joined
    have other : isDigit c = false := plain c (by simp [first])
    rw [other] at digit
    cases digit
  · exact same.trans own

theorem sanitizeChars_sanitizeChars (plain : 'İ' ∉ name) :
    sanitizeChars (sanitizeChars name) = sanitizeChars name := by
  have own : joinWords false false (joinWords false false name) = joinWords false false name :=
    joinWords_joinWords plain
  rcases sanitizeChars_cases name with ⟨c, rest, joined, digit, same⟩ | ⟨undigit, same⟩
  · have lower := isLower_of_isDigit digit
    rw [joined, joinWords_cons_lower lower] at own
    have kept : joinWords true false rest = rest := by simpa using own
    rw [same]
    apply sanitizeChars_of_joined
    · rw [joinWords_stableMark, joinWords_cons_lower lower, kept]
      rfl
    · have first : (stableMark ++ c :: rest).head? = some 'f' := rfl
      simp [first, show isDigit 'f' = false by decide]
  · rw [same]
    exact sanitizeChars_of_joined own undigit

theorem mem_sanitizeChars {d : Char} (member : d ∈ sanitizeChars name) :
    d = '_' ∨ IsLower d ∨ d = dotAbove ∧ 'İ' ∈ name := by
  rcases sanitizeChars_cases name with ⟨c, rest, joined, _, same⟩ | ⟨_, same⟩
  · rw [same, List.mem_append, ← joined] at member
    rcases member with mark | word
    · have parts : stableMark = "field".toList ++ ['_'] := rfl
      rw [parts, List.mem_append, List.mem_singleton] at mark
      rcases mark with letter | mark
      · exact .inr (.inl (isLower_of_mem_field d letter))
      · exact .inl mark
    · exact mem_joinWords word
  · rw [same] at member
    exact mem_joinWords member

theorem dotAbove_mem_sanitizeChars : dotAbove ∈ sanitizeChars name ↔ 'İ' ∈ name := by
  constructor
  · intro member
    rcases mem_sanitizeChars member with mark | ⟨word, _⟩ | ⟨_, dotted⟩
    · exact absurd mark (by decide)
    · rw [not_isAlphanumeric_dotAbove] at word
      cases word
    · exact dotted
  · intro member
    have written : dotAbove ∈ joinWords false false name := dotAbove_mem_joinWords member
    rcases sanitizeChars_cases name with ⟨c, rest, joined, _, same⟩ | ⟨_, same⟩
    · rw [same, ← joined]
      exact List.mem_append_right _ written
    · rw [same]
      exact written

theorem dotted_not_mem_sanitizeChars (name : List Char) : 'İ' ∉ sanitizeChars name := by
  intro member
  rcases mem_sanitizeChars member with mark | ⟨_, lower⟩ | ⟨dot, _⟩
  · exact absurd mark (by decide)
  · rw [lowerChar_dotted] at lower
    cases lower
  · exact absurd dot (by decide)

end

/-- Sanitizing twice is sanitizing once, and gives nothing but word characters and underscores, exactly for
names without a capital I with a dot. That letter leaves its dot, which is the only other character that
there can be and is gone when the name is sanitized again; from then on nothing changes. -/
theorem sanitize_again (name : String) :
    (sanitize (sanitize name) = sanitize name ↔ 'İ' ∉ name.toList) ∧
      ((∀ c ∈ (sanitize name).toList, isAlphanumeric c = true ∨ c = '_') ↔ 'İ' ∉ name.toList) ∧
      (∀ c ∈ (sanitize name).toList, isAlphanumeric c = true ∨ c = '_' ∨ c = dotAbove) ∧
      sanitize (sanitize (sanitize name)) = sanitize (sanitize name) := by
  have chars (name : String) : (sanitize name).toList = sanitizeChars name.toList := by simp [sanitize]
  have again {name : String} (plain : 'İ' ∉ name.toList) : sanitize (sanitize name) = sanitize name := by
    rw [← String.toList_inj, chars, chars, sanitizeChars_sanitizeChars plain]
  have undotted (name : String) : 'İ' ∉ (sanitize name).toList := by
    rw [chars]
    exact dotted_not_mem_sanitizeChars _
  have dots (name : String) : dotAbove ∈ (sanitize name).toList ↔ 'İ' ∈ name.toList := by
    rw [chars, dotAbove_mem_sanitizeChars]
  have written : ∀ c ∈ (sanitize name).toList, isAlphanumeric c = true ∨ c = '_' ∨ c = dotAbove := by
    intro c member
    rw [chars] at member
    rcases mem_sanitizeChars member with mark | ⟨word, _⟩ | ⟨dot, _⟩
    · exact .inr (.inl mark)
    · exact .inl word
    · exact .inr (.inr dot)
  refine ⟨⟨?_, again⟩, ⟨?_, ?_⟩, written, again (undotted name)⟩
  · intro same
    rw [← dots, ← same, dots]
    exact undotted name
  · intro plain
    rw [← dots]
    intro member
    rcases plain dotAbove member with word | mark
    · rw [not_isAlphanumeric_dotAbove] at word
      cases word
    · exact absurd mark (by decide)
  · intro plain c member
    rcases written c member with word | mark | rfl
    · exact .inl word
    · exact .inr mark
    · exact absurd ((dots name).1 member) plain

theorem sanitize_dotted : sanitize "İ" = "i\u0307" ∧ sanitize "i\u0307" = "i" := by decide +kernel

/-- Not every name is sanitized once and for all. -/
theorem not_all_names_settled :
    ¬ ∀ name : String, sanitize (sanitize name) = sanitize name ∧
      ∀ c ∈ (sanitize name).toList, isAlphanumeric c = true ∨ c = '_' := by
  intro refuted
  have same := (refuted "İ").1
  rw [sanitize_dotted.1, sanitize_dotted.2] at same
  exact absurd same (by decide)

end Tabula
