import Mathlib.Data.List.Chain
import Tabula.Proofs.Schema.NameChars
import Tabula.Proofs.Schema.Sanitize

/-!
The words of a name: its longest runs of word characters. A sanitized name is these in lowercase, with one
underscore between each two of them, and with the mark of stable names in front of a digit.
-/
namespace Tabula
open Text

/-- What stands between the characters of a name that are in no word. -/
def wordPieces (name : List Char) : List (List Char) := name.splitOnP fun c => !isAlphanumeric c

/-- Two separators in a row, and those at the ends, leave an empty piece. -/
def filled (pieces : List (List Char)) : List (List Char) := pieces.filter fun piece => !piece.isEmpty

/-- The longest runs of word characters in a name, in their order. -/
def words (name : List Char) : List (List Char) := filled (wordPieces name)

def lowerWord (word : List Char) : List Char := word.flatMap lowerChar

def underscored (words : List (List Char)) : List Char := ['_'].intercalate (words.map lowerWord)

def marked (words : List (List Char)) : List Char := words.flatMap fun word => '_' :: lowerWord word

/-- The characters, with the mark of stable names in front of a digit. -/
def withoutDigit (chars : List Char) : List Char :=
  if chars.head?.any isDigit then stableMark ++ chars else chars

theorem underscored_cons_cons (word next : List Char) (others : List (List Char)) :
    underscored (word :: next :: others) = lowerWord word ++ '_' :: underscored (next :: others) := by
  simp [underscored]

theorem underscored_cons (word : List Char) (others : List (List Char)) :
    underscored (word :: others) = lowerWord word ++ marked others := by
  induction others generalizing word with
  | nil => simp [underscored, marked]
  | cons next others ih =>
    rw [underscored_cons_cons, ih next]
    rfl

theorem filled_cons_cons (c : Char) (piece : List Char) (others : List (List Char)) :
    filled ((c :: piece) :: others) = (c :: piece) :: filled others := rfl

theorem filled_nil_cons (others : List (List Char)) : filled ([] :: others) = filled others := rfl

section
variable {c : Char} {name rest first : List Char} {others : List (List Char)}

theorem exists_wordPieces (name : List Char) : ∃ first others, wordPieces name = first :: others :=
  List.exists_cons_of_ne_nil (List.splitOnP_ne_nil _ name)

theorem wordPieces_cons_of_word (word : isAlphanumeric c = true)
    (split : wordPieces rest = first :: others) : wordPieces (c :: rest) = (c :: first) :: others := by
  unfold wordPieces at split ⊢
  rw [List.splitOnP_cons_eq_if_modifyHead, split, word]
  rfl

theorem wordPieces_cons_of_not (other : isAlphanumeric c = false) :
    wordPieces (c :: rest) = [] :: wordPieces rest := by
  unfold wordPieces
  rw [List.splitOnP_cons_eq_if_modifyHead, other]
  rfl

/-- What is written depends on how far the writing is: in the middle of a word, behind one, or before all. -/
theorem joinWords_of_wordPieces (split : wordPieces name = first :: others) :
    joinWords true false name = lowerWord first ++ marked (filled others) ∧
      joinWords true true name = marked (filled (first :: others)) ∧
      ∀ separated, joinWords false separated name = underscored (filled (first :: others)) := by
  induction name generalizing first others with
  | nil =>
    cases split
    exact ⟨rfl, rfl, fun _ => rfl⟩
  | cons c rest ih =>
    obtain ⟨next, later, parts⟩ := exists_wordPieces rest
    obtain ⟨within, behind, before⟩ := ih parts
    cases word : isAlphanumeric c with
    | true =>
      rw [wordPieces_cons_of_word word parts] at split
      cases split
      have lowered : lowerWord (c :: next) = lowerChar c ++ lowerWord next := rfl
      rw [filled_cons_cons, underscored_cons, lowered]
      refine ⟨?_, ?_, fun separated => ?_⟩
      · simp [joinWords, word, within]
      · simp [joinWords, word, within, marked, lowered]
      · simp [joinWords, word, within]
    | false =>
      rw [wordPieces_cons_of_not word, parts] at split
      cases split
      have skipped (started separated : Bool) :
          joinWords started separated (c :: rest) = joinWords started true rest := by
        simp [joinWords, word]
      rw [filled_nil_cons, skipped, skipped, behind]
      exact ⟨rfl, rfl, fun separated => (skipped _ _).trans (before true)⟩

theorem joinWords_eq (name : List Char) (separated : Bool) :
    joinWords false separated name = underscored (words name) := by
  obtain ⟨first, others, split⟩ := exists_wordPieces name
  unfold words
  rw [split]
  exact (joinWords_of_wordPieces split).2.2 separated

theorem sanitizeChars_eq (name : List Char) : sanitizeChars name = withoutDigit (underscored (words name)) := by
  rw [← joinWords_eq name false]
  unfold sanitizeChars withoutDigit
  cases joinWords false false name with
  | nil => rfl
  | cons c rest => cases digit : isDigit c <;> simp [digit]

theorem isAlphanumeric_of_mem_wordPieces {piece : List Char} (member : piece ∈ wordPieces name) :
    ∀ c ∈ piece, isAlphanumeric c = true := by
  induction name generalizing piece with
  | nil =>
    cases List.mem_singleton.1 member
    nofun
  | cons c rest ih =>
    obtain ⟨next, later, parts⟩ := exists_wordPieces rest
    cases word : isAlphanumeric c with
    | true =>
      rw [wordPieces_cons_of_word word parts] at member
      rw [parts] at ih
      rcases List.mem_cons.1 member with rfl | other
      · exact List.forall_mem_cons.2 ⟨word, ih List.mem_cons_self⟩
      · exact ih (List.mem_cons_of_mem _ other)
    | false =>
      rw [wordPieces_cons_of_not word] at member
      rcases List.mem_cons.1 member with rfl | other
      · nofun
      · exact ih other

theorem of_mem_words {word : List Char} (member : word ∈ words name) :
    word ≠ [] ∧ ∀ c ∈ word, isAlphanumeric c = true := by
  obtain ⟨piece, some⟩ := List.mem_filter.1 member
  exact ⟨by simpa using some, isAlphanumeric_of_mem_wordPieces piece⟩

theorem words_eq_nil_iff : words name = [] ↔ name.any isAlphanumeric = false := by
  induction name with
  | nil => simp [words, wordPieces, filled]
  | cons c rest ih =>
    cases word : isAlphanumeric c with
    | true =>
      obtain ⟨next, later, parts⟩ := exists_wordPieces rest
      unfold words
      rw [wordPieces_cons_of_word word parts, filled_cons_cons]
      simp [word]
    | false =>
      unfold words at ih ⊢
      rw [wordPieces_cons_of_not word, filled_nil_cons, ih]
      simp [word]

end

/-! Where the underscores are. -/

theorem lowerChar_ne_nil (c : Char) : lowerChar c ≠ [] := by
  by_cases dotted : c = 'İ'
  · rw [dotted, lowerChar_dotted]
    nofun
  · obtain ⟨small, lowered, _⟩ := exists_lowerChar dotted
    rw [lowered]
    nofun

theorem underscore_not_mem_lowerChar {c : Char} (word : isAlphanumeric c = true) :
    '_' ∉ lowerChar c := by
  intro member
  rcases mem_lowerChar member with rfl | small
  · rw [not_isAlphanumeric_underscore] at word
    cases word
  · exact absurd small (by decide)

/-- Underscores stand between other characters, one at a time. -/
structure IsSpaced (chars : List Char) : Prop where
  first : chars.head? ≠ some '_'
  last : chars.getLast? ≠ some '_'
  single : ¬ ['_', '_'] <:+: chars

theorem not_infix_pair_iff {c : Char} {chars : List Char} :
    ¬ [c, c] <:+: chars ↔ chars.IsChain fun left right => ¬ (left = c ∧ right = c) := by
  rw [List.isChain_iff_forall_rel_of_append_cons_cons]
  constructor
  · rintro apart left right front back split ⟨rfl, rfl⟩
    exact apart ⟨front, back, by simp [split]⟩
  · rintro apart ⟨front, back, split⟩
    have whole : chars = front ++ c :: c :: back := by simp [← split]
    exact apart whole ⟨rfl, rfl⟩

namespace IsSpaced
variable {chars left right : List Char}

theorem of_not_mem (none : '_' ∉ chars) : IsSpaced chars where
  first := fun head => none (List.mem_of_head? head)
  last := fun last => none (List.mem_of_getLast? last)
  single := fun twice => none (twice.subset List.mem_cons_self)

theorem append (leftSpaced : IsSpaced left) (rightSpaced : IsSpaced right) (leftFilled : left ≠ [])
    (rightFilled : right ≠ []) : IsSpaced (left ++ '_' :: right) where
  first := by
    rw [List.head?_append_of_ne_nil _ leftFilled]
    exact leftSpaced.first
  last := by
    rw [List.getLast?_append_of_ne_nil _ (by simp), List.getLast?_cons_of_ne_nil rightFilled]
    exact rightSpaced.last
  single := by
    rw [not_infix_pair_iff, List.isChain_append, List.isChain_cons]
    refine ⟨not_infix_pair_iff.1 leftSpaced.single,
      ⟨?_, not_infix_pair_iff.1 rightSpaced.single⟩, ?_⟩
    · rintro _ head ⟨-, rfl⟩
      exact rightSpaced.first head
    · rintro _ last _ - ⟨rfl, -⟩
      exact leftSpaced.last last

end IsSpaced

section
variable {name : List Char}

theorem lowerWord_ne_nil {word : List Char} (filled : word ≠ []) : lowerWord word ≠ [] := by
  obtain ⟨c, rest, rfl⟩ := List.exists_cons_of_ne_nil filled
  exact List.append_ne_nil_of_left_ne_nil (lowerChar_ne_nil c) _

theorem underscore_not_mem_lowerWord {word : List Char} (whole : ∀ c ∈ word, isAlphanumeric c = true) :
    '_' ∉ lowerWord word := by
  intro member
  obtain ⟨c, inside, lowered⟩ := List.mem_flatMap.1 member
  exact underscore_not_mem_lowerChar (whole c inside) lowered

theorem underscored_ne_nil {word : List Char} (others : List (List Char)) (filled : word ≠ []) :
    underscored (word :: others) ≠ [] := by
  rw [underscored_cons]
  exact List.append_ne_nil_of_left_ne_nil (lowerWord_ne_nil filled) _

theorem isSpaced_underscored {words : List (List Char)}
    (proper : ∀ word ∈ words, word ≠ [] ∧ ∀ c ∈ word, isAlphanumeric c = true) :
    IsSpaced (underscored words) := by
  induction words with
  | nil => exact .of_not_mem nofun
  | cons word others ih =>
    obtain ⟨⟨filled, whole⟩, later⟩ := List.forall_mem_cons.1 proper
    have alone : IsSpaced (lowerWord word) := .of_not_mem (underscore_not_mem_lowerWord whole)
    cases others with
    | nil =>
      have single : underscored [word] = lowerWord word := by simp [underscored]
      rw [single]
      exact alone
    | cons next others =>
      rw [underscored_cons_cons]
      have nextFilled : next ≠ [] := (later next List.mem_cons_self).1
      exact alone.append (ih later) (lowerWord_ne_nil filled) (underscored_ne_nil others nextFilled)

theorem underscored_words_eq_nil_iff :
    underscored (words name) = [] ↔ name.any isAlphanumeric = false := by
  rw [← words_eq_nil_iff]
  cases split : words name with
  | nil => exact iff_of_true rfl rfl
  | cons word others =>
    have filled : word ≠ [] := (of_mem_words (split ▸ List.mem_cons_self)).1
    exact iff_of_false (underscored_ne_nil others filled) (List.cons_ne_nil _ _)

theorem isSpaced_withoutDigit {chars : List Char} (spaced : IsSpaced chars) :
    IsSpaced (withoutDigit chars) := by
  unfold withoutDigit
  split
  · rename_i digit
    have filled : chars ≠ [] := by
      rintro rfl
      cases digit
    have letters : IsSpaced "field".toList := .of_not_mem (by decide)
    have split : stableMark ++ chars = "field".toList ++ '_' :: chars := rfl
    rw [split]
    exact letters.append spaced (by decide) filled
  · exact spaced

theorem isDigit_head_withoutDigit (chars : List Char) :
    (withoutDigit chars).head?.any isDigit = false := by
  unfold withoutDigit
  split
  · rfl
  · rename_i undigit
    simpa using undigit

theorem withoutDigit_eq_nil_iff {chars : List Char} : withoutDigit chars = [] ↔ chars = [] := by
  unfold withoutDigit
  split
  · rename_i digit
    refine iff_of_false (List.append_ne_nil_of_left_ne_nil (by decide) _) ?_
    rintro rfl
    cases digit
  · exact Iff.rfl

end

/-- A sanitized name is the words of the name, lowercased character by character, with an underscore between
each two and the mark of stable names in front of a digit. So its underscores stand between other characters
and one at a time, it does not begin with a digit, and it is empty exactly if the name has no words. -/
theorem sanitize_words (name : String) :
    (sanitize name).toList = withoutDigit (underscored (words name.toList)) ∧
      IsSpaced (sanitize name).toList ∧
      (sanitize name).toList.head?.any isDigit = false ∧
      (sanitize name = "" ↔ name.toList.any isAlphanumeric = false) := by
  have same : (sanitize name).toList = withoutDigit (underscored (words name.toList)) := by
    rw [← sanitizeChars_eq]
    exact String.toList_ofList
  have proper : ∀ word ∈ words name.toList, word ≠ [] ∧ ∀ c ∈ word, isAlphanumeric c = true :=
    fun _ => of_mem_words
  refine ⟨same, ?_, ?_, ?_⟩
  · rw [same]
    exact isSpaced_withoutDigit (isSpaced_underscored proper)
  · rw [same]
    exact isDigit_head_withoutDigit _
  · rw [← String.toList_inj, same, ← underscored_words_eq_nil_iff]
    exact withoutDigit_eq_nil_iff

/-- Blanks and marks in a row separate words once, and a final sigma is lowercased like any other. -/
example : words " 2nd--ΣΑΣ!".toList = ["2nd".toList, "ΣΑΣ".toList] ∧
    sanitize " 2nd--ΣΑΣ!" = "field_2nd_σασ" := by decide +kernel

end Tabula
