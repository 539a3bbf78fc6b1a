import Tabula.Proofs.Formula.Places

/-!
Texts as a formula writes them: between quotes of either kind, with a backslash before what would end the
text or begin an escape. They are read as they were, so a formula can name any field.
-/
namespace Tabula.Formula
open Text

def quotes : List Char := ['\'', '"']

/-- A backslash is put before a backslash and before the quote that ends the text. -/
def escapeChar (quote c : Char) : List Char := if c = '\\' ∨ c = quote then ['\\', c] else [c]

def literalChars (quote : Char) (content : List Char) : List Char :=
  quote :: (content.flatMap (escapeChar quote) ++ [quote])

/-- The text as a formula writes it between quotes of the kind. -/
def literal (quote : Char) (content : String) : String :=
  String.ofList (literalChars quote content.toList)

section
variable {quote : Char} {content rest : List Char} {size position : Nat}

theorem of_mem_quotes (either : quote ∈ quotes) :
    isBlank quote = false ∧ mark? quote = none ∧ quote ≠ '\\' := by
  rcases List.mem_pair.1 either with rfl | rfl <;> decide

theorem quoted_escaped (c : Char) :
    quoted quote ('\\' :: c :: rest) = (quoted quote rest).map fun (body, rest) => (c :: body, rest) := by
  rw [quoted]

theorem quoted_plain {c : Char} (plain : c ≠ '\\') (other : c ≠ quote) :
    quoted quote (c :: rest) = (quoted quote rest).map fun (body, rest) => (c :: body, rest) := by
  rw [quoted, if_neg other]
  · exact fun _ _ same _ => plain same
  · exact fun same _ => plain same

theorem quoted_closing (plain : quote ≠ '\\') : quoted quote (quote :: rest) = some ([], rest) := by
  rw [quoted, if_pos rfl]
  · exact fun _ _ same _ => plain same
  · exact fun same _ => plain same

/-- What was escaped is read back up to the quote behind it, whatever follows. -/
theorem quoted_escape (plain : quote ≠ '\\') :
    quoted quote (content.flatMap (escapeChar quote) ++ quote :: rest) = some (content, rest) := by
  induction content with
  | nil => exact quoted_closing plain
  | cons c content ih =>
    rw [List.flatMap_cons, List.append_assoc]
    by_cases marked : c = '\\' ∨ c = quote
    · have escaped : escapeChar quote c = ['\\', c] := if_pos marked
      rw [escaped, List.cons_append, List.cons_append, List.nil_append, quoted_escaped, ih]
      rfl
    · have single : escapeChar quote c = [c] := if_neg marked
      obtain ⟨slash, other⟩ := not_or.1 marked
      rw [single, List.cons_append, List.nil_append, quoted_plain slash other, ih]
      rfl

theorem lexeme_literal (either : quote ∈ quotes) :
    lexeme position quote (content.flatMap (escapeChar quote) ++ quote :: rest) =
      .ok (.text (String.ofList content), rest) := by
  obtain ⟨_, unmarked, plain⟩ := of_mem_quotes either
  unfold lexeme
  rw [unmarked]
  dsimp only
  rw [if_pos (List.mem_pair.1 either), quoted_escape plain]

theorem scan_lexeme {c : Char} {left : List Char} {token : Token} (solid : isBlank c = false)
    (read : lexeme (size - byteLength (c :: rest)) c rest = .ok (token, left)) :
    scan size (c :: rest) =
      (scan size left).map (⟨size - byteLength (c :: rest), token⟩ :: ·) := by
  rw [scan, if_neg (by simp [solid])]
  dsimp only
  split
  · rename_i error failed
    rw [read] at failed
    cases failed
  · rename_i found behind done
    rw [read] at done
    cases done
    rfl

theorem scan_literal (either : quote ∈ quotes) :
    scan size (literalChars quote content ++ rest) = (scan size rest).map
      (⟨size - byteLength (literalChars quote content ++ rest), .text (String.ofList content)⟩ :: ·) := by
  have split : literalChars quote content ++ rest =
      quote :: (content.flatMap (escapeChar quote) ++ quote :: rest) := by
    simp [literalChars]
  rw [split, scan_lexeme (of_mem_quotes either).1 (lexeme_literal either)]

theorem lexeme_field :
    lexeme position 'f' ("ield(".toList ++ rest) = .ok (.name "field", '(' :: rest) := by
  have letters : ∀ c ∈ "ield".toList, isNameChar c = true := by
    have checked : "ield".toList.all isNameChar = true := by decide +kernel
    exact List.all_eq_true.1 checked
  have first : isNameStart 'f' = true := by decide +kernel
  have ends : isNameChar '(' = false := by decide +kernel
  have split : "ield(".toList ++ rest = "ield".toList ++ '(' :: rest := rfl
  have taken : ("ield(".toList ++ rest).takeWhile isNameChar = "ield".toList := by
    rw [split, List.takeWhile_append_of_pos letters, List.takeWhile_cons_of_neg (by simp [ends])]
    rfl
  have dropped : ("ield(".toList ++ rest).dropWhile isNameChar = '(' :: rest := by
    rw [split, List.dropWhile_append_of_pos letters, List.dropWhile_cons_of_neg (by simp [ends])]
  have unmarked : mark? 'f' = none := rfl
  unfold lexeme
  rw [unmarked]
  dsimp only
  rw [if_neg (by decide), if_neg (by decide), if_pos first, taken, dropped]
  rfl

theorem tokens_literal (either : quote ∈ quotes) (content : String) :
    tokens (literal quote content) = .ok [⟨0, .text content⟩] := by
  have whole : (literal quote content).toList = literalChars quote content.toList ++ [] := by
    simp [literal]
  have size : (literal quote content).utf8ByteSize =
      byteLength (literalChars quote content.toList ++ []) := by
    rw [byteLength_eq, List.append_nil]
    rfl
  unfold tokens
  rw [whole, size, scan_literal either, scan, Nat.sub_self, String.ofList_toList]
  rfl

theorem parse_literal (either : quote ∈ quotes) (content : String) :
    parse (literal quote content) = .ok (.text content) :=
  parse_of_derives (tokens_literal either content) (derives_text_iff.2 .bare)

theorem tokens_field_literal (either : quote ∈ quotes) (content : String) :
    ∃ placed, tokens ("field(" ++ literal quote content ++ ")") = .ok placed ∧
      bare placed = [.name "field", .leftParen, .text content, .rightParen] := by
  have chars : ("field(" ++ literal quote content ++ ")").toList =
      'f' :: ("ield(".toList ++ (literalChars quote content.toList ++ [')'])) := by
    simp [literal]
  have opened {position : Nat} {rest : List Char} :
      lexeme position '(' rest = .ok (.leftParen, rest) := rfl
  have closed {position : Nat} : lexeme position ')' [] = .ok (.rightParen, []) := rfl
  unfold tokens
  rw [chars, scan_lexeme (by decide) lexeme_field, scan_lexeme (by decide) opened, scan_literal either,
    scan_lexeme (by decide) closed, scan, String.ofList_toList]
  exact ⟨_, rfl, rfl⟩

theorem parse_field_literal (either : quote ∈ quotes) (content : String) :
    parse ("field(" ++ literal quote content ++ ")") = .ok (.field content) := by
  obtain ⟨placed, cut, tokens⟩ := tokens_field_literal either content
  exact parse_of_derives cut (tokens ▸ derives_field (by decide) .bare)

end

/-- A text between quotes of either kind, with a backslash before each backslash and each of its quotes, is
the one token that holds the text; and `field` applied to it is a formula that refers to the field of that
name alone. So a formula can name any field. -/
theorem field_of_any_name {quote : Char} (either : quote ∈ quotes) (content : String) :
    tokens (literal quote content) = .ok [⟨0, .text content⟩] ∧
      ∃ expr, parse ("field(" ++ literal quote content ++ ")") = .ok expr ∧
        expr.fieldNames = [content] :=
  ⟨tokens_literal either content, .field content, parse_field_literal either content, rfl⟩

/-- A name with both quotes, marks of formulas and a backslash at its end. -/
theorem field_of_marked_name : '\'' ∈ quotes ∧
    literal '\'' "it's \"a\") + (b\\" = "'it\\'s \"a\") + (b\\\\'" ∧
    tokens "'it\\'s \"a\") + (b\\\\'" = .ok [⟨0, .text "it's \"a\") + (b\\"⟩] ∧
    ∃ expr, parse "field('it\\'s \"a\") + (b\\\\')" = .ok expr ∧
      expr.fieldNames = ["it's \"a\") + (b\\"] := by
  have either : '\'' ∈ quotes := by decide
  have written : literal '\'' "it's \"a\") + (b\\" = "'it\\'s \"a\") + (b\\\\'" := by decide
  have read := field_of_any_name either "it's \"a\") + (b\\"
  rw [written] at read
  exact ⟨either, written, read⟩

end Tabula.Formula
