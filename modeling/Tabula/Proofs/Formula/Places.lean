import Tabula.Proofs.Formula.Parser

/-!
Where the errors of a formula point: the lexer keeps to the characters of the source, and the readers to
the tokens that they are given and to the end.
-/
namespace Tabula.Formula

variable {Place : Nat → Prop} {α β : Type}

def Error.PointsTo (Place : Nat → Prop) (error : Error) : Prop :=
  ∀ position, error.position? = some position → Place position

/-- A reader fails with errors that point to the places, if it fails. -/
def FailsAt (Place : Nat → Prop) (outcome : Except Error α) : Prop :=
  ∀ error, outcome = .error error → error.PointsTo Place

theorem failsAt_ok (value : α) : FailsAt Place (.ok value : Except Error α) := by
  intro error failed
  cases failed

theorem failsAt_error {error : Error} (points : error.PointsTo Place) :
    FailsAt Place (.error error : Except Error α) := by
  intro other failed
  cases failed
  exact points

theorem FailsAt.bind {outcome : Except Error α} {next : α → Except Error β}
    (first : FailsAt Place outcome) (later : ∀ value, outcome = .ok value → FailsAt Place (next value)) :
    FailsAt Place (outcome >>= next) := by
  intro error failed
  rcases bind_eq_error.1 failed with early | ⟨value, done, late⟩
  · exact first error early
  · exact later value done error late

/-! The readers. -/

def Marked (Place : Nat → Prop) (tokens : List Placed) : Prop := ∀ token ∈ tokens, Place token.position

theorem Marked.tail {token : Placed} {tokens : List Placed} (marked : Marked Place (token :: tokens)) :
    Marked Place tokens :=
  (List.forall_mem_cons.1 marked).2

theorem Marked.rest {used rest : List Placed} (marked : Marked Place (used ++ rest)) :
    Marked Place rest :=
  (List.forall_mem_append.1 marked).2

section
variable {size : Nat}

theorem failsAt_stop {tokens : List Placed} (ends : Place size) (marked : Marked Place tokens) :
    FailsAt Place (stop size tokens : Except Error α) := by
  cases tokens with
  | nil =>
    apply failsAt_error
    intro position same
    cases same
    exact ends
  | cons next rest =>
    apply failsAt_error
    intro position same
    cases same
    exact marked next List.mem_cons_self

theorem failsAt_expect {token : Token} {tokens : List Placed} (ends : Place size)
    (marked : Marked Place tokens) : FailsAt Place (expect size token tokens) := by
  unfold expect
  split
  · exact failsAt_stop ends marked
  · split
    · exact failsAt_ok _
    · exact failsAt_stop ends marked

theorem failsAt_apply (function : Function) (arguments : List Expr) :
    FailsAt Place (function.apply arguments) := by
  unfold Function.apply
  split
  all_goals first
    | exact failsAt_ok _
    | exact failsAt_error nofun

mutual

theorem failsAt_expression {tokens : List Placed} (ends : Place size) (marked : Marked Place tokens) :
    FailsAt Place (expression size tokens) := by
  rw [expression]
  apply (failsAt_term ends marked).bind
  rintro ⟨left, rest, shorter⟩ done
  obtain ⟨used, _, rfl, _⟩ := spelled_term ⟨shorter, done⟩
  exact (failsAt_sums ends marked.rest).bind fun ⟨_, _, _⟩ _ => failsAt_ok _
termination_by (tokens.length, 5)

theorem failsAt_sums {tokens : List Placed} {left : Expr} (ends : Place size)
    (marked : Marked Place tokens) : FailsAt Place (sums size left tokens) := by
  by_cases leads : LeadsWith additive tokens
  · obtain ⟨position, operator, ranked, tail, rfl⟩ := leads
    rcases List.mem_pair.1 ranked with rfl | rfl
    all_goals
      rw [sums]
      apply (failsAt_term ends marked.tail).bind
      rintro ⟨right, rest, shorter⟩ done
      obtain ⟨used, _, rfl, _⟩ := spelled_term ⟨shorter, done⟩
      exact (failsAt_sums ends marked.tail.rest).bind fun ⟨_, _, _⟩ _ => failsAt_ok _
  · rw [sums_of_not leads]
    exact failsAt_ok _
termination_by (tokens.length, 4)

theorem failsAt_term {tokens : List Placed} (ends : Place size) (marked : Marked Place tokens) :
    FailsAt Place (term size tokens) := by
  rw [term]
  apply (failsAt_signed ends marked).bind
  rintro ⟨left, rest, shorter⟩ done
  obtain ⟨used, _, rfl, _⟩ := spelled_signed ⟨shorter, done⟩
  exact (failsAt_products ends marked.rest).bind fun ⟨_, _, _⟩ _ => failsAt_ok _
termination_by (tokens.length, 3)

theorem failsAt_products {tokens : List Placed} {left : Expr} (ends : Place size)
    (marked : Marked Place tokens) : FailsAt Place (products size left tokens) := by
  by_cases leads : LeadsWith multiplicative tokens
  · obtain ⟨position, operator, ranked, tail, rfl⟩ := leads
    rcases List.mem_pair.1 ranked with rfl | rfl
    all_goals
      rw [products]
      apply (failsAt_signed ends marked.tail).bind
      rintro ⟨right, rest, shorter⟩ done
      obtain ⟨used, _, rfl, _⟩ := spelled_signed ⟨shorter, done⟩
      exact (failsAt_products ends marked.tail.rest).bind fun ⟨_, _, _⟩ _ => failsAt_ok _
  · rw [products_of_not leads]
    exact failsAt_ok _
termination_by (tokens.length, 2)

theorem failsAt_signed {tokens : List Placed} (ends : Place size) (marked : Marked Place tokens) :
    FailsAt Place (signed size tokens) := by
  by_cases leads : LeadsWith [.sub] tokens
  · obtain ⟨position, operator, ranked, tail, rfl⟩ := leads
    rw [List.mem_singleton.1 ranked, signed]
    exact (failsAt_signed ends marked.tail).bind fun ⟨_, _, _⟩ _ => failsAt_ok _
  · rw [signed_of_not leads]
    exact failsAt_operand ends marked
termination_by (tokens.length, 1)

theorem failsAt_operand {tokens : List Placed} (ends : Place size) (marked : Marked Place tokens) :
    FailsAt Place (operand size tokens) := by
  unfold operand
  split
  · exact failsAt_ok _
  · exact failsAt_ok _
  · apply (failsAt_expression ends marked.tail).bind
    rintro ⟨inner, rest, shorter⟩ done
    obtain ⟨used, _, rfl, _⟩ := spelled_expression ⟨shorter, done⟩
    exact (failsAt_expect ends marked.tail.rest).bind fun ⟨_, _⟩ _ => failsAt_ok _
  · rename_i position letters tail
    split
    · apply failsAt_error
      intro place same
      cases same
      exact marked _ List.mem_cons_self
    · apply (failsAt_expect ends marked.tail).bind
      rintro ⟨rest, opened⟩ done
      obtain ⟨_, opening⟩ := expect_eq_ok.1 done
      have behind : Marked Place (_ :: rest) := opening ▸ marked.tail
      have shorter : rest.length < (⟨position, .name letters⟩ :: tail).length := Nat.lt_succ_of_lt opened
      apply (failsAt_arguments? ends behind.tail).bind
      rintro ⟨given, last, _⟩ _
      exact (failsAt_apply _ _).bind fun _ _ => failsAt_ok _
  · exact failsAt_stop ends marked
termination_by (tokens.length, 0)

theorem failsAt_arguments? {tokens : List Placed} (ends : Place size) (marked : Marked Place tokens) :
    FailsAt Place (arguments? size tokens) := by
  unfold arguments?
  split
  · exact failsAt_ok _
  · exact failsAt_arguments ends marked
termination_by (tokens.length, 7)

theorem failsAt_arguments {tokens : List Placed} (ends : Place size) (marked : Marked Place tokens) :
    FailsAt Place (arguments size tokens) := by
  rw [arguments]
  apply (failsAt_expression ends marked).bind
  rintro ⟨argument, rest, shorter⟩ done
  obtain ⟨used, _, rfl, _⟩ := spelled_expression ⟨shorter, done⟩
  dsimp only
  split
  · exact (failsAt_arguments ends marked.rest.tail).bind fun ⟨_, _, _⟩ _ => failsAt_ok _
  · exact failsAt_ok _
  · exact failsAt_stop ends marked.rest
termination_by (tokens.length, 6)

end

end

theorem failsAt_ofTokens {size : Nat} {tokens : List Placed} (ends : Place size)
    (marked : Marked Place tokens) : FailsAt Place (Expr.ofTokens size tokens) := by
  apply (failsAt_expression ends marked).bind
  rintro ⟨whole, rest, shorter⟩ done
  obtain ⟨used, _, rfl, _⟩ := spelled_expression ⟨shorter, done⟩
  dsimp only
  split
  · exact failsAt_ok _
  · exact failsAt_stop ends marked.rest

/-! The lexer. -/

/-- A position between two characters of a source, or at one of its ends. -/
def IsBoundary (source : String) (position : Nat) : Prop := String.Pos.Raw.IsValid source ⟨position⟩

theorem byteLength_eq (chars : List Char) : byteLength chars = (String.ofList chars).utf8ByteSize := by
  have grown (size : Nat) : chars.foldl (fun size c => size + c.utf8Size) size =
      size + (String.ofList chars).utf8ByteSize := by
    induction chars generalizing size with
    | nil => rfl
    | cons c rest ih =>
      rw [List.foldl_cons, ih, String.ofList_cons, String.utf8ByteSize_append,
        String.utf8ByteSize_singleton, Nat.add_assoc]
  exact (grown 0).trans (Nat.zero_add _)

theorem isBoundary_of_suffix {source : String} {chars : List Char} (left : chars <:+ source.toList) :
    IsBoundary source (source.utf8ByteSize - byteLength chars) := by
  obtain ⟨front, split⟩ := left
  rw [byteLength_eq, IsBoundary, String.Pos.Raw.isValid_iff_exists_append]
  have whole : source = String.ofList front ++ String.ofList chars := by
    rw [← String.ofList_append, split, String.ofList_toList]
  refine ⟨String.ofList front, String.ofList chars, whole, ?_⟩
  rw [whole, String.utf8ByteSize_append, Nat.add_sub_cancel]
  rfl

theorem isSuffix_of_quoted {quote : Char} {chars body rest : List Char}
    (read : quoted quote chars = some (body, rest)) : rest <:+ chars := by
  fun_induction quoted quote chars generalizing body with
  | case1 => cases read
  | case2 c tail ih =>
    obtain ⟨⟨inner, left⟩, found, same⟩ := Option.map_eq_some_iff.1 read
    cases same
    exact (ih found).trans (List.suffix_append [_, _] tail)
  | case3 => cases read
  | case4 tail =>
    cases read
    exact List.suffix_cons _ _
  | case5 c tail _ _ _ ih =>
    obtain ⟨⟨inner, left⟩, found, same⟩ := Option.map_eq_some_iff.1 read
    cases same
    exact (ih found).trans (List.suffix_cons _ _)

theorem isSuffix_of_lexeme {position : Nat} {c : Char} {chars rest : List Char} {token : Token}
    (read : lexeme position c chars = .ok (token, rest)) : rest <:+ chars := by
  unfold lexeme at read
  split at read
  · cases read
    exact List.suffix_rfl
  · split at read
    · split at read
      · rename_i found
        cases read
        exact isSuffix_of_quoted found
      · cases read
    · split at read
      · dsimp only at read
        split at read
        · cases read
          exact List.dropWhile_suffix _
        · cases read
      · split at read
        · cases read
          exact List.dropWhile_suffix _
        · cases read

theorem failsAt_lexeme {position : Nat} {c : Char} {chars : List Char} (place : Place position) :
    FailsAt Place (lexeme position c chars) := by
  have here {error : Error} (points : ∀ other, error.position? = some other → position = other) :
      FailsAt Place (.error error : Except Error (Token × List Char)) :=
    failsAt_error fun other found => points other found ▸ place
  unfold lexeme
  split
  · exact failsAt_ok _
  · split
    · split
      · exact failsAt_ok _
      · exact here fun _ => Option.some.inj
    · split
      · dsimp only
        split
        · exact failsAt_ok _
        · exact here nofun
      · split
        · exact failsAt_ok _
        · exact here fun _ => Option.some.inj

/-- The lexer keeps to the boundaries of its source, in its tokens as in its errors. -/
theorem scan_boundaries {source : String} {chars : List Char} (left : chars <:+ source.toList) :
    FailsAt (IsBoundary source) (scan source.utf8ByteSize chars) ∧
      ∀ placed, scan source.utf8ByteSize chars = .ok placed → Marked (IsBoundary source) placed := by
  fun_induction scan source.utf8ByteSize chars with
  | case1 =>
    refine ⟨failsAt_ok _, ?_⟩
    intro placed done
    cases done
    exact nofun
  | case2 c rest _ ih => exact ih ((List.suffix_cons c rest).trans left)
  | case3 c rest _ position error failed =>
    have place : IsBoundary source position := isBoundary_of_suffix left
    exact ⟨failsAt_error (failsAt_lexeme place error failed), nofun⟩
  | case4 c rest _ position token behind read ih =>
    have place : IsBoundary source position := isBoundary_of_suffix left
    obtain ⟨fails, marks⟩ :=
      ih (((isSuffix_of_lexeme read).trans (List.suffix_cons c rest)).trans left)
    constructor
    · intro error failed
      exact fails error (map_eq_error.1 failed)
    · intro placed done
      obtain ⟨others, later, rfl⟩ := map_eq_ok.1 done
      exact List.forall_mem_cons.2 ⟨place, marks others later⟩

theorem isBoundary_size (source : String) : IsBoundary source source.utf8ByteSize :=
  have nothing : [] <:+ source.toList := List.nil_suffix
  isBoundary_of_suffix nothing

/-- An error in the text of a formula points to a boundary of it. -/
theorem failsAt_parse (source : String) : FailsAt (IsBoundary source) (parse source) := by
  obtain ⟨fails, marks⟩ := scan_boundaries (List.suffix_refl source.toList)
  exact fails.bind fun placed done => failsAt_ofTokens (isBoundary_size source) (marks placed done)

/-- A source that can be cut into tokens is read if and only if its tokens are a sum of the grammar, and
then as the one expression that they come to; every phrase takes some of the tokens. The name of a field is
a literal, perhaps in parentheses. What is not in the grammar is refused, at a boundary of the source if at
any place. -/
theorem parse_reads_grammar {source : String} {placed : List Placed}
    (cut : tokens source = .ok placed) :
    (∀ expr, parse source = .ok expr ↔ Derives (.sum expr) (bare placed)) ∧
      (∀ expr other, Derives (.sum expr) (bare placed) → Derives (.sum other) (bare placed) →
        expr = other) ∧
      (∀ name run, Derives (.sum (.text name)) run ↔ IsLiteral name run) ∧
      (∀ (phrase : Phrase) (left rest : List Placed),
        phrase.IsReadFrom source.utf8ByteSize left rest → ∃ used, used ≠ [] ∧ left = used ++ rest) ∧
      ((¬ ∃ expr, Derives (.sum expr) (bare placed)) →
        ∃ error, parse source = .error error ∧
          ∀ position, error.position? = some position → IsBoundary source position) := by
  have parsed : parse source = Expr.ofTokens source.utf8ByteSize placed := by
    rw [parse, cut]
    rfl
  have reads (expr : Expr) : parse source = .ok expr ↔ Derives (.sum expr) (bare placed) := by
    rw [parsed, ofTokens_eq_ok]
  refine ⟨reads, ?_, fun name run => derives_text_iff, fun phrase left rest => advances_of_isReadFrom, ?_⟩
  · intro expr other first second
    have same := ((reads expr).2 first).symm.trans ((reads other).2 second)
    exact Except.ok.inj same
  · intro foreign
    cases outcome : parse source with
    | ok expr => exact absurd ⟨expr, (reads expr).1 outcome⟩ foreign
    | error error => exact ⟨error, rfl, failsAt_parse source error outcome⟩

def mixedTokens : List Placed :=
  [⟨0, .number .one⟩, ⟨1, .operator .sub⟩, ⟨2, .name "Field"⟩, ⟨7, .leftParen⟩, ⟨8, .leftParen⟩,
    ⟨9, .text "A"⟩, ⟨12, .rightParen⟩, ⟨13, .rightParen⟩, ⟨14, .operator .mul⟩, ⟨15, .number .zero⟩]

def mixedExpr : Expr := .binary .sub (.number .one) (.binary .mul (.field "A") (.number .zero))

theorem tokens_mixed : tokens "1-Field(('A'))*0" = .ok mixedTokens := by decide +kernel

theorem parse_mixed : parse "1-Field(('A'))*0" = .ok mixedExpr := by
  have named : Function.ofName? "Field" = some .field := by decide +kernel
  rw [parse, tokens_mixed]
  simp [bind, Except.bind, pure, Except.pure, Expr.ofTokens, mixedTokens, mixedExpr, expression, sums, term,
    products, signed, operand, arguments?, arguments, expect, named, Function.apply]

theorem derives_mixed : tokens "1-Field(('A'))*0" = .ok mixedTokens ∧
    Derives (.sum mixedExpr) (bare mixedTokens) :=
  ⟨tokens_mixed, ((parse_reads_grammar tokens_mixed).1 mixedExpr).1 parse_mixed⟩

end Tabula.Formula
