import Tabula.Proofs.Except
import Tabula.Proofs.Formula.Grammar

/-!
Reading by descent and the grammar come to the same: what is read is spelled by the tokens that are used
up, and what tokens spell is read from them.
-/
namespace Tabula.Formula

/-- A reader gives `value` and leaves `rest`. -/
def Reads {α : Type} {Left : List Placed → Prop} (outcome : Except Error (α × Subtype Left)) (value : α)
    (rest : List Placed) : Prop :=
  ∃ within, outcome = .ok (value, ⟨rest, within⟩)

def LeadsWith (operators : List Operator) (tokens : List Placed) : Prop :=
  ∃ position, ∃ operator ∈ operators, ∃ tail, tokens = ⟨position, .operator operator⟩ :: tail

section
variable {α β : Type} {Left Later : List Placed → Prop} {rest : List Placed}

theorem Reads.within {outcome : Except Error (α × Subtype Left)} {value : α}
    (read : Reads outcome value rest) : Left rest :=
  read.elim fun within _ => within

theorem reads_pure {given value : α} {left : Subtype Left} :
    Reads (pure (given, left) : Except Error (α × Subtype Left)) value rest ↔
      value = given ∧ rest = left.val := by
  constructor
  · rintro ⟨_, same⟩
    cases same
    exact ⟨rfl, rfl⟩
  · rintro ⟨rfl, rfl⟩
    exact ⟨left.property, rfl⟩

theorem reads_bind {outcome : Except Error (α × Subtype Left)}
    {next : α × Subtype Left → Except Error (β × Subtype Later)} {value : β} :
    Reads (outcome >>= next) value rest ↔ ∃ first middle within,
      outcome = .ok (first, ⟨middle, within⟩) ∧ Reads (next (first, ⟨middle, within⟩)) value rest := by
  simp only [Reads, bind_eq_ok, Prod.exists, Subtype.exists]
  grind

theorem not_reads_error {error : Error} {value : α} :
    ¬ Reads (.error error : Except Error (α × Subtype Left)) value rest := by
  rintro ⟨_, same⟩
  cases same

end

theorem expect_eq_ok {size : Nat} {token : Token} {tokens : List Placed} {left : After tokens} :
    expect size token tokens = .ok left ↔ ∃ position, tokens = ⟨position, token⟩ :: left.val := by
  obtain ⟨rest, within⟩ := left
  cases tokens with
  | nil => simp [expect, stop]
  | cons next others =>
    obtain ⟨position, found⟩ := next
    unfold expect
    by_cases same : found = token
    · simp [same]
    · simp [same, stop]

/-! What each reader reads, in terms of those that it calls. -/

section
variable {size position : Nat} {tokens rest tail : List Placed} {left value : Expr} {operator : Operator}

theorem reads_expression : Reads (expression size tokens) value rest ↔ ∃ first middle,
    Reads (term size tokens) first middle ∧ Reads (sums size first middle) value rest := by
  rw [expression]
  simp only [reads_bind, reads_pure]
  simp only [Reads]
  grind

theorem reads_sums_of_leads (ranked : operator ∈ additive) :
    Reads (sums size left (⟨position, .operator operator⟩ :: tail)) value rest ↔
      ∃ right middle, Reads (term size tail) right middle ∧
        Reads (sums size (.binary operator left right) middle) value rest := by
  rcases List.mem_pair.1 ranked with rfl | rfl
  all_goals
    rw [sums]
    simp only [reads_bind, reads_pure]
    simp only [Reads]
    grind

theorem sums_of_not (stopped : ¬ LeadsWith additive tokens) :
    sums size left tokens = pure (left, ⟨tokens, Nat.le_refl _⟩) := by
  have free (operator : Operator) (ranked : operator ∈ additive) (position : Nat) (tail : List Placed)
      (same : tokens = ⟨position, .operator operator⟩ :: tail) : False :=
    stopped ⟨position, operator, ranked, tail, same⟩
  rw [sums]
  · exact free .add (by decide)
  · exact free .sub (by decide)

theorem reads_sums_of_not (stopped : ¬ LeadsWith additive tokens) :
    Reads (sums size left tokens) value rest ↔ value = left ∧ rest = tokens := by
  rw [sums_of_not stopped, reads_pure]

theorem reads_term : Reads (term size tokens) value rest ↔ ∃ first middle,
    Reads (signed size tokens) first middle ∧ Reads (products size first middle) value rest := by
  rw [term]
  simp only [reads_bind, reads_pure]
  simp only [Reads]
  grind

theorem reads_products_of_leads (ranked : operator ∈ multiplicative) :
    Reads (products size left (⟨position, .operator operator⟩ :: tail)) value rest ↔
      ∃ right middle, Reads (signed size tail) right middle ∧
        Reads (products size (.binary operator left right) middle) value rest := by
  rcases List.mem_pair.1 ranked with rfl | rfl
  all_goals
    rw [products]
    simp only [reads_bind, reads_pure]
    simp only [Reads]
    grind

theorem products_of_not (stopped : ¬ LeadsWith multiplicative tokens) :
    products size left tokens = pure (left, ⟨tokens, Nat.le_refl _⟩) := by
  have free (operator : Operator) (ranked : operator ∈ multiplicative) (position : Nat)
      (tail : List Placed) (same : tokens = ⟨position, .operator operator⟩ :: tail) : False :=
    stopped ⟨position, operator, ranked, tail, same⟩
  rw [products]
  · exact free .mul (by decide)
  · exact free .div (by decide)

theorem reads_products_of_not (stopped : ¬ LeadsWith multiplicative tokens) :
    Reads (products size left tokens) value rest ↔ value = left ∧ rest = tokens := by
  rw [products_of_not stopped, reads_pure]

theorem reads_signed_of_leads :
    Reads (signed size (⟨position, .operator .sub⟩ :: tail)) value rest ↔
      ∃ inner, Reads (signed size tail) inner rest ∧ value = .neg inner := by
  rw [signed]
  simp only [reads_bind, reads_pure]
  simp only [Reads]
  grind

theorem signed_of_not (stopped : ¬ LeadsWith [.sub] tokens) :
    signed size tokens = operand size tokens := by
  rw [signed]
  intro position tail same
  exact stopped ⟨position, .sub, List.mem_singleton_self _, tail, same⟩

theorem reads_operand_number {amount : Decimal} :
    Reads (operand size (⟨position, .number amount⟩ :: tail)) value rest ↔
      value = .number amount ∧ rest = tail := by
  rw [operand, reads_pure]

theorem reads_operand_text {content : String} :
    Reads (operand size (⟨position, .text content⟩ :: tail)) value rest ↔
      value = .text content ∧ rest = tail := by
  rw [operand, reads_pure]

theorem reads_operand_group :
    Reads (operand size (⟨position, .leftParen⟩ :: tail)) value rest ↔
      ∃ closing, Reads (expression size tail) value (⟨closing, .rightParen⟩ :: rest) := by
  rw [operand]
  simp only [Reads, bind_eq_ok, expect_eq_ok, Prod.exists, Subtype.exists]
  constructor
  · rintro ⟨_, inner, middle, shorter, read, behind, _, ⟨closing, split⟩, same⟩
    cases same
    subst split
    exact ⟨closing, shorter, read⟩
  · rintro ⟨closing, shorter, read⟩
    simp only [List.length_cons] at shorter
    exact ⟨by simp only [List.length_cons]; omega, value, _, by simpa using shorter, read, rest,
      by simp, ⟨closing, rfl⟩, rfl⟩

theorem reads_operand_call {letters : String} :
    Reads (operand size (⟨position, .name letters⟩ :: tail)) value rest ↔
      ∃ (function : Function) (opening : Nat) (behind : List Placed) (given : List Expr),
        function.IsNamed letters ∧ tail = ⟨opening, .leftParen⟩ :: behind ∧
        Reads (arguments? size behind) given rest ∧ function.Takes given value := by
  simp only [← Function.ofName?_eq_some, ← Function.apply_eq_ok]
  rw [operand]
  cases Function.ofName? letters with
  | none => simp [not_reads_error]
  | some function =>
    simp only [Reads, bind_eq_ok, expect_eq_ok, Prod.exists, Subtype.exists]
    constructor
    · rintro ⟨_, behind, _, ⟨opening, rfl⟩, given, middle, shorter, read, expr, taken, same⟩
      cases same
      exact ⟨function, opening, behind, given, rfl, rfl, ⟨shorter, read⟩, taken⟩
    · rintro ⟨_, opening, behind, given, same, rfl, ⟨shorter, read⟩, taken⟩
      cases same
      exact ⟨by simp only [List.length_cons]; omega, behind, by simp, ⟨opening, rfl⟩, given, rest,
        shorter, read, value, taken, rfl⟩

theorem not_reads_stop {Left : List Placed → Prop} {α : Type} {given : α} :
    ¬ Reads (stop size tokens : Except Error (α × Subtype Left)) given rest := by
  cases tokens <;> exact not_reads_error

def Token.IsStart : Token → Prop
  | .number _ | .text _ | .leftParen | .name _ => True
  | .rightParen | .comma | .operator _ => False

theorem starts_of_reads_operand (read : Reads (operand size tokens) value rest) :
    ∃ position token tail, tokens = ⟨position, token⟩ :: tail ∧ token.IsStart := by
  unfold operand at read
  split at read
  · exact ⟨_, _, _, rfl, trivial⟩
  · exact ⟨_, _, _, rfl, trivial⟩
  · exact ⟨_, _, _, rfl, trivial⟩
  · exact ⟨_, _, _, rfl, trivial⟩
  · exact absurd read not_reads_stop

theorem not_reads_expression_close :
    ¬ Reads (expression size (⟨position, .rightParen⟩ :: tail)) value rest := by
  intro read
  obtain ⟨_, _, read, _⟩ := reads_expression.1 read
  obtain ⟨_, _, read, _⟩ := reads_term.1 read
  rw [signed_of_not (by simp [LeadsWith])] at read
  obtain ⟨_, _, _, same, start⟩ := starts_of_reads_operand read
  cases same
  exact start

variable {given : List Expr}

theorem reads_arguments?_none :
    Reads (arguments? size (⟨position, .rightParen⟩ :: tail)) given rest ↔ given = [] ∧ rest = tail := by
  rw [arguments?, reads_pure]

theorem reads_arguments?_some (more : ∀ position tail, tokens ≠ ⟨position, .rightParen⟩ :: tail) :
    Reads (arguments? size tokens) given rest ↔ Reads (arguments size tokens) given rest := by
  rw [arguments?]
  exact more

theorem reads_arguments : Reads (arguments size tokens) given rest ↔
    ∃ first middle, Reads (expression size tokens) first middle ∧
      ((∃ position, middle = ⟨position, .rightParen⟩ :: rest ∧ given = [first]) ∨
        ∃ position behind others, middle = ⟨position, .comma⟩ :: behind ∧
          Reads (arguments size behind) others rest ∧ given = first :: others) := by
  rw [arguments, reads_bind]
  constructor
  · rintro ⟨first, middle, shorter, read, later⟩
    refine ⟨first, middle, ⟨shorter, read⟩, ?_⟩
    dsimp only at later
    split at later
    · rename_i position behind shorter
      obtain ⟨others, _, within, done, same⟩ := reads_bind.1 later
      obtain ⟨rfl, rfl⟩ := reads_pure.1 same
      exact .inr ⟨position, behind, others, rfl, ⟨within, done⟩, rfl⟩
    · rename_i position behind shorter
      obtain ⟨rfl, rfl⟩ := reads_pure.1 later
      exact .inl ⟨position, rfl, rfl⟩
    · exact absurd later not_reads_stop
  · rintro ⟨first, middle, ⟨shorter, read⟩, ⟨position, rfl, rfl⟩ | ⟨position, behind, others, rfl, later, rfl⟩⟩
    · exact ⟨first, _, shorter, read, reads_pure.2 ⟨rfl, rfl⟩⟩
    · obtain ⟨within, done⟩ := later
      exact ⟨first, _, shorter, read, reads_bind.2 ⟨others, rest, within, done, reads_pure.2 ⟨rfl, rfl⟩⟩⟩

theorem reads_arguments?_of_arguments (read : Reads (arguments size tokens) given rest) :
    Reads (arguments? size tokens) given rest := by
  refine (reads_arguments?_some ?_).2 read
  rintro position tail rfl
  obtain ⟨_, _, first, _⟩ := reads_arguments.1 read
  exact not_reads_expression_close first

theorem reads_arguments_of_cons {first : Expr}
    (read : Reads (arguments? size tokens) (first :: given) rest) :
    Reads (arguments size tokens) (first :: given) rest := by
  refine (reads_arguments?_some ?_).1 read
  rintro position tail rfl
  obtain ⟨empty, _⟩ := reads_arguments?_none.1 read
  cases empty

end

/-! What is read is spelled by the tokens before the rest. The readers call each other with fewer tokens, or
with all of them down to the operands: the induction is on the number of tokens, then on the rank. -/

section
variable {size : Nat}

/-- The tokens of a run, without their places. -/
abbrev bare (run : List Placed) : List Token := run.map Placed.token

mutual

theorem spelled_expression {tokens rest : List Placed} {value : Expr}
    (read : Reads (expression size tokens) value rest) :
    ∃ used, used ≠ [] ∧ tokens = used ++ rest ∧ Derives (.sum value) (bare used) := by
  obtain ⟨first, middle, one, others⟩ := reads_expression.1 read
  have shorter : middle.length < tokens.length := one.within
  obtain ⟨front, filled, rfl, spelled⟩ := spelled_term one
  obtain ⟨back, rfl, continues⟩ := spelled_sums others
  refine ⟨front ++ back, by simp [filled], by simp, ?_⟩
  rw [bare, List.map_append]
  exact continues _ (.ofProduct spelled)
termination_by (tokens.length, 5)

/-- What goes on with a sum spells the whole sum, behind tokens that spell the sum so far. -/
theorem spelled_sums {tokens rest : List Placed} {left value : Expr}
    (read : Reads (sums size left tokens) value rest) :
    ∃ used, tokens = used ++ rest ∧
      ∀ before, Derives (.sum left) before → Derives (.sum value) (before ++ bare used) := by
  by_cases leads : LeadsWith additive tokens
  · obtain ⟨position, operator, ranked, tail, rfl⟩ := leads
    obtain ⟨right, middle, one, others⟩ := (reads_sums_of_leads ranked).1 read
    have shorter : middle.length < tail.length := one.within
    obtain ⟨front, _, rfl, spelled⟩ := spelled_term one
    obtain ⟨back, rfl, continues⟩ := spelled_sums others
    refine ⟨⟨position, .operator operator⟩ :: front ++ back, by simp, ?_⟩
    intro before sum
    simpa using continues _ (.sum sum ranked spelled)
  · obtain ⟨rfl, rfl⟩ := (reads_sums_of_not leads).1 read
    exact ⟨[], rfl, fun before sum => by simpa using sum⟩
termination_by (tokens.length, 4)

theorem spelled_term {tokens rest : List Placed} {value : Expr}
    (read : Reads (term size tokens) value rest) :
    ∃ used, used ≠ [] ∧ tokens = used ++ rest ∧ Derives (.product value) (bare used) := by
  obtain ⟨first, middle, one, others⟩ := reads_term.1 read
  have shorter : middle.length < tokens.length := one.within
  obtain ⟨front, filled, rfl, spelled⟩ := spelled_signed one
  obtain ⟨back, rfl, continues⟩ := spelled_products others
  refine ⟨front ++ back, by simp [filled], by simp, ?_⟩
  rw [bare, List.map_append]
  exact continues _ (.ofSigned spelled)
termination_by (tokens.length, 3)

theorem spelled_products {tokens rest : List Placed} {left value : Expr}
    (read : Reads (products size left tokens) value rest) :
    ∃ used, tokens = used ++ rest ∧
      ∀ before, Derives (.product left) before → Derives (.product value) (before ++ bare used) := by
  by_cases leads : LeadsWith multiplicative tokens
  · obtain ⟨position, operator, ranked, tail, rfl⟩ := leads
    obtain ⟨right, middle, one, others⟩ := (reads_products_of_leads ranked).1 read
    have shorter : middle.length < tail.length := one.within
    obtain ⟨front, _, rfl, spelled⟩ := spelled_signed one
    obtain ⟨back, rfl, continues⟩ := spelled_products others
    refine ⟨⟨position, .operator operator⟩ :: front ++ back, by simp, ?_⟩
    intro before product
    simpa using continues _ (.product product ranked spelled)
  · obtain ⟨rfl, rfl⟩ := (reads_products_of_not leads).1 read
    exact ⟨[], rfl, fun before product => by simpa using product⟩
termination_by (tokens.length, 2)

theorem spelled_signed {tokens rest : List Placed} {value : Expr}
    (read : Reads (signed size tokens) value rest) :
    ∃ used, used ≠ [] ∧ tokens = used ++ rest ∧ Derives (.signed value) (bare used) := by
  by_cases leads : LeadsWith [.sub] tokens
  · obtain ⟨position, operator, ranked, tail, rfl⟩ := leads
    rw [List.mem_singleton.1 ranked] at read
    obtain ⟨inner, one, rfl⟩ := reads_signed_of_leads.1 read
    obtain ⟨front, _, rfl, spelled⟩ := spelled_signed one
    refine ⟨⟨position, .operator operator⟩ :: front, by simp, by simp, ?_⟩
    rw [List.mem_singleton.1 ranked]
    exact .neg spelled
  · rw [signed_of_not leads] at read
    obtain ⟨front, filled, split, spelled⟩ := spelled_operand read
    exact ⟨front, filled, split, .ofOperand spelled⟩
termination_by (tokens.length, 1)

theorem spelled_operand {tokens rest : List Placed} {value : Expr}
    (read : Reads (operand size tokens) value rest) :
    ∃ used, used ≠ [] ∧ tokens = used ++ rest ∧ Derives (.operand value) (bare used) := by
  obtain ⟨position, token, tail, rfl, start⟩ := starts_of_reads_operand read
  cases token with
  | number amount =>
    obtain ⟨rfl, rfl⟩ := reads_operand_number.1 read
    exact ⟨[⟨position, .number amount⟩], by simp, rfl, .number amount⟩
  | text content =>
    obtain ⟨rfl, rfl⟩ := reads_operand_text.1 read
    exact ⟨[⟨position, .text content⟩], by simp, rfl, .text content⟩
  | leftParen =>
    obtain ⟨closing, inner⟩ := reads_operand_group.1 read
    obtain ⟨front, _, rfl, spelled⟩ := spelled_expression inner
    refine ⟨⟨position, .leftParen⟩ :: front ++ [⟨closing, .rightParen⟩], by simp, by simp, ?_⟩
    simpa using Derives.group spelled
  | name letters =>
    obtain ⟨function, opening, behind, given, named, rfl, inner, takes⟩ := reads_operand_call.1 read
    obtain ⟨front, closing, rfl, spelled⟩ := spelled_arguments? inner
    refine ⟨⟨position, .name letters⟩ :: ⟨opening, .leftParen⟩ :: front ++ [⟨closing, .rightParen⟩],
      by simp, by simp, ?_⟩
    simpa using Derives.call named spelled takes
  | rightParen | comma | operator _ => exact start.elim
termination_by (tokens.length, 0)

theorem spelled_arguments? {tokens rest : List Placed} {given : List Expr}
    (read : Reads (arguments? size tokens) given rest) :
    ∃ used position, tokens = used ++ ⟨position, .rightParen⟩ :: rest ∧
      Derives (.arguments given) (bare used) := by
  by_cases closed : ∃ position tail, tokens = ⟨position, .rightParen⟩ :: tail
  · obtain ⟨position, tail, rfl⟩ := closed
    obtain ⟨rfl, rfl⟩ := reads_arguments?_none.1 read
    exact ⟨[], position, rfl, .noArguments⟩
  · rw [reads_arguments?_some (by simpa using closed)] at read
    obtain ⟨used, position, split, _, spelled⟩ := spelled_arguments read
    exact ⟨used, position, split, spelled⟩
termination_by (tokens.length, 7)

theorem spelled_arguments {tokens rest : List Placed} {given : List Expr}
    (read : Reads (arguments size tokens) given rest) :
    ∃ used position, tokens = used ++ ⟨position, .rightParen⟩ :: rest ∧ given ≠ [] ∧
      Derives (.arguments given) (bare used) := by
  obtain ⟨first, middle, one, last | more⟩ := reads_arguments.1 read
  · obtain ⟨position, rfl, rfl⟩ := last
    obtain ⟨front, _, rfl, spelled⟩ := spelled_expression one
    exact ⟨front, position, rfl, by simp, .lastArgument spelled⟩
  · obtain ⟨position, behind, others, rfl, later, rfl⟩ := more
    have shorter : behind.length + 1 < tokens.length := one.within
    obtain ⟨front, _, rfl, spelled⟩ := spelled_expression one
    obtain ⟨back, closing, rfl, filled, follow⟩ := spelled_arguments later
    obtain ⟨next, others, rfl⟩ := List.exists_cons_of_ne_nil filled
    refine ⟨front ++ ⟨position, .comma⟩ :: back, closing, by simp, by simp, ?_⟩
    simpa using Derives.argument spelled follow
termination_by (tokens.length, 6)

end

def Phrase.IsReadFrom (size : Nat) (tokens rest : List Placed) : Phrase → Prop
  | sum expr => Reads (expression size tokens) expr rest
  | product expr => Reads (term size tokens) expr rest
  | signed expr => Reads (Formula.signed size tokens) expr rest
  | operand expr => Reads (Formula.operand size tokens) expr rest
  | arguments given => Reads (arguments? size tokens) given rest

/-- A phrase takes at least one token, and takes its tokens from the front. -/
theorem advances_of_isReadFrom {phrase : Phrase} {tokens rest : List Placed}
    (read : phrase.IsReadFrom size tokens rest) : ∃ used, used ≠ [] ∧ tokens = used ++ rest := by
  cases phrase with
  | sum expr =>
    obtain ⟨used, filled, split, _⟩ := spelled_expression read
    exact ⟨used, filled, split⟩
  | product expr =>
    obtain ⟨used, filled, split, _⟩ := spelled_term read
    exact ⟨used, filled, split⟩
  | signed expr =>
    obtain ⟨used, filled, split, _⟩ := spelled_signed read
    exact ⟨used, filled, split⟩
  | operand expr =>
    obtain ⟨used, filled, split, _⟩ := spelled_operand read
    exact ⟨used, filled, split⟩
  | arguments given =>
    obtain ⟨used, position, rfl, _⟩ := spelled_arguments? read
    exact ⟨used ++ [⟨position, .rightParen⟩], by simp, by simp⟩

/-! What tokens spell is read from them, whatever stands behind, unless it goes on with the phrase. -/

theorem not_multiplicative {operator : Operator} (ranked : operator ∈ additive) :
    operator ∉ multiplicative := by
  revert operator
  decide

theorem not_leadsWith {operators : List Operator} {position : Nat} {operator : Operator}
    {tail : List Placed} (free : operator ∉ operators) :
    ¬ LeadsWith operators (⟨position, .operator operator⟩ :: tail) := by
  rintro ⟨_, other, among, _, same⟩
  cases same
  exact free among

theorem not_leadsWith_mark {operators : List Operator} {position : Nat} {token : Token}
    {tail : List Placed} (mark : ∀ operator, token ≠ .operator operator) :
    ¬ LeadsWith operators (⟨position, token⟩ :: tail) := by
  rintro ⟨_, operator, _, _, same⟩
  cases same
  exact mark operator rfl

theorem Token.IsStart.not_operator {token : Token} (start : token.IsStart) (operator : Operator) :
    token ≠ .operator operator := by
  rintro rfl
  exact start

theorem reads_sums_stop {left : Expr} {rest : List Placed} (ends : ¬ LeadsWith additive rest) :
    Reads (sums size left rest) left rest :=
  (reads_sums_of_not ends).2 ⟨rfl, rfl⟩

theorem reads_products_stop {left : Expr} {rest : List Placed} (ends : ¬ LeadsWith multiplicative rest) :
    Reads (products size left rest) left rest :=
  (reads_products_of_not ends).2 ⟨rfl, rfl⟩

/-- The readers read a phrase from its tokens. A sum or a product grows at its end, but is read from its
front: it is the beginning of what is read, with whatever goes on with it behind. -/
def Phrase.IsRead (size : Nat) (run : List Placed) : Phrase → Prop
  | sum expr => ∀ rest value left, ¬ LeadsWith multiplicative rest →
    Reads (sums size expr rest) value left → Reads (expression size (run ++ rest)) value left
  | product expr => ∀ rest value left,
    Reads (products size expr rest) value left → Reads (term size (run ++ rest)) value left
  | signed expr => ∀ rest, Reads (Formula.signed size (run ++ rest)) expr rest
  | operand expr => ∀ rest, Reads (Formula.operand size (run ++ rest)) expr rest
  | arguments given => ∀ rest position,
    Reads (arguments? size (run ++ ⟨position, .rightParen⟩ :: rest)) given rest

theorem Phrase.IsRead.whole {run tail : List Placed} {expr : Expr} {position : Nat} {token : Token}
    (read : (Phrase.sum expr).IsRead size run) (mark : ∀ operator, token ≠ .operator operator) :
    Reads (expression size (run ++ ⟨position, token⟩ :: tail)) expr (⟨position, token⟩ :: tail) :=
  read _ _ _ (not_leadsWith_mark mark) (reads_sums_stop (not_leadsWith_mark mark))

theorem isRead_of_derives {phrase : Phrase} {tokens : List Token} (derived : Derives phrase tokens) :
    ∀ run, bare run = tokens → phrase.IsRead size run := by
  induction derived with
  | ofProduct _ ih =>
    intro run same rest value left ends later
    have read := ih run same rest _ _ (reads_products_stop ends)
    exact reads_expression.2 ⟨_, rest, read, later⟩
  | sum _ ranked _ sum product =>
    intro run same rest value left ends later
    obtain ⟨front, back, rfl, begins, goes⟩ := List.map_eq_append_iff.1 same
    obtain ⟨⟨position, _⟩, tail, rfl, rfl, follows⟩ := List.map_eq_cons_iff.1 goes
    have last := product tail follows rest _ _ (reads_products_stop ends)
    have grown : Reads (sums size _ (⟨position, _⟩ :: tail ++ rest)) value left :=
      (reads_sums_of_leads ranked).2 ⟨_, rest, last, later⟩
    rw [List.append_assoc]
    exact sum front begins _ _ _ (not_leadsWith (not_multiplicative ranked)) grown
  | ofSigned _ ih =>
    intro run same rest value left later
    exact reads_term.2 ⟨_, rest, ih run same rest, later⟩
  | product _ ranked _ product signed =>
    intro run same rest value left later
    obtain ⟨front, back, rfl, begins, goes⟩ := List.map_eq_append_iff.1 same
    obtain ⟨⟨position, _⟩, tail, rfl, rfl, follows⟩ := List.map_eq_cons_iff.1 goes
    have last := signed tail follows rest
    have grown : Reads (products size _ (⟨position, _⟩ :: tail ++ rest)) value left :=
      (reads_products_of_leads ranked).2 ⟨_, rest, last, later⟩
    rw [List.append_assoc]
    exact product front begins _ _ _ grown
  | ofOperand _ ih =>
    intro run same rest
    have read := ih run same rest
    -- An operand does not start with the sign that would make it a negation.
    obtain ⟨_, _, _, front, start⟩ := starts_of_reads_operand read
    rw [front] at read ⊢
    rw [signed_of_not (not_leadsWith_mark start.not_operator)]
    exact read
  | neg _ ih =>
    intro run same rest
    obtain ⟨⟨position, _⟩, tail, rfl, rfl, follows⟩ := List.map_eq_cons_iff.1 same
    exact reads_signed_of_leads.2 ⟨_, ih tail follows rest, rfl⟩
  | number amount =>
    intro run same rest
    obtain ⟨⟨position, _⟩, rfl, rfl⟩ := List.map_eq_singleton_iff.1 same
    exact reads_operand_number.2 ⟨rfl, rfl⟩
  | text content =>
    intro run same rest
    obtain ⟨⟨position, _⟩, rfl, rfl⟩ := List.map_eq_singleton_iff.1 same
    exact reads_operand_text.2 ⟨rfl, rfl⟩
  | group _ ih =>
    intro run same rest
    obtain ⟨⟨position, _⟩, tail, rfl, rfl, goes⟩ := List.map_eq_cons_iff.1 same
    obtain ⟨middle, last, rfl, within, close⟩ := List.map_eq_append_iff.1 goes
    obtain ⟨⟨closing, _⟩, rfl, rfl⟩ := List.map_eq_singleton_iff.1 close
    rw [List.cons_append, List.append_assoc]
    exact reads_operand_group.2 ⟨closing, (ih middle within).whole (by simp)⟩
  | call named _ takes ih =>
    intro run same rest
    obtain ⟨⟨position, _⟩, tail, rfl, rfl, goes⟩ := List.map_eq_cons_iff.1 same
    obtain ⟨⟨opening, _⟩, behind, rfl, rfl, follows⟩ := List.map_eq_cons_iff.1 goes
    obtain ⟨middle, last, rfl, within, close⟩ := List.map_eq_append_iff.1 follows
    obtain ⟨⟨closing, _⟩, rfl, rfl⟩ := List.map_eq_singleton_iff.1 close
    have read := ih middle within rest closing
    rw [List.cons_append, List.cons_append, List.append_assoc]
    exact reads_operand_call.2 ⟨_, opening, _, _, named, rfl, read, takes⟩
  | noArguments =>
    intro run same rest position
    rw [List.map_eq_nil_iff.1 same]
    exact reads_arguments?_none.2 ⟨rfl, rfl⟩
  | lastArgument _ ih =>
    intro run same rest position
    exact reads_arguments?_of_arguments
      (reads_arguments.2 ⟨_, _, (ih run same).whole (by simp), .inl ⟨position, rfl, rfl⟩⟩)
  | argument _ _ first others =>
    intro run same rest position
    obtain ⟨front, back, rfl, begins, goes⟩ := List.map_eq_append_iff.1 same
    obtain ⟨⟨comma, _⟩, tail, rfl, rfl, follows⟩ := List.map_eq_cons_iff.1 goes
    have later := reads_arguments_of_cons (others tail follows rest position)
    rw [List.append_assoc]
    exact reads_arguments?_of_arguments (reads_arguments.2
      ⟨_, _, (first front begins).whole (by simp), .inr ⟨comma, _, _, rfl, later, rfl⟩⟩)

/-- All the tokens are read as an expression if and only if they spell it. -/
theorem ofTokens_eq_ok {tokens : List Placed} {expr : Expr} :
    Expr.ofTokens size tokens = .ok expr ↔ Derives (.sum expr) (bare tokens) := by
  have whole : Expr.ofTokens size tokens = .ok expr ↔ Reads (expression size tokens) expr [] := by
    simp only [Expr.ofTokens, bind_eq_ok, Prod.exists, Subtype.exists]
    constructor
    · rintro ⟨value, rest, within, read, done⟩
      cases rest with
      | nil =>
        cases done
        exact ⟨within, read⟩
      | cons => cases done
    · rintro ⟨within, read⟩
      exact ⟨expr, [], within, read, rfl⟩
  rw [whole]
  constructor
  · intro read
    obtain ⟨used, _, rfl, derived⟩ := spelled_expression read
    rw [List.append_nil]
    exact derived
  · intro derived
    have ends (operators : List Operator) : ¬ LeadsWith operators [] := by simp [LeadsWith]
    have read : Reads (expression size (tokens ++ [])) expr [] :=
      isRead_of_derives derived tokens rfl [] expr [] (ends _) (reads_sums_stop (ends _))
    rwa [List.append_nil] at read

theorem parse_of_derives {source : String} {tokens : List Placed} {expr : Expr}
    (cut : Formula.tokens source = .ok tokens) (spelled : Derives (.sum expr) (bare tokens)) :
    parse source = .ok expr :=
  bind_eq_ok.2 ⟨tokens, cut, ofTokens_eq_ok.2 spelled⟩

end

end Tabula.Formula
