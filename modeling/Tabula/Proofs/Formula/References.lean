import Tabula.Proofs.Formula.Parser
import Tabula.Proofs.Formula.Reads

/-!
What a formula reports to read: the names that its text gives to `field`, in their order, and whether it
asks for its row. There is nothing else that its value depends on.
-/
namespace Tabula.Formula

/-- The names that a run of tokens gives to `field`, in their order; `awaited` says that the next text is
one of them. -/
def namesGiven (awaited : Bool) : List Token → List String
  | [] => []
  | .text content :: rest => (if awaited then [content] else []) ++ namesGiven false rest
  | .name letters :: rest => namesGiven (Function.ofName? letters = some .field) rest
  | _ :: rest => namesGiven awaited rest

theorem namesGiven_operator (awaited : Bool) (operator : Operator) (rest : List Token) :
    namesGiven awaited (.operator operator :: rest) = namesGiven awaited rest := rfl

theorem namesGiven_comma (awaited : Bool) (rest : List Token) :
    namesGiven awaited (.comma :: rest) = namesGiven awaited rest := rfl

def Token.asksForRow : Token → Bool
  | .name letters => Function.ofName? letters = some .rowId
  | _ => false

def Phrase.fieldNames : Phrase → List String
  | sum expr | product expr | signed expr | operand expr => expr.fieldNames
  | arguments given => allFieldNames given

def Phrase.readsRowId : Phrase → Bool
  | sum expr | product expr | signed expr | operand expr => expr.readsRowId
  | arguments given => anyReadsRowId given

/-- The literal behind `field` is the name, however many parentheses stand around it. -/
theorem namesGiven_of_isLiteral {content : String} {tokens : List Token}
    (literal : IsLiteral content tokens) (rest : List Token) :
    namesGiven true (tokens ++ rest) = content :: namesGiven false rest := by
  induction literal generalizing rest with
  | bare => rfl
  | group _ ih =>
    rw [List.append_assoc]
    exact ih _

/-- Every name that a phrase gives to `field` is in its expression, and none is awaited at its end. -/
theorem namesGiven_of_derives {phrase : Phrase} {tokens : List Token} (derived : Derives phrase tokens)
    (rest : List Token) :
    namesGiven false (tokens ++ rest) = phrase.fieldNames ++ namesGiven false rest := by
  induction derived generalizing rest with
  | ofProduct _ ih | ofSigned _ ih | ofOperand _ ih | neg _ ih => exact ih rest
  | sum _ _ _ before last | product _ _ _ before last =>
    rw [List.append_assoc, before, List.cons_append, namesGiven_operator, last]
    exact (List.append_assoc ..).symm
  | number | text | noArguments => rfl
  | group _ ih =>
    rw [List.append_assoc]
    exact ih _
  | @call function letters given expr tokens named inner takes ih =>
    have found := Function.ofName?_eq_some.2 named
    change namesGiven (Function.ofName? letters = some .field) (tokens ++ [.rightParen] ++ rest) = _
    rw [found, List.append_assoc]
    cases takes with
    | field name =>
      cases inner with
      | lastArgument only => exact namesGiven_of_isLiteral (derives_text_iff.1 only) _
    | rowId => exact ih _
    | concat part parts => exact ih _
    | convert function operand =>
      have one : (Phrase.arguments [operand]).fieldNames = operand.fieldNames := List.append_nil _
      rw [one] at ih
      exact ih _
  | lastArgument _ ih =>
    rw [ih]
    exact congrArg (· ++ _) (List.append_nil _).symm
  | argument _ _ first others =>
    rw [List.append_assoc, first, List.cons_append, namesGiven_comma, others]
    exact (List.append_assoc ..).symm

theorem any_asksForRow_of_derives {phrase : Phrase} {tokens : List Token}
    (derived : Derives phrase tokens) : tokens.any Token.asksForRow = phrase.readsRowId := by
  induction derived with
  | ofProduct _ ih | ofSigned _ ih | ofOperand _ ih | neg _ ih => exact ih
  | sum _ _ _ before last | product _ _ _ before last =>
    rw [List.any_append, before]
    exact congrArg (_ || ·) last
  | number | text | noArguments => rfl
  | group _ ih =>
    rw [List.any_append, List.any_cons, ih]
    exact Bool.or_false _
  | @call function letters given expr tokens named inner takes ih =>
    have found := Function.ofName?_eq_some.2 named
    rw [List.any_append, List.any_cons, List.any_cons, ih, Token.asksForRow, found]
    cases takes with
    | rowId => rfl
    | field name => rfl
    | concat part parts => exact Bool.or_false _
    | convert function operand =>
      simp [Token.asksForRow, Phrase.readsRowId, anyReadsRowId, Expr.readsRowId]
  | lastArgument _ ih =>
    rw [ih]
    exact (Bool.or_false _).symm
  | argument _ _ first others =>
    rw [List.any_append, first]
    exact congrArg (_ || ·) others

/-- A formula that can be read reports the names that its text gives to `field`, in their order, and whether
its text asks for the row. Over two rows that answer alike for these it comes to the same value, the same
error or the same fault, whatever it is declared to compute. -/
theorem evaluate_of_reported {source : String} {expr : Expr} (parsed : parse source = .ok expr) :
    (∃ placed, tokens source = .ok placed ∧ expr.fieldNames = namesGiven false (bare placed) ∧
      expr.readsRowId = (bare placed).any Token.asksForRow) ∧
    ∀ left right : Scope, (∀ name ∈ expr.fieldNames, left.field? name = right.field? name) →
      (expr.readsRowId = true → left.rowId = right.rowId) →
      ∀ result, expr.evaluate left result = expr.evaluate right result := by
  constructor
  · obtain ⟨placed, cut, read⟩ := bind_eq_ok.1 parsed
    have derived := ofTokens_eq_ok.1 read
    have names := namesGiven_of_derives derived []
    rw [List.append_nil] at names
    refine ⟨placed, cut, ?_, (any_asksForRow_of_derives derived).symm⟩
    rw [names]
    exact (List.append_nil _).symm
  · intro left right fields rows result
    exact evaluate_congr expr result rows fields

def labelExpr : Expr := .concat [.convert .upper (.field "A"), .rowId]

theorem parse_label : parse "concat(upper(Field('A')), row_id())" = .ok labelExpr := by
  have cut : tokens "concat(upper(Field('A')), row_id())" = .ok [⟨0, .name "concat"⟩, ⟨6, .leftParen⟩,
      ⟨7, .name "upper"⟩, ⟨12, .leftParen⟩, ⟨13, .name "Field"⟩, ⟨18, .leftParen⟩, ⟨19, .text "A"⟩,
      ⟨22, .rightParen⟩, ⟨23, .rightParen⟩, ⟨24, .comma⟩, ⟨26, .name "row_id"⟩, ⟨32, .leftParen⟩,
      ⟨33, .rightParen⟩, ⟨34, .rightParen⟩] := by decide +kernel
  have upper : Derives (.sum (.convert .upper (.field "A"))) [.name "upper", .leftParen, .name "Field",
      .leftParen, .text "A", .rightParen, .rightParen] :=
    derives_call (by decide) (.lastArgument (derives_field (by decide) .bare)) (.convert .upper _)
  have row : Derives (.sum .rowId) [.name "row_id", .leftParen, .rightParen] :=
    derives_call (by decide) .noArguments .rowId
  exact parse_of_derives cut (derives_call (by decide) (.argument upper (.lastArgument row)) (.concat _ _))

def labelScope (extra : Option Value) : Scope where
  rowId := ⟨7⟩
  field? name := if name = "A" then some (.text "x") else if name = "B" then extra else none

theorem evaluate_of_label : (labelScope none).field? "B" ≠ (labelScope (some .null)).field? "B" ∧
    labelExpr.evaluate (labelScope none) .text = .ok (.text "X7") ∧
    labelExpr.evaluate (labelScope (some .null)) .text = .ok (.text "X7") := by
  have value : labelExpr.evaluate (labelScope none) .text = .ok (.text "X7") := by decide +kernel
  have same := (evaluate_of_reported parse_label).2 (labelScope none) (labelScope (some .null))
    (by simp [labelExpr, Expr.fieldNames, allFieldNames, labelScope]) (fun _ => rfl) .text
  exact ⟨by simp [labelScope], value, same ▸ value⟩

end Tabula.Formula
