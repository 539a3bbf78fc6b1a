import Mathlib.Data.List.Basic
import Tabula.Formula.Parser

/-!
The grammar of formulas: which tokens spell which expression, whatever way they are read in. A sum is a
run of products and a product a run of signed operands, both taken from the left.
-/
namespace Tabula.Formula

def additive : List Operator := [.add, .sub]

def multiplicative : List Operator := [.mul, .div]

/-- Letters name a function in any case of ASCII. -/
def Function.IsNamed (function : Function) (letters : String) : Prop :=
  letters.toList.map Char.toLower = function.name.toList

instance (function : Function) (letters : String) : Decidable (function.IsNamed letters) :=
  inferInstanceAs (Decidable (_ = _))

inductive Function.Takes : Function → List Expr → Expr → Prop
  | rowId : Takes .rowId [] .rowId
  | field (name : String) : Takes .field [.text name] (.field name)
  | concat (part : Expr) (parts : List Expr) : Takes .concat (part :: parts) (.concat (part :: parts))
  | convert (function : TextFunction) (operand : Expr) :
    Takes (.text function) [operand] (.convert function operand)

/-- What a run of tokens can be: a sum, a product, a signed or a plain operand with the expression that it
comes to, or arguments with theirs. -/
inductive Phrase
  | sum (expr : Expr)
  | product (expr : Expr)
  | signed (expr : Expr)
  | operand (expr : Expr)
  | arguments (given : List Expr)

/-- Which tokens spell which phrase. Sums and products grow at their end: operators of one rank associate
to the left. -/
inductive Derives : Phrase → List Token → Prop
  | ofProduct {expr : Expr} {tokens : List Token} (only : Derives (.product expr) tokens) :
    Derives (.sum expr) tokens
  | sum {left right : Expr} {operator : Operator} {front back : List Token}
    (before : Derives (.sum left) front) (ranked : operator ∈ additive)
    (last : Derives (.product right) back) :
    Derives (.sum (.binary operator left right)) (front ++ .operator operator :: back)
  | ofSigned {expr : Expr} {tokens : List Token} (only : Derives (.signed expr) tokens) :
    Derives (.product expr) tokens
  | product {left right : Expr} {operator : Operator} {front back : List Token}
    (before : Derives (.product left) front) (ranked : operator ∈ multiplicative)
    (last : Derives (.signed right) back) :
    Derives (.product (.binary operator left right)) (front ++ .operator operator :: back)
  | ofOperand {expr : Expr} {tokens : List Token} (only : Derives (.operand expr) tokens) :
    Derives (.signed expr) tokens
  | neg {expr : Expr} {tokens : List Token} (inner : Derives (.signed expr) tokens) :
    Derives (.signed (.neg expr)) (.operator .sub :: tokens)
  | number (amount : Decimal) : Derives (.operand (.number amount)) [.number amount]
  | text (content : String) : Derives (.operand (.text content)) [.text content]
  | group {expr : Expr} {tokens : List Token} (inner : Derives (.sum expr) tokens) :
    Derives (.operand expr) (.leftParen :: tokens ++ [.rightParen])
  | call {function : Function} {letters : String} {given : List Expr} {expr : Expr}
    {tokens : List Token} (named : function.IsNamed letters) (inner : Derives (.arguments given) tokens)
    (takes : function.Takes given expr) :
    Derives (.operand expr) (.name letters :: .leftParen :: tokens ++ [.rightParen])
  | noArguments : Derives (.arguments []) []
  | lastArgument {argument : Expr} {tokens : List Token} (only : Derives (.sum argument) tokens) :
    Derives (.arguments [argument]) tokens
  | argument {argument next : Expr} {others : List Expr} {tokens behind : List Token}
    (first : Derives (.sum argument) tokens) (later : Derives (.arguments (next :: others)) behind) :
    Derives (.arguments (argument :: next :: others)) (tokens ++ .comma :: behind)

/-- A text literal, perhaps in parentheses. -/
inductive IsLiteral (content : String) : List Token → Prop
  | bare : IsLiteral content [.text content]
  | group {tokens : List Token} (inner : IsLiteral content tokens) :
    IsLiteral content (.leftParen :: tokens ++ [.rightParen])

namespace Function

theorem name_inj {left right : Function} (same : left.name = right.name) : left = right := by
  revert same
  rcases left with _ | _ | _ | (_ | _ | _) <;> rcases right with _ | _ | _ | (_ | _ | _) <;> decide

theorem mem_all (function : Function) : function ∈ all := by
  rcases function with _ | _ | _ | (_ | _ | _) <;> decide

theorem ofName?_eq_some {letters : String} {function : Function} :
    ofName? letters = some function ↔ function.IsNamed letters := by
  have spelled {other : Function}
      (named : other.name = String.ofList (letters.toList.map Char.toLower)) : other.IsNamed letters := by
    rw [IsNamed, named, String.toList_ofList]
  unfold ofName?
  constructor
  · intro found
    exact spelled (by simpa using List.find?_some found)
  · intro named
    have own : function.name = String.ofList (letters.toList.map Char.toLower) := by
      rw [named, String.ofList_toList]
    cases found : all.find? (·.name = String.ofList (letters.toList.map Char.toLower)) with
    | none => simpa [own] using List.find?_eq_none.1 found function function.mem_all
    | some other =>
      have same : other.name = function.name := by simpa [own] using List.find?_some found
      rw [name_inj same]

theorem apply_eq_ok {function : Function} {arguments : List Expr} {expr : Expr} :
    function.apply arguments = .ok expr ↔ function.Takes arguments expr := by
  constructor
  · intro done
    unfold apply at done
    split at done
    all_goals cases done
    · exact .rowId
    · exact .field _
    · exact .concat _ _
    · exact .convert _ _
  · intro takes
    cases takes <;> rfl

end Function

def Phrase.expr? : Phrase → Option Expr
  | sum expr | product expr | signed expr | operand expr => some expr
  | arguments _ => none

theorem isLiteral_of_derives {phrase : Phrase} {tokens : List Token} {content : String}
    (derived : Derives phrase tokens) (text : phrase.expr? = some (.text content)) :
    IsLiteral content tokens := by
  induction derived with
  | ofProduct _ ih | ofSigned _ ih | ofOperand _ ih => exact ih text
  | text =>
    cases text
    exact .bare
  | group _ ih => exact .group (ih text)
  | call _ _ takes =>
    cases text
    cases takes
  | sum | product | neg | number | noArguments | lastArgument | argument => cases text

/-- A sum that comes to a text is nothing but a literal. -/
theorem derives_text_iff {tokens : List Token} {content : String} :
    Derives (.sum (.text content)) tokens ↔ IsLiteral content tokens := by
  constructor
  · intro derived
    exact isLiteral_of_derives derived rfl
  · intro literal
    induction literal with
    | bare => exact .ofProduct (.ofSigned (.ofOperand (.text content)))
    | group _ ih => exact .ofProduct (.ofSigned (.ofOperand (.group ih)))

theorem derives_call {function : Function} {letters : String} {given : List Expr} {expr : Expr}
    {tokens : List Token} (named : function.IsNamed letters) (inner : Derives (.arguments given) tokens)
    (takes : function.Takes given expr) :
    Derives (.sum expr) (.name letters :: .leftParen :: tokens ++ [.rightParen]) :=
  .ofProduct (.ofSigned (.ofOperand (.call named inner takes)))

theorem derives_field {letters name : String} {tokens : List Token}
    (named : Function.field.IsNamed letters) (literal : IsLiteral name tokens) :
    Derives (.sum (.field name)) (.name letters :: .leftParen :: tokens ++ [.rightParen]) :=
  derives_call named (.lastArgument (derives_text_iff.2 literal)) (.field name)

end Tabula.Formula
