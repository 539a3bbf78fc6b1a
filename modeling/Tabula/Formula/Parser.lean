import Tabula.Formula.Expr
import Tabula.Formula.Token

/-!
The grammar of formulas, by recursive descent: sums of products of signed operands, where operators
of one rank associate to the left.
-/
namespace Tabula.Formula

inductive Function
  | rowId
  | field
  | concat
  | text (function : TextFunction)
  deriving DecidableEq, Repr

namespace Function

def name : Function → String
  | rowId => "row_id"
  | field => "field"
  | concat => "concat"
  | text .upper => "upper"
  | text .lower => "lower"
  | text .toText => "totext"

def all : List Function := [rowId, field, concat, text .upper, text .lower, text .toText]

/-- Names are written in any case of ASCII letters. -/
def ofName? (letters : String) : Option Function :=
  all.find? (·.name = String.ofList (letters.toList.map Char.toLower))

def apply (function : Function) (arguments : List Expr) : Except Error Expr :=
  match function, arguments with
  | rowId, [] => .ok .rowId
  | field, [.text content] => .ok (.field content)
  | field, [_] => .error .fieldNameNotLiteral
  | concat, part :: parts => .ok (.concat (part :: parts))
  | text function, [operand] => .ok (.convert function operand)
  | function, arguments => .error (.arity function.name arguments.length)

end Function

/-- What is left of `tokens` after at least one of them. -/
abbrev After (tokens : List Placed) := { rest : List Placed // rest.length < tokens.length }

abbrev From (tokens : List Placed) := { rest : List Placed // rest.length ≤ tokens.length }

def stop {α : Type} (size : Nat) : List Placed → Except Error α
  | [] => .error (.unexpectedEnd size)
  | next :: _ => .error (.unexpectedToken next.position next.token.description)

def expect (size : Nat) (token : Token) (tokens : List Placed) : Except Error (After tokens) :=
  match tokens with
  | [] => stop size []
  | next :: rest => if next.token = token then .ok ⟨rest, by simp⟩ else stop size (next :: rest)

mutual

def expression (size : Nat) (tokens : List Placed) : Except Error (Expr × After tokens) := do
  let (left, ⟨rest, shorter⟩) ← term size tokens
  let (sum, ⟨rest, _⟩) ← sums size left rest
  return (sum, ⟨rest, by omega⟩)
termination_by (tokens.length, 5)

def sums (size : Nat) (left : Expr) (tokens : List Placed) : Except Error (Expr × From tokens) :=
  match tokens with
  | ⟨_, .operator .add⟩ :: rest => do
    let (right, ⟨rest, shorter⟩) ← term size rest
    let (sum, ⟨rest, _⟩) ← sums size (.binary .add left right) rest
    return (sum, ⟨rest, by simp only [List.length_cons]; omega⟩)
  | ⟨_, .operator .sub⟩ :: rest => do
    let (right, ⟨rest, shorter⟩) ← term size rest
    let (sum, ⟨rest, _⟩) ← sums size (.binary .sub left right) rest
    return (sum, ⟨rest, by simp only [List.length_cons]; omega⟩)
  | tokens => return (left, ⟨tokens, Nat.le_refl _⟩)
termination_by (tokens.length, 4)

def term (size : Nat) (tokens : List Placed) : Except Error (Expr × After tokens) := do
  let (left, ⟨rest, shorter⟩) ← signed size tokens
  let (product, ⟨rest, _⟩) ← products size left rest
  return (product, ⟨rest, by omega⟩)
termination_by (tokens.length, 3)

def products (size : Nat) (left : Expr) (tokens : List Placed) :
    Except Error (Expr × From tokens) :=
  match tokens with
  | ⟨_, .operator .mul⟩ :: rest => do
    let (right, ⟨rest, shorter⟩) ← signed size rest
    let (product, ⟨rest, _⟩) ← products size (.binary .mul left right) rest
    return (product, ⟨rest, by simp only [List.length_cons]; omega⟩)
  | ⟨_, .operator .div⟩ :: rest => do
    let (right, ⟨rest, shorter⟩) ← signed size rest
    let (product, ⟨rest, _⟩) ← products size (.binary .div left right) rest
    return (product, ⟨rest, by simp only [List.length_cons]; omega⟩)
  | tokens => return (left, ⟨tokens, Nat.le_refl _⟩)
termination_by (tokens.length, 2)

def signed (size : Nat) (tokens : List Placed) : Except Error (Expr × After tokens) :=
  match tokens with
  | ⟨_, .operator .sub⟩ :: rest => do
    let (operand, ⟨rest, shorter⟩) ← signed size rest
    return (.neg operand, ⟨rest, by simp only [List.length_cons]; omega⟩)
  | tokens => operand size tokens
termination_by (tokens.length, 1)

def operand (size : Nat) (tokens : List Placed) : Except Error (Expr × After tokens) :=
  match tokens with
  | ⟨_, .number amount⟩ :: rest => return (.number amount, ⟨rest, by simp⟩)
  | ⟨_, .text content⟩ :: rest => return (.text content, ⟨rest, by simp⟩)
  | ⟨_, .leftParen⟩ :: rest => do
    let (inner, ⟨rest, shorter⟩) ← expression size rest
    let ⟨rest, _⟩ ← expect size .rightParen rest
    return (inner, ⟨rest, by simp only [List.length_cons]; omega⟩)
  | ⟨position, .name letters⟩ :: rest =>
    match Function.ofName? letters with
    | none => .error (.unknownFunction position letters)
    | some function => do
      let ⟨rest, opened⟩ ← expect size .leftParen rest
      let (arguments, ⟨rest, _⟩) ← arguments? size rest
      return (← function.apply arguments, ⟨rest, by simp only [List.length_cons]; omega⟩)
  | tokens => stop size tokens
termination_by (tokens.length, 0)

def arguments? (size : Nat) (tokens : List Placed) : Except Error (List Expr × After tokens) :=
  match tokens with
  | ⟨_, .rightParen⟩ :: rest => return ([], ⟨rest, by simp⟩)
  | tokens => arguments size tokens
termination_by (tokens.length, 7)

def arguments (size : Nat) (tokens : List Placed) : Except Error (List Expr × After tokens) := do
  let (argument, ⟨rest, shorter⟩) ← expression size tokens
  match rest, shorter with
  | ⟨_, .comma⟩ :: rest, shorter => do
    have shorter : rest.length + 1 < tokens.length := shorter
    let (others, ⟨rest, _⟩) ← arguments size rest
    return (argument :: others, ⟨rest, by omega⟩)
  | ⟨_, .rightParen⟩ :: rest, shorter =>
    have shorter : rest.length + 1 < tokens.length := shorter
    return ([argument], ⟨rest, by omega⟩)
  | rest, _ => stop size rest
termination_by (tokens.length, 6)

end

/-- The expression that the tokens of a source of `size` bytes spell. -/
def Expr.ofTokens (size : Nat) (tokens : List Placed) : Except Error Expr := do
  let (whole, ⟨rest, _⟩) ← expression size tokens
  if rest.isEmpty then return whole else stop size rest

def parse (source : String) : Except Error Expr := do
  Expr.ofTokens source.utf8ByteSize (← tokens source)

end Tabula.Formula
