/-! What can be wrong with a formula, in its text or in a row that it reads. -/
namespace Tabula.Formula

inductive Operator
  | add
  | sub
  | mul
  | div
  deriving DecidableEq, Repr

def Operator.symbol : Operator → Char
  | add => '+'
  | sub => '-'
  | mul => '*'
  | div => '/'

/-- Positions count the bytes before the place of the error. -/
inductive Error
  | unexpectedChar (position : Nat) (found : Char)
  | unexpectedToken (position : Nat) (found : String)
  | unexpectedEnd (position : Nat)
  | unterminatedText (position : Nat)
  | invalidNumber (digits : String)
  | unknownFunction (position : Nat) (name : String)
  | arity (function : String) (found : Nat)
  | fieldNameNotLiteral
  | unknownField (name : String)
  | typeMismatch (operator : Operator) (found : String)
  | divisionByZero
  | overflow (operator : Operator)
  | conversion (found target : String)
  deriving DecidableEq, Repr

namespace Error

def message : Error → String
  | unexpectedChar position found => s!"unexpected character '{found}' at position {position}"
  | unexpectedToken position found => s!"unexpected '{found}' at position {position}"
  | unexpectedEnd position => s!"unexpected end of formula at position {position}"
  | unterminatedText position => s!"unterminated text literal starting at position {position}"
  | invalidNumber digits => s!"invalid number literal '{digits}'"
  | unknownFunction position name => s!"unknown function '{name}' at position {position}"
  | arity function found => s!"function '{function}' does not accept {found} argument(s)"
  | fieldNameNotLiteral => "field() expects a quoted field name"
  | unknownField name => s!"field '{name}' does not exist"
  | typeMismatch operator found => s!"operator '{operator.symbol}' cannot be applied to {found}"
  | divisionByZero => "division by zero"
  | overflow operator => s!"numeric overflow in '{operator.symbol}'"
  | conversion found target => s!"cannot convert {found} to {target}"

def position? : Error → Option Nat
  | unexpectedChar position _ | unexpectedToken position _ | unexpectedEnd position
  | unterminatedText position | unknownFunction position _ => some position
  | _ => none

end Error
end Tabula.Formula
