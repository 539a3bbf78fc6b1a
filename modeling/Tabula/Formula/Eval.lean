import Tabula.Calendar.Reader
import Tabula.Calendar.Text
import Tabula.Cell.Flag
import Tabula.Cell.Normal
import Tabula.Decimal.Arithmetic
import Tabula.Field.Kind
import Tabula.Formula.Parser
import Tabula.Value

/-! Values of formulas. -/
namespace Tabula.Formula
open Calendar

structure Scope where
  rowId : RowId
  field? : String → Option Value

def minuteText (time : Instant) : List Char :=
  plainChars time.civil ++ ' ' :: minuteChars (secondOfDay time)

def refuse {α : Type} (value : Value) (target : String) : Except (Failure Error) α :=
  .error (.error (.conversion value.label target))

/-- The text of a single value; lists and choices have none. -/
def renderText (value : Value) : Except (Failure Error) String :=
  match value with
  | .null => .ok ""
  | .text content => .ok content
  | .number amount => .ok amount.normalize.text
  | .bool flag => .ok (flagText flag)
  | .day date => .ok (String.ofList (plainChars date.civil))
  | .instant time => orFail (unlessFault time.utcFault? (String.ofList (minuteText time)))
  | _ => refuse value "text"

def negate : Value → Except Error Value
  | .null => .ok .null
  | .number amount => .ok (.number amount.neg)
  | other => .error (.typeMismatch .sub other.label)

def orOverflow (operator : Operator) : Option Decimal → Except Error Value
  | some result => .ok (.number result)
  | none => .error (.overflow operator)

def calculate (operator : Operator) (left right : Decimal) : Except Error Value :=
  match operator with
  | .add => orOverflow .add (left.add? right)
  | .sub => orOverflow .sub (left.sub? right)
  | .mul => orOverflow .mul (left.mul? right)
  | .div => if right.isZero then .error .divisionByZero else orOverflow .div (left.div? right)

/-- A null operand makes the result null; of two operands that are no numbers the left is named. -/
def combine (operator : Operator) (left right : Value) : Except Error Value :=
  match left, right with
  | .null, _ | _, .null => .ok .null
  | .number left, .number right => calculate operator left right
  | .number _, other | other, _ => .error (.typeMismatch operator other.label)

def TextFunction.apply : TextFunction → String → String
  | upper, content => Text.upper content
  | lower, content => Text.lower content
  | toText, content => content

def convertValue (function : TextFunction) (value : Value) : Except (Failure Error) Value :=
  if value.isNull then .ok .null
  else (renderText value).map fun content => .text (function.apply content)

mutual

def Expr.eval (scope : Scope) : Expr → Except (Failure Error) Value
  | .number amount => .ok (.number amount)
  | .text content => .ok (.text content)
  | .neg operand => do (negate (← operand.eval scope)).mapError Failure.error
  | .binary operator left right => do
    let left ← left.eval scope
    let right ← right.eval scope
    (combine operator left right).mapError Failure.error
  | .rowId => .ok (.number (.ofWord scope.rowId.val))
  | .field name =>
    match scope.field? name with
    | some value => .ok value
    | none => .error (.error (.unknownField name))
  | .concat parts => do return .text (← concatText scope parts)
  | .convert function operand => do convertValue function (← operand.eval scope)

def concatText (scope : Scope) : List Expr → Except (Failure Error) String
  | [] => .ok ""
  | part :: parts => do
    let first ← renderText (← part.eval scope)
    let others ← concatText scope parts
    return first ++ others

end

def toNumber (format : NumberFormat) (value : Value) : Except (Failure Error) Value :=
  let rounded (number : Decimal) : Value := .number (number.round format.places.toNat)
  match value with
  | .number amount => .ok (rounded amount)
  | .text content =>
    match readNumber content with
    | some number => .ok (rounded number)
    | none => refuse value "number"
  | _ => refuse value "number"

def toBoolean (value : Value) : Except (Failure Error) Value :=
  match value with
  | .bool _ => .ok value
  | .number amount => .ok (.bool !amount.isZero)
  | .text content =>
    match readFlag content with
    | some flag => .ok (.bool flag)
    | none => refuse value "boolean"
  | _ => refuse value "boolean"

def toDate (value : Value) : Except (Failure Error) Value :=
  match value with
  | .day _ | .instant _ => .ok value
  | .text content =>
    match readMoment content with
    | .ok (some (.wholeDay date)) => .ok (.day date)
    | .ok (some (.point time)) => .ok (.instant time)
    | .ok none => refuse value "date"
    | .error fault => .error (.fault fault)
  | _ => refuse value "date"

/-- Brings a value into the declared result type; null fits every type. -/
def coerce (value : Value) (result : ResultType) : Except (Failure Error) Value :=
  if value.isNull then .ok .null
  else
    match result with
    | .text => (renderText value).map .text
    | .number format => toNumber format value
    | .boolean => toBoolean value
    | .date _ => toDate value

def Expr.evaluate (expr : Expr) (scope : Scope) (result : ResultType) :
    Except (Failure Error) Value := do
  coerce (← expr.eval scope) result

end Tabula.Formula
