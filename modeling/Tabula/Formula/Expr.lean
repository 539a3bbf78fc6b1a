import Tabula.Decimal.Basic
import Tabula.Formula.Error

/-! Formula expressions and what they refer to. -/
namespace Tabula.Formula

inductive TextFunction
  | upper
  | lower
  | toText
  deriving DecidableEq, Repr

inductive Expr
  | number (amount : Decimal)
  | text (content : String)
  | neg (operand : Expr)
  | binary (operator : Operator) (left right : Expr)
  | rowId
  | field (name : String)
  | concat (parts : List Expr)
  | convert (function : TextFunction) (operand : Expr)
  deriving Repr

instance : Inhabited Expr := ⟨.rowId⟩

mutual

/-- Reads the row's identifier, which exists only once the row is inserted. -/
def Expr.readsRowId : Expr → Bool
  | .number _ | .text _ | .field _ => false
  | .rowId => true
  | .neg operand | .convert _ operand => operand.readsRowId
  | .binary _ left right => left.readsRowId || right.readsRowId
  | .concat parts => anyReadsRowId parts

def anyReadsRowId : List Expr → Bool
  | [] => false
  | part :: parts => part.readsRowId || anyReadsRowId parts

end

mutual

def Expr.fieldNames : Expr → List String
  | .number _ | .text _ | .rowId => []
  | .field name => [name]
  | .neg operand | .convert _ operand => operand.fieldNames
  | .binary _ left right => left.fieldNames ++ right.fieldNames
  | .concat parts => allFieldNames parts

def allFieldNames : List Expr → List String
  | [] => []
  | part :: parts => part.fieldNames ++ allFieldNames parts

end

end Tabula.Formula
