import Tabula.Filter.Test
import Tabula.Schema.System

/-! Restrictions of rows. -/
namespace Tabula

inductive ColumnKey
  | field (id : FieldId)
  | system (column : SystemColumn)
  deriving DecidableEq, Repr

inductive Predicate
  | everything
  | nothing
  | allOf (parts : List Predicate)
  | anyOf (parts : List Predicate)
  | not (part : Predicate)
  | test (column : ColumnKey) (test : CellTest)
  | rowIs (id : RowId)
  deriving Repr

namespace Predicate

instance : Inhabited Predicate := ⟨.everything⟩

def isEverything : Predicate → Bool
  | everything => true
  | _ => false

def both : Predicate → Predicate → Predicate
  | everything, other | other, everything => other
  | nothing, _ | _, nothing => nothing
  | allOf left, allOf right => allOf (left ++ right)
  | allOf left, other => allOf (left ++ [other])
  | left, right => allOf [left, right]

def all : List Predicate → Predicate
  | [] => everything
  | [part] => part
  | parts => allOf parts

def any : List Predicate → Predicate
  | [] => nothing
  | [part] => part
  | parts => anyOf parts

end Predicate
end Tabula
