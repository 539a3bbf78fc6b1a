/-! The operators that a filter key may name. -/
namespace Tabula

inductive FilterOp
  | equal
  | notEqual
  | contains
  | containsNot
  | lengthIsLowerThan
  | higherThan
  | lowerThan
  | empty
  | notEmpty
  | boolean
  | dateEqual
  | dateNotEqual
  | dateBefore
  | dateAfter
  | filenameContains
  | singleSelectEqual
  | singleSelectNotEqual
  | multipleSelectHas
  | multipleSelectHasNot
  deriving DecidableEq, Repr

namespace FilterOp

def all : List FilterOp :=
  [equal, notEqual, contains, containsNot, lengthIsLowerThan, higherThan, lowerThan, empty, notEmpty,
    boolean, dateEqual, dateNotEqual, dateBefore, dateAfter, filenameContains, singleSelectEqual,
    singleSelectNotEqual, multipleSelectHas, multipleSelectHasNot]

def text : FilterOp → String
  | equal => "equal"
  | notEqual => "not_equal"
  | contains => "contains"
  | containsNot => "contains_not"
  | lengthIsLowerThan => "length_is_lower_than"
  | higherThan => "higher_than"
  | lowerThan => "lower_than"
  | empty => "empty"
  | notEmpty => "not_empty"
  | boolean => "boolean"
  | dateEqual => "date_equal"
  | dateNotEqual => "date_not_equal"
  | dateBefore => "date_before"
  | dateAfter => "date_after"
  | filenameContains => "filename_contains"
  | singleSelectEqual => "single_select_equal"
  | singleSelectNotEqual => "single_select_not_equal"
  | multipleSelectHas => "multiple_select_has"
  | multipleSelectHasNot => "multiple_select_has_not"

def ofText? (text : String) : Option FilterOp := all.find? (·.text = text)

def isUnary : FilterOp → Bool
  | empty | notEmpty => true
  | _ => false

def unknownMessage (text : String) : String := "filter type '" ++ text ++ "' does not exist"

end FilterOp
end Tabula
