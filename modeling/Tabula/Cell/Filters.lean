import Tabula.Calendar.Reader
import Tabula.Cell.Normal
import Tabula.Field.Kind
import Tabula.Filter.Op
import Tabula.Filter.Test

/-! The filter operators of each cell type and the tests they stand for. -/
namespace Tabula
open Text

def textOps : List FilterOp :=
  [.equal, .notEqual, .contains, .containsNot, .empty, .notEmpty, .lengthIsLowerThan]

def shortTextOps : List FilterOp := [.equal, .notEqual, .contains, .containsNot, .empty, .notEmpty]

def numberOps : List FilterOp :=
  [.equal, .notEqual, .contains, .containsNot, .higherThan, .lowerThan, .empty, .notEmpty]

def dateOps : List FilterOp :=
  [.dateEqual, .dateNotEqual, .dateBefore, .dateAfter, .contains, .containsNot, .empty, .notEmpty]

def fileOps : List FilterOp := [.filenameContains, .empty, .notEmpty]

def singleSelectOps : List FilterOp :=
  [.singleSelectEqual, .singleSelectNotEqual, .contains, .containsNot, .empty, .notEmpty]

def multipleSelectOps : List FilterOp :=
  [.multipleSelectHas, .multipleSelectHasNot, .contains, .containsNot, .empty, .notEmpty]

def CellType.filterOps : CellType → List FilterOp
  | .text _ | .longText => textOps
  | .phoneNumber | .ai _ => shortTextOps
  | .number _ => numberOps
  | .boolean => [.boolean]
  | .date _ => dateOps
  | .file => fileOps
  | .singleSelect _ => singleSelectOps
  | .multipleSelect _ => multipleSelectOps
  | .linkRow _ => []

/-- Emptiness and containment, which most types share; no other operator accepts anything. -/
def commonTest (op : FilterOp) (argument : String) : CellTest :=
  match op with
  | .empty => .empty
  | .notEmpty => .notEmpty
  | .contains => .contains (fold argument)
  | .containsNot => .containsNot (fold argument)
  | _ => .never

/-- The test made from an argument that was read; an unreadable argument accepts nothing. -/
def orNever {α : Type} (test : α → CellTest) (argument : Option α) : CellTest :=
  (argument.map test).getD .never

def textTest (op : FilterOp) (argument : String) : CellTest :=
  match op with
  | .equal => .equals (.text argument)
  | .notEqual => .notEquals (.text argument)
  | .lengthIsLowerThan => orNever .lengthBelow (word64? (trim argument))
  | _ => commonTest op argument

def numberTest (op : FilterOp) (argument : String) : CellTest :=
  match op with
  | .equal => orNever (.equals ∘ .number) (readNumber argument)
  | .notEqual => orNever (.notEquals ∘ .number) (readNumber argument)
  | .higherThan => orNever .higherThan (readNumber argument)
  | .lowerThan => orNever .lowerThan (readNumber argument)
  | _ => commonTest op argument

def booleanTest (op : FilterOp) (argument : String) : CellTest :=
  match op with
  | .boolean => orNever .flag (readFlag argument)
  | _ => .never

def FilterOp.dateRelation? : FilterOp → Option DateRelation
  | .dateEqual => some .equal
  | .dateNotEqual => some .notEqual
  | .dateBefore => some .before
  | .dateAfter => some .after
  | _ => none

def momentTest (relation : DateRelation) (argument : String) : Except Fault CellTest :=
  (Calendar.readMoment argument).map (orNever (.date relation))

def dateTest (op : FilterOp) (argument : String) : Except Fault CellTest :=
  match op.dateRelation? with
  | some relation => momentTest relation argument
  | none => .ok (commonTest op argument)

def fileTest (op : FilterOp) (argument : String) : CellTest :=
  match op with
  | .filenameContains => .filenameContains (fold argument)
  | _ => commonTest op argument

def readOption (argument : String) : Option OptionId := (word64? (trim argument)).map Id.mk

def singleSelectTest (op : FilterOp) (argument : String) : CellTest :=
  match op with
  | .singleSelectEqual => orNever .hasOption (readOption argument)
  | .singleSelectNotEqual => orNever .lacksOption (readOption argument)
  | _ => commonTest op argument

def multipleSelectTest (op : FilterOp) (argument : String) : CellTest :=
  match op with
  | .multipleSelectHas => orNever .hasOption (readOption argument)
  | .multipleSelectHasNot => orNever .lacksOption (readOption argument)
  | _ => commonTest op argument

def CellType.filterTest (type : CellType) (op : FilterOp) (argument : String) :
    Except Fault CellTest :=
  match type with
  | .text _ | .longText | .phoneNumber | .ai _ => .ok (textTest op argument)
  | .number _ => .ok (numberTest op argument)
  | .boolean => .ok (booleanTest op argument)
  | .date _ => dateTest op argument
  | .file => .ok (fileTest op argument)
  | .singleSelect _ => .ok (singleSelectTest op argument)
  | .multipleSelect _ => .ok (multipleSelectTest op argument)
  | .linkRow _ => .ok .never

def Field.filterOps (field : Field) : List FilterOp := field.type.filterOps

def Field.filterTest (field : Field) (op : FilterOp) (argument : String) : Except Fault CellTest :=
  field.type.filterTest op argument

end Tabula
