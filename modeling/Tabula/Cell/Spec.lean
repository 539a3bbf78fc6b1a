import Tabula.Fault
import Tabula.Field.Kind
import Tabula.Value

/-! The storage shape of a column. -/
namespace Tabula

inductive Physical
  | integer
  | text (maxLength : Option Nat)
  | decimal (precision scale : Nat)
  | bool
  | date
  | timestamp
  | json
  | optionRef
  | optionSet
  | rowLinks (target : TableId)
  deriving DecidableEq, Repr

namespace Physical

def description : Physical → String
  | integer => "integer"
  | text none => "text"
  | text (some length) => s!"text({length})"
  | decimal precision scale => s!"decimal({precision}, {scale})"
  | bool => "bool"
  | date => "date"
  | timestamp => "timestamp"
  | json => "json"
  | optionRef => "option_ref"
  | optionSet => "option_set"
  | rowLinks target => s!"row_links({target.text})"

end Physical

structure ColumnSpec where
  physical : Physical
  initial : Value := .null
  nullable : Bool := true
  deriving DecidableEq, Repr

abbrev phoneNumberRoom : Nat := 100

abbrev wholeDigits : Nat := 50

abbrev precisionLimit : Nat := UInt32.size

def CellType.spec : CellType → ColumnSpec
  | .text initial => { physical := .text none, initial := (initial.map Value.text).getD .null }
  | .longText => { physical := .text none }
  | .number format => { physical := .decimal (wholeDigits + format.places.toNat) format.places.toNat }
  | .boolean => { physical := .bool, initial := .bool false, nullable := false }
  | .date format => { physical := if format.includeTime then .timestamp else .date }
  | .file => { physical := .json, initial := .files [], nullable := false }
  | .singleSelect _ => { physical := .optionRef }
  | .multipleSelect _ => { physical := .optionSet, initial := .options [], nullable := false }
  | .linkRow target => { physical := .rowLinks target, initial := .links [], nullable := false }
  | .phoneNumber => { physical := .text (some phoneNumberRoom) }
  | .ai _ => { physical := .text none }

/-- A computed column has the shape of its result and is null until it is computed. -/
def FieldKind.spec : FieldKind → ColumnSpec
  | .stored type => type.spec
  | .computed _ result => { physical := result.cellType.spec.physical }

def Physical.fault? : Physical → Option Fault
  | decimal precision _ => if precision < precisionLimit then none else some .precisionExceeded
  | _ => none

def FieldKind.specFault? (kind : FieldKind) : Option Fault := kind.spec.physical.fault?

def FieldKind.checkedSpec (kind : FieldKind) : Except Fault ColumnSpec :=
  unlessFault kind.specFault? kind.spec

end Tabula
