import Tabula.Id

/-! What a field holds: stored cells of some type, or cells computed by a formula. -/
namespace Tabula

structure NumberFormat where
  places : UInt32 := 0
  negative : Bool := false
  deriving DecidableEq, Repr

inductive DateStyle
  | eu
  | us
  | iso
  deriving DecidableEq, Repr

inductive ClockStyle
  | hours24
  | hours12
  deriving DecidableEq, Repr

structure DateFormat where
  style : DateStyle := .eu
  includeTime : Bool := false
  clock : ClockStyle := .hours24
  deriving DecidableEq, Repr

/-- A choice of a select field; its position among the choices is its rank in orderings. -/
structure SelectOption where
  id : OptionId
  value : String
  color : String
  deriving DecidableEq, Repr

inductive CellType
  | text (initial : Option String)
  | longText
  | number (format : NumberFormat)
  | boolean
  | date (format : DateFormat)
  | file
  | singleSelect (choices : List SelectOption)
  | multipleSelect (choices : List SelectOption)
  | linkRow (target : TableId)
  | phoneNumber
  | ai (prompt : String)
  deriving DecidableEq, Repr

inductive ResultType
  | text
  | number (format : NumberFormat)
  | boolean
  | date (format : DateFormat)
  deriving DecidableEq, Repr

inductive FieldKind
  | stored (type : CellType)
  | computed (formula : String) (result : ResultType)
  deriving DecidableEq, Repr

inductive FieldTag
  | text
  | longText
  | number
  | boolean
  | date
  | file
  | singleSelect
  | multipleSelect
  | linkRow
  | formula
  | phoneNumber
  | ai
  deriving DecidableEq, Repr

structure Field where
  id : FieldId
  table : TableId
  name : String
  order : UInt32
  primary : Bool
  kind : FieldKind
  deriving DecidableEq, Repr

namespace FieldTag

def all : List FieldTag :=
  [text, longText, number, boolean, date, file, singleSelect, multipleSelect, linkRow, formula,
    phoneNumber, ai]

def name : FieldTag → String
  | text => "text"
  | longText => "long_text"
  | number => "number"
  | boolean => "boolean"
  | date => "date"
  | file => "file"
  | singleSelect => "single_select"
  | multipleSelect => "multiple_select"
  | linkRow => "link_row"
  | formula => "formula"
  | phoneNumber => "phone_number"
  | ai => "ai"

def ofName? (text : String) : Option FieldTag := all.find? (·.name = text)

def unknownMessage (text : String) : String := "unknown field type '" ++ text ++ "'"

/-- Cells of such a field are computed and never written. -/
def isReadOnly : FieldTag → Bool
  | formula => true
  | _ => false

theorem ofName?_name (tag : FieldTag) : ofName? tag.name = some tag := by
  cases tag <;> decide

end FieldTag

def CellType.tag : CellType → FieldTag
  | .text _ => .text
  | .longText => .longText
  | .number _ => .number
  | .boolean => .boolean
  | .date _ => .date
  | .file => .file
  | .singleSelect _ => .singleSelect
  | .multipleSelect _ => .multipleSelect
  | .linkRow _ => .linkRow
  | .phoneNumber => .phoneNumber
  | .ai _ => .ai

def CellType.choices : CellType → List SelectOption
  | .singleSelect choices | .multipleSelect choices => choices
  | _ => []

/-- The type of the cells that a formula fills; a computed number may be negative. -/
def ResultType.cellType : ResultType → CellType
  | .text => .text none
  | .number format => .number { format with negative := true }
  | .boolean => .boolean
  | .date format => .date format

namespace FieldKind

def tag : FieldKind → FieldTag
  | .stored type => type.tag
  | .computed .. => .formula

def cellType : FieldKind → CellType
  | .stored type => type
  | .computed _ result => result.cellType

def isComputed : FieldKind → Bool
  | .stored _ => false
  | .computed .. => true

def withChoice? (kind : FieldKind) (choice : SelectOption) : Option FieldKind :=
  match kind with
  | .stored (.singleSelect choices) => some (.stored (.singleSelect (choices ++ [choice])))
  | .stored (.multipleSelect choices) => some (.stored (.multipleSelect (choices ++ [choice])))
  | _ => none

end FieldKind

namespace CellType

def choice? (type : CellType) (id : OptionId) : Option SelectOption :=
  type.choices.find? (·.id = id)

/-- Positions are numbers of 32 bits; a choice behind that many has none. -/
def choicePosition? (type : CellType) (id : OptionId) : Option Nat :=
  (type.choices.findIdx? (·.id = id)).filter (· < UInt32.size)

end CellType

namespace Field

def tag (field : Field) : FieldTag := field.kind.tag

def type (field : Field) : CellType := field.kind.cellType

def stableName (field : Field) : String := field.id.stableName

def formula? (field : Field) : Option (String × ResultType) :=
  match field.kind with
  | .stored _ => none
  | .computed source result => some (source, result)

end Field
end Tabula
