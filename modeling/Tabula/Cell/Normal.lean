import Tabula.Calendar.Reader
import Tabula.Cell.Flag
import Tabula.Cell.Spec
import Tabula.Decimal.Text

/-! The canonical form in which a cell is stored, and the values that have none. -/
namespace Tabula
open Text

inductive CellError
  | unexpected (expected : String) (found : Value)
  | tooLong (room : Nat)
  | notPhoneNumber (text : String)
  | notNumber (text : String)
  | negativeNumber (number : Decimal)
  | notBoolean (text : String)
  | notDate (text : String)
  | unnamedFile (visibleName : String)
  | foreignChoice (choice : OptionId) (field : String)
  deriving DecidableEq, Repr

def CellError.message : CellError → String
  | unexpected expected found => s!"expected {expected}, got {found.label}"
  | tooLong room => s!"text is longer than {room} characters"
  | notPhoneNumber text => s!"'{text}' is not a valid phone number"
  | notNumber text => s!"'{text}' is not a number"
  | negativeNumber number => s!"negative numbers are not allowed, got {number.text}"
  | notBoolean text => s!"'{text}' is not a boolean"
  | notDate text => s!"'{text}' is not a date"
  | unnamedFile visibleName => s!"file '{visibleName}' has no stored name"
  | foreignChoice choice field => s!"option {choice.text} does not belong to field '{field}'"

abbrev Normal := Except (Failure CellError) Value

def refuse (error : CellError) : Normal := .error (.error error)

/-- Numbers read from text may stand between blanks. -/
def readNumber (text : String) : Option Decimal := Decimal.ofText? (trim text)

def isPhoneChar (c : Char) : Bool := isDigit c || " +-().,#*/:xX".toList.contains c

def normalizeText (value : Value) : Normal :=
  match value with
  | .null | .text _ => .ok value
  | _ => refuse (.unexpected "text" value)

def normalizePhoneNumber (value : Value) : Normal :=
  match value with
  | .text content =>
    if phoneNumberRoom < content.length then refuse (.tooLong phoneNumberRoom)
    else if content.toList.all isPhoneChar then .ok value
    else refuse (.notPhoneNumber content)
  | _ => normalizeText value

def acceptNumber (format : NumberFormat) (number : Decimal) : Normal :=
  if number.negative && !number.isZero && !format.negative then refuse (.negativeNumber number)
  else .ok (.number (number.round format.places.toNat))

def normalizeNumber (format : NumberFormat) (value : Value) : Normal :=
  match value with
  | .null => .ok .null
  | .number amount => acceptNumber format amount
  | .text content =>
    match readNumber content with
    | some number => acceptNumber format number
    | none => refuse (.notNumber content)
  | _ => refuse (.unexpected "number" value)

/-- A boolean cell is never null. -/
def normalizeBoolean (value : Value) : Normal :=
  match value with
  | .null => .ok (.bool false)
  | .bool _ => .ok value
  | .text content =>
    match readFlag content with
    | some flag => .ok (.bool flag)
    | none => refuse (.notBoolean content)
  | _ => refuse (.unexpected "bool" value)

def Moment.toCell (moment : Moment) (includeTime : Bool) : Except Fault Value :=
  match moment with
  | wholeDay date => .ok (if includeTime then .instant (.ofMidnight date) else .day date)
  | point time =>
    match time.toUtc? with
    | some utc => .ok (if includeTime then .instant utc else .day utc.localDay)
    | none => .error .calendarExceeded

def normalizeDate (format : DateFormat) (value : Value) : Normal :=
  match value with
  | .null => .ok .null
  | .day date => orFail ((Moment.wholeDay date).toCell format.includeTime)
  | .instant time => orFail ((Moment.point time).toCell format.includeTime)
  | .text content =>
    match Calendar.readMoment content with
    | .ok (some moment) => orFail (moment.toCell format.includeTime)
    | .ok none => refuse (.notDate content)
    | .error fault => .error (.fault fault)
  | _ => refuse (.unexpected "date" value)

def normalizeFiles (value : Value) : Normal :=
  match value with
  | .null => .ok (.files [])
  | .files attachments =>
    match attachments.find? (·.name.isEmpty) with
    | some file => refuse (.unnamedFile file.visibleName)
    | none => .ok value
  | _ => refuse (.unexpected "files" value)

def checkChoice (type : CellType) (field : String) (id : OptionId) : Except (Failure CellError) OptionId :=
  if (type.choice? id).isSome then .ok id else .error (.error (.foreignChoice id field))

def firstOccurrences {α : Type} [DecidableEq α] (items : List α) : List α :=
  items.foldl (fun seen item => if item ∈ seen then seen else seen ++ [item]) []

def normalizeChoice (type : CellType) (field : String) (value : Value) : Normal :=
  match value with
  | .null => .ok .null
  | .option chosen => (checkChoice type field chosen).map .option
  | _ => refuse (.unexpected "select option" value)

def normalizeChoices (type : CellType) (field : String) (value : Value) : Normal :=
  let check (chosen : List OptionId) : Normal := do
    return .options (firstOccurrences (← chosen.mapM (checkChoice type field)))
  match value with
  | .null => check []
  | .option chosen => check [chosen]
  | .options chosen => check chosen
  | _ => refuse (.unexpected "select options" value)

def normalizeLinks (value : Value) : Normal :=
  match value with
  | .null => .ok (.links [])
  | .links rows => .ok (.links (firstOccurrences rows))
  | _ => refuse (.unexpected "row links" value)

/-- The form in which a cell of this type stores the value; `field` is the name used in errors. -/
def CellType.normalize (type : CellType) (field : String) (value : Value) : Normal :=
  match type with
  | .text _ | .longText | .ai _ => normalizeText value
  | .phoneNumber => normalizePhoneNumber value
  | .number format => normalizeNumber format value
  | .boolean => normalizeBoolean value
  | .date format => normalizeDate format value
  | .file => normalizeFiles value
  | .singleSelect _ => normalizeChoice type field value
  | .multipleSelect _ => normalizeChoices type field value
  | .linkRow _ => normalizeLinks value

def Field.normalize (field : Field) (value : Value) : Normal := field.type.normalize field.name value

end Tabula
