import Tabula.Calendar.Text
import Tabula.Decimal.Text
import Tabula.Fault
import Tabula.Field.Kind
import Tabula.Value

/-! The text by which a cell is searched and shown. -/
namespace Tabula
open Calendar Text

def dateChars (style : DateStyle) (date : Civil) : List Char :=
  let day := twoDigits date.day
  let month := twoDigits date.month
  match style with
  | .eu => day ++ '/' :: month ++ '/' :: longYear date.year
  | .us => month ++ '/' :: day ++ '/' :: longYear date.year
  | .iso => isoChars date

def clockChars (style : ClockStyle) (second : Nat) : List Char :=
  match style with
  | .hours24 => minuteChars second
  | .hours12 => halfDayChars second

def dateText (format : DateFormat) (value : Value) : Option String :=
  match value with
  | .day date => some (String.ofList (dateChars format.style date.civil))
  | .instant time =>
    let date := dateChars format.style time.civil
    some (String.ofList
      (if format.includeTime then date ++ ' ' :: clockChars format.clock (secondOfDay time) else date))
  | _ => none

def joined (words : List String) : Option String :=
  if words.isEmpty then none else some (" ".intercalate words)

def CellType.searchText (type : CellType) (value : Value) : Option String :=
  match type with
  | .text _ | .longText | .phoneNumber | .ai _ => value.asText
  | .number format => value.asNumber.map (·.fixedText format.places.toNat)
  | .boolean | .linkRow _ => none
  | .date format => dateText format value
  | .file =>
    match value with
    | .files attachments => joined (attachments.map (·.visibleName))
    | _ => none
  | .singleSelect _ =>
    match value with
    | .option chosen => (type.choice? chosen).map (·.value)
    | _ => none
  | .multipleSelect _ =>
    match value with
    | .options chosen => joined (chosen.filterMap fun id => (type.choice? id).map (·.value))
    | _ => none

/-- The fault of writing the text of a cell: a number with very many places can have a text that has no
room, and an instant is written with its day in UTC. -/
def CellType.textFault? (type : CellType) (value : Value) : Option Fault :=
  match type, value with
  | .number format, .number amount =>
    if amount.fitsText format.places.toNat then none else some .textExceeded
  | .date _, .instant time => time.utcFault?
  | _, _ => none

def CellType.isSearchable : CellType → Bool
  | .boolean | .linkRow _ => false
  | _ => true

def Field.searchText (field : Field) (value : Value) : Option String := field.type.searchText value

def Field.textFault? (field : Field) (value : Value) : Option Fault := field.type.textFault? value

def Field.checkedText (field : Field) (value : Value) : Except Fault (Option String) :=
  unlessFault (field.textFault? value) (field.searchText value)

def Field.isSearchable (field : Field) : Bool := field.type.isSearchable

end Tabula
