import Tabula.Calendar.Instant
import Tabula.Decimal.Basic
import Tabula.Id

/-! Cell values. -/
namespace Tabula

structure Attachment where
  name : String
  visibleName : String
  deriving DecidableEq, Repr

inductive Value
  | null
  | bool (flag : Bool)
  | number (amount : Decimal)
  | text (content : String)
  | day (date : Day)
  | instant (time : Instant)
  | files (attachments : List Attachment)
  | links (rows : List RowId)
  | option (chosen : OptionId)
  | options (chosen : List OptionId)
  deriving DecidableEq, Repr

namespace Value

instance : Inhabited Value := ⟨.null⟩

def label : Value → String
  | .null => "null"
  | .bool _ => "bool"
  | .number _ => "number"
  | .text _ => "text"
  | .day _ => "date"
  | .instant _ => "datetime"
  | .files _ => "files"
  | .links _ => "links"
  | .option _ => "select_option"
  | .options _ => "select_options"

def isNull : Value → Bool
  | .null => true
  | _ => false

def isEmpty : Value → Bool
  | .null => true
  | .text content => content.isEmpty
  | .files attachments => attachments.isEmpty
  | .links rows => rows.isEmpty
  | .options chosen => chosen.isEmpty
  | _ => false

def asText : Value → Option String
  | .text content => some content
  | _ => none

def asNumber : Value → Option Decimal
  | .number amount => some amount
  | _ => none

def asBool : Value → Option Bool
  | .bool flag => some flag
  | _ => none

/-- Equality of values: numbers by size, instants as points in time. -/
def sameAs : Value → Value → Bool
  | .number left, .number right => left.sameAs right
  | .instant left, .instant right => left.sameAs right
  | left, right => left = right

end Value
end Tabula
