import Tabula.Predicate.Basic
import Tabula.Sha256

/-!
Restrictions as bytes, such that equal ones have the same bytes: numbers go by size and instants by
the point in time. Every element starts with a tag, and every text and list with its length.
-/
namespace Tabula
namespace Encoding

abbrev lengthLimit : Nat := UInt32.size - 1

def wordBytes (word : UInt64) : Bytes := bigEndian 8 word.toNat

def idBytes {entity : Entity} (id : Id entity) : Bytes := wordBytes id.val

def lengthBytes (length : Nat) : Bytes := bigEndian 4 (min length lengthLimit)

def textBytes (text : String) : Bytes :=
  let bytes := text.toUTF8.data.toList
  lengthBytes bytes.length ++ bytes

def flagByte (flag : Bool) : UInt8 := if flag then 1 else 0

/-- Scale and sign, then the mantissa, each with the lowest byte first. -/
def decimalBytes (number : Decimal) : Bytes :=
  let number := number.normalize
  [0, 0, UInt8.ofNat number.scale, if number.negative then 0x80 else 0] ++
    (bigEndian 12 number.mantissa).reverse

def listBytes {α : Type} (item : α → Bytes) (items : List α) : Bytes :=
  lengthBytes items.length ++ items.flatMap item

def attachmentBytes (file : Attachment) : Bytes := textBytes file.name ++ textBytes file.visibleName

def valueBytes : Value → Bytes
  | .null => [0x60]
  | .bool flag => [0x61, flagByte flag]
  | .day date => 0x62 :: bigEndianInt 4 date.julian
  | .instant time => 0x63 :: bigEndianInt 16 time.nanos
  | .files attachments => 0x64 :: listBytes attachmentBytes attachments
  | .links rows => 0x65 :: listBytes idBytes rows
  | .number amount => 0x66 :: decimalBytes amount
  | .option chosen => 0x67 :: idBytes chosen
  | .options chosen => 0x68 :: listBytes idBytes chosen
  | .text content => 0x69 :: textBytes content

def momentValue : Moment → Value
  | .wholeDay date => .day date
  | .point time => .instant time

def relationByte : DateRelation → UInt8
  | .equal => 1
  | .notEqual => 2
  | .before => 3
  | .after => 4

def testBytes : CellTest → Bytes
  | .always => [0x41]
  | .never => [0x42]
  | .empty => [0x43]
  | .notEmpty => [0x44]
  | .equals expected => 0x45 :: valueBytes expected
  | .notEquals expected => 0x46 :: valueBytes expected
  | .higherThan bound => 0x47 :: valueBytes (.number bound)
  | .lowerThan bound => 0x48 :: valueBytes (.number bound)
  | .contains needle => 0x49 :: textBytes needle
  | .containsNot needle => 0x4a :: textBytes needle
  | .lengthBelow limit => 0x4b :: wordBytes limit
  | .flag expected => [0x4c, flagByte expected]
  | .date relation target => 0x4d :: relationByte relation :: valueBytes (momentValue target)
  | .hasOption chosen => 0x4e :: idBytes chosen
  | .lacksOption chosen => 0x4f :: idBytes chosen
  | .filenameContains needle => 0x50 :: textBytes needle

def systemByte : SystemColumn → UInt8
  | .id => 1
  | .order => 2
  | .createdOn => 3
  | .updatedOn => 4

def columnBytes : ColumnKey → Bytes
  | .field id => 0x31 :: idBytes id
  | .system column => [0x32, systemByte column]

mutual

def predicateBytes : Predicate → Bytes
  | .everything => [0x21]
  | .nothing => [0x22]
  | .allOf parts => 0x23 :: lengthBytes parts.length ++ partBytes parts
  | .anyOf parts => 0x24 :: lengthBytes parts.length ++ partBytes parts
  | .not part => 0x25 :: predicateBytes part
  | .test column test => 0x26 :: columnBytes column ++ testBytes test
  | .rowIs id => 0x27 :: idBytes id

def partBytes : List Predicate → Bytes
  | [] => []
  | part :: parts => predicateBytes part ++ partBytes parts

end

end Encoding

def Predicate.fingerprint (predicate : Predicate) : String :=
  hexText (Sha256.digest (Encoding.predicateBytes predicate))

end Tabula
