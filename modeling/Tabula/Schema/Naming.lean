import Tabula.Field.Kind
import Tabula.IdMap
import Tabula.Text.CaseMap
import Tabula.Text.Numeral
import Tabula.Text.Numeric

/-! Attribute names of fields, derived from their user-facing names. -/
namespace Tabula
open Text

/-- Lowercases words and joins them by underscores. `started` says that a word was written,
`separated` that something else came after it. -/
def joinWords (started separated : Bool) : List Char → List Char
  | [] => []
  | c :: rest =>
    if isAlphanumeric c then
      (if started && separated then ['_'] else []) ++ lowerChar c ++ joinWords true false rest
    else joinWords started true rest

def stableMark : List Char := "field_".toList

def sanitizeChars (name : List Char) : List Char :=
  match joinWords false false name with
  | c :: rest => if isDigit c then stableMark ++ c :: rest else c :: rest
  | [] => []

def sanitize (name : String) : String := String.ofList (sanitizeChars name.toList)

def afterStart? (start text : List Char) : Option (List Char) :=
  if start.isPrefixOf text then some (text.drop start.length) else none

/-- Has the form of the name that a field keeps through every rename. -/
def hasStableShape (name : String) : Bool :=
  match afterStart? stableMark name.toList with
  | some number => !number.isEmpty && number.all isDigit
  | none => false

/-- The sanitized name of a field, unless it is empty, reserved or shaped like a stable name. -/
def candidate? (reserved : String → Bool) (field : Field) : Option String :=
  let name := sanitize field.name
  if name.isEmpty || reserved name || hasStableShape name then none else some name

def qualifiedName (name : String) (field : Field) : String := name ++ "_" ++ field.stableName

/-- Names the fields one by one; `taken` holds the names that are given away. -/
def assignNames (reserved unique : String → Bool) (taken : List String) :
    List Field → List (FieldId × String)
  | [] => []
  | field :: fields =>
    match candidate? reserved field with
    | none => (field.id, field.stableName) :: assignNames reserved unique taken fields
    | some name =>
      if unique name then (field.id, name) :: assignNames reserved unique taken fields
      else
        let long := qualifiedName name field
        if long ∈ taken then (field.id, field.stableName) :: assignNames reserved unique taken fields
        else (field.id, long) :: assignNames reserved unique (long :: taken) fields

/-- An attribute name for each field. A candidate that one field alone has is its name; fields that
share one have their identifiers added; the stable name is what is left. -/
def attributeNames (reserved : String → Bool) (fields : List Field) : IdMap .field String :=
  let candidates := fields.filterMap (candidate? reserved)
  let unique (name : String) : Bool := candidates.count name == 1
  IdMap.insertAll {} (assignNames reserved unique (candidates.filter unique) fields)

end Tabula
