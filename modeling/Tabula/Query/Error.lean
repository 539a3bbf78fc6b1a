import Tabula.Json

/-! What can be wrong with the filters and orderings of a query. -/
namespace Tabula

inductive QueryError
  | orderByFieldNotFound (name : String)
  | orderByFieldNotPossible (name fieldType : String)
  | filterFieldNotFound (field : String)
  | filterTypeDoesNotExist (op : String)
  | filterTypeNotAllowed (op field fieldType : String)
  | invalidArgument (message : String)
  deriving DecidableEq, Repr

inductive QueryErrorGroup
  | fieldResolution
  | fieldCapability
  | operatorUnknown
  | invalidArgument
  deriving DecidableEq, Repr

namespace QueryError

def message : QueryError → String
  | orderByFieldNotFound name => s!"order by field '{name}' does not exist"
  | orderByFieldNotPossible name fieldType => s!"cannot order by field '{name}' of type {fieldType}"
  | filterFieldNotFound field => s!"filter field '{field}' does not exist"
  | filterTypeDoesNotExist op => s!"filter type '{op}' does not exist"
  | filterTypeNotAllowed op field fieldType =>
    s!"filter type '{op}' is not allowed for field '{field}' of type {fieldType}"
  | invalidArgument message => message

def group : QueryError → QueryErrorGroup
  | orderByFieldNotFound _ | filterFieldNotFound _ => .fieldResolution
  | orderByFieldNotPossible .. | filterTypeNotAllowed .. => .fieldCapability
  | filterTypeDoesNotExist _ => .operatorUnknown
  | invalidArgument _ => .invalidArgument

def name : QueryError → String
  | orderByFieldNotFound _ => "OrderByFieldNotFound"
  | orderByFieldNotPossible .. => "OrderByFieldNotPossible"
  | filterFieldNotFound _ => "FilterFieldNotFound"
  | filterTypeDoesNotExist _ => "ViewFilterTypeDoesNotExist"
  | filterTypeNotAllowed .. => "ViewFilterTypeNotAllowedForField"
  | invalidArgument _ => "InvalidArgument"

/-- An object with one entry, whose key is the name of the error. -/
def ofJson? (json : Json) : Option QueryError := do
  let (written, contents) ← json.variant?
  let contents ← contents
  if written = "InvalidArgument" then return invalidArgument (← contents.text?)
  let entries ← contents.entries?
  let text (key : String) : Option String := Json.required entries key Json.text?
  match written with
  | "OrderByFieldNotFound" => return orderByFieldNotFound (← text "name")
  | "OrderByFieldNotPossible" =>
    return orderByFieldNotPossible (← text "name") (← text "field_type")
  | "FilterFieldNotFound" => return filterFieldNotFound (← text "field")
  | "ViewFilterTypeDoesNotExist" => return filterTypeDoesNotExist (← text "op")
  | "ViewFilterTypeNotAllowedForField" =>
    return filterTypeNotAllowed (← text "op") (← text "field") (← text "field_type")
  | _ => none

end QueryError

def QueryErrorGroup.name : QueryErrorGroup → String
  | fieldResolution => "FieldResolution"
  | fieldCapability => "FieldCapability"
  | operatorUnknown => "OperatorUnknown"
  | invalidArgument => "InvalidArgument"

end Tabula
