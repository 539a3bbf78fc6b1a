import Tabula.Error.Internal

/-! Errors as callers see them, each with a code that never changes. -/
namespace Tabula

inductive QueryErrorKind
  | orderByFieldNotFound
  | orderByFieldNotPossible
  | filterFieldNotFound
  | filterTypeDoesNotExist
  | filterTypeUnsupportedField
  | invalidArgument
  | notUnique
  deriving DecidableEq, Repr

inductive RowErrorKind
  | notFound
  | invalidValue
  | conflict
  deriving DecidableEq, Repr

/-- Nothing that a caller can do helps against an internal error. -/
inductive ErrorKind
  | query (kind : QueryErrorKind)
  | row (kind : RowErrorKind)
  | internal
  deriving DecidableEq, Repr

structure PublicError where
  kind : ErrorKind
  origin : ErrorOrigin
  message : String
  deriving DecidableEq, Repr

namespace QueryErrorKind

def all : List QueryErrorKind :=
  [orderByFieldNotFound, orderByFieldNotPossible, filterFieldNotFound, filterTypeDoesNotExist,
    filterTypeUnsupportedField, invalidArgument, notUnique]

def name : QueryErrorKind → String
  | orderByFieldNotFound => "OrderByFieldNotFound"
  | orderByFieldNotPossible => "OrderByFieldNotPossible"
  | filterFieldNotFound => "FilterFieldNotFound"
  | filterTypeDoesNotExist => "FilterTypeDoesNotExist"
  | filterTypeUnsupportedField => "FilterTypeUnsupportedField"
  | invalidArgument => "InvalidArgument"
  | notUnique => "NotUnique"

def code : QueryErrorKind → String
  | orderByFieldNotFound => "ERROR_ORDER_BY_FIELD_NOT_FOUND"
  | orderByFieldNotPossible => "ERROR_ORDER_BY_FIELD_NOT_POSSIBLE"
  | filterFieldNotFound => "ERROR_FILTER_FIELD_NOT_FOUND"
  | filterTypeDoesNotExist => "ERROR_VIEW_FILTER_TYPE_DOES_NOT_EXIST"
  | filterTypeUnsupportedField => "ERROR_VIEW_FILTER_TYPE_UNSUPPORTED_FIELD"
  | invalidArgument | notUnique => "ERROR_INVALID_ARGUMENT"

def ofJson? (json : Json) : Option QueryErrorKind :=
  json.unit?.bind fun written => all.find? (·.name = written)

end QueryErrorKind

namespace RowErrorKind

def all : List RowErrorKind := [notFound, invalidValue, conflict]

def name : RowErrorKind → String
  | notFound => "NotFound"
  | invalidValue => "InvalidValue"
  | conflict => "Conflict"

def code : RowErrorKind → String
  | notFound => "ERROR_ROW_DOES_NOT_EXIST"
  | invalidValue => "ERROR_INVALID_ROW_VALUE"
  | conflict => "ERROR_INVALID_ARGUMENT"

def ofJson? (json : Json) : Option RowErrorKind :=
  json.unit?.bind fun written => all.find? (·.name = written)

end RowErrorKind

namespace ErrorKind

def code : ErrorKind → String
  | query kind => kind.code
  | row kind => kind.code
  | internal => "ERROR_INTERNAL"

def json : ErrorKind → Json
  | query kind => .object [("Query", .text kind.name)]
  | row kind => .object [("Row", .text kind.name)]
  | internal => .text "Internal"

def ofJson? (json : Json) : Option ErrorKind := do
  match ← json.variant? with
  | ("Query", some contents) => (QueryErrorKind.ofJson? contents).map query
  | ("Row", some contents) => (RowErrorKind.ofJson? contents).map row
  | ("Internal", none) | ("Internal", some .null) => some internal
  | _ => none

end ErrorKind

def QueryError.kind : QueryError → QueryErrorKind
  | orderByFieldNotFound _ => .orderByFieldNotFound
  | orderByFieldNotPossible .. => .orderByFieldNotPossible
  | filterFieldNotFound _ => .filterFieldNotFound
  | filterTypeDoesNotExist _ => .filterTypeDoesNotExist
  | filterTypeNotAllowed .. => .filterTypeUnsupportedField
  | invalidArgument _ => .invalidArgument

def QueryError.toPublic (error : QueryError) : PublicError :=
  ⟨.query error.kind, .query, error.message⟩

def RowError.kind : RowError → ErrorKind
  | rowDoesNotExist .. => .row .notFound
  | unknownField _ | invalidValue .. | readOnlyField _ => .row .invalidValue
  | tableMismatch .. => .row .conflict
  | storeClosed => .internal

def RowError.toPublic (error : RowError) : PublicError := ⟨error.kind, error.origin, error.message⟩

def ResponseError.kind : ResponseError → ErrorKind
  | notFound _ => .row .notFound
  | notUnique .. => .query .notUnique

def ResponseError.toPublic (error : ResponseError) : PublicError :=
  ⟨error.kind, .response, error.message⟩

def InternalError.toPublic (error : InternalError) : PublicError :=
  ⟨.internal, error.origin, error.message⟩

namespace PublicError

def code (error : PublicError) : String := error.kind.code

def json (error : PublicError) : Json :=
  .object [("kind", error.kind.json), ("origin", .text error.origin.name),
    ("message", .text error.message)]

def ofJson? (json : Json) : Option PublicError := do
  let entries ← json.parts? ["kind", "origin", "message"]
  let kind ← Json.required entries "kind" ErrorKind.ofJson?
  let origin ← Json.required entries "origin" ErrorOrigin.ofJson?
  let message ← Json.required entries "message" Json.text?
  return { kind, origin, message }

end PublicError
end Tabula
