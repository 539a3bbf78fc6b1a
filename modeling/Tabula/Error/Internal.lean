import Tabula.Catalog.Basic
import Tabula.Config.Basic
import Tabula.Formula.Error
import Tabula.Query.Error
import Tabula.Query.Response
import Tabula.Row.Error

/-! Errors of all parts in one form: how severe, from where, and in which words. -/
namespace Tabula

inductive ErrorClass
  | notFound
  | unsupported
  | invalidArgument
  | conflict
  | internal
  deriving DecidableEq, Repr

inductive ErrorOrigin
  | schema
  | query
  | row
  | store
  | response
  | formula
  | config
  deriving DecidableEq, Repr

structure InternalError where
  category : ErrorClass
  origin : ErrorOrigin
  message : String
  deriving DecidableEq, Repr

namespace ErrorClass

def all : List ErrorClass := [notFound, unsupported, invalidArgument, conflict, internal]

def name : ErrorClass → String
  | notFound => "NotFound"
  | unsupported => "Unsupported"
  | invalidArgument => "InvalidArgument"
  | conflict => "Conflict"
  | internal => "Internal"

def label : ErrorClass → String
  | notFound => "not_found"
  | unsupported => "unsupported"
  | invalidArgument => "invalid_argument"
  | conflict => "conflict"
  | internal => "internal"

def ofJson? (json : Json) : Option ErrorClass :=
  json.unit?.bind fun written => all.find? (·.name = written)

end ErrorClass

namespace ErrorOrigin

def all : List ErrorOrigin := [schema, query, row, store, response, formula, config]

def name : ErrorOrigin → String
  | schema => "Schema"
  | query => "Query"
  | row => "Row"
  | store => "Store"
  | response => "Response"
  | formula => "Formula"
  | config => "Config"

def label : ErrorOrigin → String
  | schema => "schema"
  | query => "query"
  | row => "row"
  | store => "store"
  | response => "response"
  | formula => "formula"
  | config => "config"

def ofJson? (json : Json) : Option ErrorOrigin :=
  json.unit?.bind fun written => all.find? (·.name = written)

end ErrorOrigin

namespace QueryError

def category : QueryError → ErrorClass
  | orderByFieldNotFound _ | filterFieldNotFound _ => .notFound
  | orderByFieldNotPossible .. | filterTypeDoesNotExist _ | filterTypeNotAllowed .. => .unsupported
  | invalidArgument _ => .invalidArgument

def internal (error : QueryError) : InternalError := ⟨error.category, .query, error.message⟩

end QueryError

namespace RowError

def category : RowError → ErrorClass
  | rowDoesNotExist .. | unknownField _ => .notFound
  | invalidValue .. | readOnlyField _ => .invalidArgument
  | tableMismatch .. => .conflict
  | storeClosed => .internal

def origin : RowError → ErrorOrigin
  | storeClosed => .store
  | _ => .row

def internal (error : RowError) : InternalError := ⟨error.category, error.origin, error.message⟩

end RowError

namespace CatalogError

def category : CatalogError → ErrorClass
  | duplicateFieldName .. => .conflict
  | notASelectField _ => .unsupported
  | workspaceNotFound _ | databaseNotFound _ | tableNotFound _ | fieldNotFound _ => .notFound

def internal (error : CatalogError) : InternalError := ⟨error.category, .schema, error.message⟩

end CatalogError

namespace ResponseError

def category : ResponseError → ErrorClass
  | notFound _ => .notFound
  | notUnique .. => .conflict

def internal (error : ResponseError) : InternalError := ⟨error.category, .response, error.message⟩

end ResponseError

def Formula.Error.internal (error : Formula.Error) : InternalError :=
  ⟨.invalidArgument, .formula, error.message⟩

def ConfigError.internal (error : ConfigError) : InternalError :=
  ⟨.invalidArgument, .config, error.message?.getD ""⟩

namespace InternalError

def isNotFound (error : InternalError) : Bool := error.category = .notFound

def text (error : InternalError) : String :=
  error.origin.label ++ ":" ++ error.category.label ++ ": " ++ error.message

def json (error : InternalError) : Json :=
  .object [("class", .text error.category.name), ("origin", .text error.origin.name),
    ("message", .text error.message)]

def ofJson? (json : Json) : Option InternalError := do
  let entries ← json.parts? ["class", "origin", "message"]
  let category ← Json.required entries "class" ErrorClass.ofJson?
  let origin ← Json.required entries "origin" ErrorOrigin.ofJson?
  let message ← Json.required entries "message" Json.text?
  return { category, origin, message }

end InternalError
end Tabula
