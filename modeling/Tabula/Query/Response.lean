import Tabula.Row.Record

/-! Results of queries. -/
namespace Tabula

inductive ResponseError
  | notFound (table : TableId)
  | notUnique (table : TableId) (count : Nat)
  deriving DecidableEq, Repr

def ResponseError.message : ResponseError → String
  | notFound table => s!"expected exactly one row, found 0 (table {table.text})"
  | notUnique table count => s!"expected exactly one row, found {count} (table {table.text})"

structure Response where
  table : TableId
  records : List Record
  deriving Repr

namespace Response

variable (response : Response)

def ids : List RowId := response.records.map Record.id

def displays : Except Fault (List String) := response.records.mapM Record.checkedDisplay

def count : Nat := response.records.length

def json : Json := .list (response.records.map Record.json)

/-- The only record, or none; more than one is an error. -/
def atMostOne : Except ResponseError (Option Record) :=
  match response.records with
  | [] => .ok none
  | [record] => .ok (some record)
  | records => .error (.notUnique response.table records.length)

def exactlyOne : Except ResponseError Record := do
  match ← response.atMostOne with
  | some record => return record
  | none => throw (.notFound response.table)

def atLeastOne : Except ResponseError Unit :=
  if response.records.isEmpty then .error (.notFound response.table) else .ok ()

end Response

structure Page where
  response : Response
  offset : Nat
  limit : Nat
  total : Nat
  deriving Repr

namespace Page

variable (page : Page)

def hasNext : Bool := page.offset + page.response.count < page.total

def hasPrevious : Bool := 0 < page.offset

def json : Json :=
  .object [("count", .natural page.total), ("offset", .natural page.offset),
    ("limit", .natural page.limit), ("has_next", .bool page.hasNext),
    ("results", page.response.json)]

end Page
end Tabula
