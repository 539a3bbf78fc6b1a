import Tabula.Config.Basic
import Tabula.Predicate.Encoding
import Tabula.Predicate.Eval
import Tabula.Query.Filter
import Tabula.Query.Order
import Tabula.Query.Search

/-! Queries over the rows of one schema. -/
namespace Tabula

/-- Restrictions add up; of several orderings the last counts. -/
structure Query where
  schema : Schema
  predicate : Predicate := .everything
  order : Option (List OrderTerm) := none
  only : Option (List FieldId) := none
  deriving Repr

namespace Query

variable (query : Query)

def filter (predicate : Predicate) : Query :=
  { query with predicate := query.predicate.both predicate }

def search (config : Config) (text : String) : Query :=
  query.filter (query.schema.searchPredicate config.matchRowId text)

def onlyFields (ids : List FieldId) : Query := { query with only := some ids }

def filterByObject (filters : FilterObject) (mode : String) : Except (Failure QueryError) Query := do
  return query.filter (← query.schema.filterPredicate query.only filters mode)

def orderBy (order : String) : Except QueryError Query := do
  return { query with order := some (← query.schema.readOrder query.only order) }

def orderBytes : Option (List OrderTerm) → Bytes
  | none => [0x70]
  | some terms =>
    0x71 :: Encoding.listBytes
      (fun term => Encoding.idBytes term.field ++ [Encoding.flagByte term.descending]) terms

def bytes : Bytes :=
  Encoding.idBytes query.schema.table ++ Encoding.predicateBytes query.predicate ++
    orderBytes query.order

def fingerprint : String := hexText (Sha256.digest query.bytes)

def accepts (row : Row) : Bool := query.predicate.accepts query.schema row

/-- The fault that the first of the rows to have one meets. -/
def fault? (rows : List Row) : Option Fault :=
  rows.findSome? (query.predicate.fault? query.schema)

def terms : List OrderTerm := query.order.getD []

def keyed (row : Row) : List SortKey × Row := (query.schema.orderKeys query.terms row, row)

def select (rows : List Row) : List Row :=
  (((rows.filter query.accepts).map query.keyed).mergeSort fun left right =>
    (compareKeyed query.terms left right).isLE).map (·.2)

def count (rows : List Row) : Nat := rows.countP query.accepts

end Query
end Tabula
