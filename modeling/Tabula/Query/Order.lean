import Tabula.Cell.Order
import Tabula.Query.Error
import Tabula.Row.Basic

/-! Orderings: comma-separated field references with optional signs. -/
namespace Tabula
open Text

structure OrderTerm where
  field : FieldId
  descending : Bool
  deriving DecidableEq, Repr

def pieces (mark : Char) : List Char → List (List Char)
  | [] => [[]]
  | c :: rest =>
    if c = mark then [] :: pieces mark rest
    else
      match pieces mark rest with
      | piece :: others => (c :: piece) :: others
      | [] => [[c]]

def allowedBy (only : Option (List FieldId)) (id : FieldId) : Bool := only.all fun ids => ids.contains id

namespace Schema

variable (schema : Schema)

def splitTerm (term : List Char) : Bool × List Char :=
  match term with
  | '-' :: reference => (true, reference)
  | '+' :: reference => if schema.attributeMode then (false, reference) else (false, term)
  | _ => (false, term)

/-- The column that a reference means: by user-facing or attribute name in the attribute view, by
stable name or bare number otherwise. -/
def referenced? (reference : List Char) : Option Column :=
  let name := String.ofList reference
  if schema.attributeMode then (schema.named? name).or (schema.attribute? name)
  else do
    let number ← digits? ((afterStart? stableMark reference).getD reference)
    if number < UInt64.size then schema.column? ⟨UInt64.ofNat number⟩ else none

def readTerm (only : Option (List FieldId)) (term : List Char) : Except QueryError OrderTerm :=
  let (descending, reference) := schema.splitTerm term
  let name := String.ofList reference
  match schema.referenced? reference with
  | none => .error (.orderByFieldNotFound name)
  | some column =>
    if !(schema.isQueryable column.id && allowedBy only column.id) then
      .error (.orderByFieldNotFound name)
    else if !column.field.isOrderable then
      .error (.orderByFieldNotPossible name column.field.tag.name)
    else .ok ⟨column.id, descending⟩

def readOrder (only : Option (List FieldId)) (order : String) : Except QueryError (List OrderTerm) :=
  if order.isEmpty then .error (.invalidArgument "order string cannot be empty")
  else (pieces ',' order.toList).mapM (schema.readTerm only)

def orderKeys (terms : List OrderTerm) (row : Row) : List SortKey :=
  terms.map fun term =>
    match schema.column? term.field with
    | some column => column.field.orderKey (row.cell column)
    | none => .null

end Schema

def directed (descending : Bool) (order : Ordering) : Ordering :=
  if descending then order.swap else order

def compareKeys : List OrderTerm → List SortKey → List SortKey → Ordering
  | term :: terms, left :: lefts, right :: rights =>
    (directed term.descending (left.compare right)).then (compareKeys terms lefts rights)
  | _, _, _ => .eq

/-- Rows with equal keys stand in their own order. -/
def compareKeyed (terms : List OrderTerm) (left right : List SortKey × Row) : Ordering :=
  (compareKeys terms left.1 right.1).then (left.2.compare right.2)

end Tabula
