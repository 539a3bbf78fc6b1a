import Tabula.Cell.Filters
import Tabula.Json
import Tabula.Predicate.Basic
import Tabula.Query.Error
import Tabula.Query.Order
import Tabula.Schema.Basic

/-!
Filter objects: keys `filter__field_<target>__<operator>` with one argument or several. The
arguments of a key are alternatives; how keys combine is said beside the object.
-/
namespace Tabula
open Text

inductive FilterScalar
  | bool (flag : Bool)
  | int (number : Int)
  | float (value : Float64)
  | text (content : String)
  deriving DecidableEq, Repr

/-- Nulls, objects and nested lists restrict nothing. -/
inductive FilterValue
  | one (scalar : FilterScalar)
  | many (scalars : List FilterScalar)
  | other
  deriving DecidableEq, Repr

/-- Keys with their values, in ascending order of keys. -/
abbrev FilterObject := List (String × FilterValue)

inductive FilterMode
  | and
  | or
  deriving DecidableEq, Repr

def FilterMode.ofText (text : String) : Except QueryError FilterMode :=
  match text with
  | "AND" => .ok .and
  | "OR" => .ok .or
  | other => .error (.invalidArgument s!"filter_type must be AND or OR, got '{other}'")

namespace FilterScalar

def argument : FilterScalar → String
  | bool flag => flagText flag
  | int number => String.ofList (integerChars number)
  | float value => value.text
  | text content => content

/-- Whole numbers beyond 64 bits with sign count as floating point numbers. -/
def ofJson? : Json → Option FilterScalar
  | .bool flag => some (bool flag)
  | .whole number =>
    if 2 * number < UInt64.size then some (int number)
    else some (float (.number (.ofRatio false number.toNat 1)))
  | .float number => some (float (.number number))
  | .text content => some (text content)
  | _ => none

end FilterScalar

namespace FilterValue

def arguments : FilterValue → List String
  | one scalar => [scalar.argument]
  | many scalars => scalars.map FilterScalar.argument
  | other => []

def ofJson (json : Json) : FilterValue :=
  match FilterScalar.ofJson? json with
  | some scalar => one scalar
  | none => ((json.items?.bind (·.mapM FilterScalar.ofJson?)).map many).getD other

end FilterValue

def FilterObject.ofJson? (json : Json) : Option FilterObject := do
  let entries ← json.entries?
  return (entries.map fun (key, value) => (key, FilterValue.ofJson value)).mergeSort
    fun left right => left.1 ≤ right.1

inductive FilterTarget
  | field (id : FieldId)
  | noField (digits : String)
  | system (column : SystemColumn)
  deriving DecidableEq, Repr

structure FilterKey where
  target : FilterTarget
  op : String
  deriving DecidableEq, Repr

def keyMark : List Char := "filter__field_".toList

/-- Splits at the first two underscores in a row. -/
def splitPair : List Char → Option (List Char × List Char)
  | '_' :: '_' :: rest => some ([], rest)
  | c :: rest => (splitPair rest).map fun (before, after) => (c :: before, after)
  | [] => none

def isOpChar (c : Char) : Bool := c.isAlphanum || c == '_'

def FilterTarget.ofChars? (chars : List Char) : Option FilterTarget :=
  match digits? chars with
  | some number =>
    if number < UInt64.size then some (field ⟨UInt64.ofNat number⟩)
    else some (noField (String.ofList chars))
  | none => (SystemColumn.filterable? (String.ofList chars)).map system

def FilterKey.ofText? (key : String) : Option FilterKey := do
  let (target, op) ← splitPair (← afterStart? keyMark key.toList)
  if op.all isOpChar then return ⟨← FilterTarget.ofChars? target, String.ofList op⟩ else none

namespace Schema

variable (schema : Schema)

/-- A column that a filter may test, the operators it accepts, and its name and type in errors. -/
structure FilterColumn where
  key : ColumnKey
  ops : List FilterOp
  name : String
  type : String
  test : FilterOp → String → Except Fault CellTest

def systemTest (op : FilterOp) (argument : String) : Except Fault CellTest :=
  match op.dateRelation? with
  | some relation => momentTest relation argument
  | none => .ok .never

def filterColumn (only : Option (List FieldId)) (target : FilterTarget) :
    Except QueryError FilterColumn :=
  match target with
  | .field id =>
    match schema.column? id with
    | some column =>
      if schema.isQueryable id && allowedBy only id then
        .ok ⟨.field id, column.field.filterOps, id.text, column.field.tag.name,
          column.field.filterTest⟩
      else .error (.filterFieldNotFound id.text)
    | none => .error (.filterFieldNotFound id.text)
  | .noField digits => .error (.filterFieldNotFound digits)
  | .system column =>
    .ok ⟨.system column, column.filterOps, column.name, column.name, systemTest⟩

def FilterColumn.op (column : FilterColumn) (name : String) : Except QueryError FilterOp :=
  match FilterOp.ofText? name with
  | none => .error (.filterTypeDoesNotExist name)
  | some op =>
    if op ∈ column.ops then .ok op
    else .error (.filterTypeNotAllowed op.text column.name column.type)

/-- The arguments that count: an operator without argument has one, others lose the blank ones. -/
def effectiveArguments (op : FilterOp) (arguments : List String) : List String :=
  if op.isUnary then [""] else arguments.filter (!isBlankText ·)

def keyPredicate? (only : Option (List FieldId)) (key : FilterKey) (value : FilterValue) :
    Except (Failure QueryError) (Option Predicate) := do
  let column ← (schema.filterColumn only key.target).mapError Failure.error
  let op ← (column.op key.op).mapError Failure.error
  let tests ← orFail ((effectiveArguments op value.arguments).mapM (column.test op))
  if tests.isEmpty then return none
  else return some (Predicate.any (tests.map (Predicate.test column.key)))

def keyPredicates (only : Option (List FieldId)) :
    FilterObject → Except (Failure QueryError) (List Predicate)
  | [] => .ok []
  | (key, value) :: rest =>
    match FilterKey.ofText? key with
    | none => keyPredicates only rest
    | some key => do
      let first ← schema.keyPredicate? only key value
      let others ← keyPredicates only rest
      return first.toList ++ others

/-- The restriction that a filter object describes; without an effective key it accepts all rows. -/
def filterPredicate (only : Option (List FieldId)) (filters : FilterObject) (mode : String) :
    Except (Failure QueryError) Predicate := do
  let mode ← (FilterMode.ofText mode).mapError Failure.error
  let parts ← schema.keyPredicates only filters
  match mode with
  | .and => return .all parts
  | .or => return if parts.isEmpty then .everything else .any parts

end Schema
end Tabula
