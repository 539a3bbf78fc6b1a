import Tabula.Decimal.Arithmetic
import Tabula.Row.Computed
import Tabula.Row.Input

/-! Stored rows of all tables, and the writes of one table. -/
namespace Tabula

/-- Row identifiers count up and are never used again; each row is stored under its own. -/
structure TableRows where
  lastId : UInt64 := 0
  rows : IdMap .row Row := {}
  keyed : ∀ entry ∈ rows.entries, entry.2.id = entry.1 := by simp
  deriving Repr

instance : Inhabited TableRows := ⟨{}⟩

/-- A write that breaks off with a fault closes the store for all later writes. -/
structure Store where
  tables : IdMap .table TableRows := {}
  isClosed : Bool := false
  deriving Repr

def lastLargest (largest : Option Decimal) (order : Decimal) : Option Decimal :=
  match largest with
  | none => some order
  | some largest => if order.below largest then some largest else some order

namespace TableRows

variable (table : TableRows)

def find? (id : RowId) : Option Row := table.rows.find? id

def existing (tableId : TableId) (id : RowId) : Except RowError Row :=
  match table.find? id with
  | some row => .ok row
  | none => .error (.rowDoesNotExist tableId id)

def values : List Row := table.rows.values

def put (row : Row) : TableRows where
  lastId := table.lastId
  rows := table.rows.insert row.id row
  keyed entry member := by
    rcases IdMap.mem_of_mem_insertEntry member with rfl | member
    · rfl
    · exact table.keyed entry member

/-- The largest order of all rows; of equal ones the one that is written last. -/
def largestOrder? : Option Decimal := (table.values.map (·.order)).foldl lastLargest none

def nextId : Except Fault RowId :=
  if table.lastId.toNat + 1 < UInt64.size then .ok ⟨table.lastId + 1⟩ else .error .rowIdExceeded

def nextOrder : Except Fault Decimal :=
  match table.largestOrder? with
  | none => .ok .one
  | some largest =>
    match largest.add? .one with
    | some order => .ok order
    | none => .error .orderExceeded

def initialCells (columns : List Column) : Cells :=
  IdMap.insertAll {} ((columns.filter (!·.field.kind.isComputed)).map fun column =>
    (column.id, column.spec.initial))

def create (whole : Schema) (cells : List (FieldId × Value)) (order : Option Decimal)
    (now : Instant) : Except Breakdown ((Row × Computation) × TableRows) := do
  let id ← table.nextId.mapError ({ fault := · })
  let order ← match order with
    | some order => pure order
    | none => table.nextOrder.mapError ({ fault := · })
  let computation ← compute whole id ((initialCells whole.columns).insertAll cells)
  let row : Row := { id, order, createdOn := now, updatedOn := now, cells := computation.cells }
  return ((row, computation), { table with lastId := id.val }.put row)

def update (whole : Schema) (row : Row) (cells : List (FieldId × Value)) (order : Option Decimal)
    (now : Instant) : Except Breakdown ((Row × Computation) × TableRows) := do
  let computation ← compute whole row.id (row.cells.insertAll cells)
  let row :=
    { row with order := order.getD row.order, updatedOn := now, cells := computation.cells }
  return ((row, computation), table.put row)

def delete (id : RowId) : TableRows where
  lastId := table.lastId
  rows := table.rows.erase id
  keyed entry member := table.keyed entry (List.mem_filter.1 member).1

/-- A row without cells of fields that are gone and with all formulas computed anew. -/
def reconciled (whole : Schema) (row : Row) : Except Breakdown (Row × Computation) := do
  let computation ← compute whole row.id (row.cells.filter fun entry => whole.isTableField entry.1)
  return ({ row with cells := computation.cells }, computation)

def reconcileRows (whole : Schema) : List Row → Except Breakdown (List (Row × Row × Computation))
  | [] => .ok []
  | row :: rows => do
    let (next, computation) ← reconciled whole row
    let others ← (reconcileRows whole rows).mapError (·.after computation.warnings)
    return (row, next, computation) :: others

def reconcile (whole : Schema) :
    Except Breakdown (List (Row × Computation) × List Warning × TableRows) := do
  let results ← reconcileRows whole table.values
  let changed := (results.filter fun (row, next, _) => !next.sameAs row).map (·.2)
  return (changed, results.flatMap (·.2.2.warnings),
    changed.foldl (fun table (row, _) => table.put row) table)

end TableRows

def Store.rowsOf (store : Store) (table : TableId) : TableRows := (store.tables.find? table).getD default

end Tabula
