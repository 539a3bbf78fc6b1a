import Tabula.Db.Store
import Tabula.Metrics
import Tabula.Query.Basic
import Tabula.Query.Response

/-! The engine: settings, stored rows, a clock and counters, and the operations on them. -/
namespace Tabula

/-- Events go to the counters, unless they are being captured. -/
structure Db where
  config : Config := {}
  store : Store := {}
  clock : Instant
  metrics : Metrics := {}
  captured : Option (List Event) := none
  warnings : List Warning := []
  deriving Repr

abbrev Work := ExceptT (Failure RowError) (StateM Db)

/-- A read, which may break off; what was counted before stays counted. -/
abbrev Reading := ExceptT Fault (StateM Db)

namespace Db

def record (db : Db) (event : Event) : Db :=
  match db.captured with
  | some events => { db with captured := some (events ++ [event]) }
  | none => { db with metrics := db.metrics.record event }

def warn (db : Db) (warnings : List Warning) : Db := { db with warnings := db.warnings ++ warnings }

/-- Composes a schema, with the configured names reserved too. -/
def compose (db : Db) (table : Table) (options : ComposeOptions) : Except Fault Schema :=
  Schema.compose table
    { options with reservedNames := options.reservedNames ++ db.config.reservedNames }

def rowsOf (db : Db) (table : TableId) : TableRows := db.store.rowsOf table

def withRows (db : Db) (table : TableId) (rows : TableRows) : Db :=
  { db with store := { db.store with tables := db.store.tables.insert table rows } }

def rowCount (db : Db) (table : TableId) : Nat := (db.rowsOf table).values.length

def query (_ : Db) (schema : Schema) : Query := { schema }

def scan (query : Query) : Reading (List Row) := do
  let table := query.schema.table
  let rows := ((← getThe Db).rowsOf table).values
  modifyThe Db (·.record (.queryStart table))
  let selected ← MonadExcept.ofExcept (unlessFault (query.fault? rows) (query.select rows))
  modifyThe Db (·.record (.queryFinish table rows.length selected.length))
  return selected

def respond (query : Query) (rows : List Row) : Response :=
  ⟨query.schema.table, rows.map fun row => ⟨query.schema, row⟩⟩

def execute (query : Query) : Reading Response := do
  return respond query (← scan query)

def page (query : Query) (offset : Nat) (limit : Option UInt32) : Reading Page := do
  let limit ← MonadExcept.ofExcept ((← getThe Db).config.pageSize limit)
  let rows ← scan query
  return ⟨respond query ((rows.drop offset).take limit), offset, limit, rows.length⟩

def count (query : Query) (db : Db) : Except Fault Nat :=
  let rows := (db.rowsOf query.schema.table).values
  unlessFault (query.fault? rows) (query.count rows)

def all (schema : Schema) : Reading (List Record) := do
  return (← execute { schema }).records

def get (schema : Schema) (id : RowId) (db : Db) : Except RowError Record :=
  ((db.rowsOf schema.table).existing schema.table id).map (⟨schema, ·⟩)

/-- Changes the rows of a table under the protection of the store, where the table has its place from
then on, even if the change is refused. A change that breaks off closes the store. -/
def write {α : Type} (table : TableId)
    (change : TableRows → Except RowError (Except Breakdown (α × TableRows))) : Work α := do
  let db ← getThe Db
  if db.store.isClosed then throw (.error .storeClosed)
  match change (db.rowsOf table) with
  | .ok (.ok (result, rows)) =>
    set (db.withRows table rows)
    return result
  | .ok (.error broken) =>
    set ({ db with store := { db.store with isClosed := true } }.warn broken.warnings)
    throw (.fault broken.fault)
  | .error error =>
    set (db.withRows table (db.rowsOf table))
    throw (.error error)

def announce (warnings : List Warning) (events : List Event) : Work Unit :=
  modifyThe Db fun db => events.foldl record (db.warn warnings)

def create (schema : Schema) (input : RowInput) : Work Record := do
  let cells ← MonadExcept.ofExcept (schema.resolveCells input.cells)
  let now := (← getThe Db).clock
  let (row, computation) ← write schema.table fun rows =>
    .ok (rows.create schema.whole cells input.order now)
  announce computation.warnings [.rowWrite schema.table .create computation.computed]
  return ⟨schema, row⟩

def update (schema : Schema) (id : RowId) (input : RowInput) : Work Record := do
  let cells ← MonadExcept.ofExcept (schema.resolveCells input.cells)
  let now := (← getThe Db).clock
  let (row, computation) ← write schema.table fun rows => do
    let row ← rows.existing schema.table id
    return rows.update schema.whole row cells input.order now
  announce computation.warnings [.rowWrite schema.table .update computation.computed]
  return ⟨schema, row⟩

def updateRecord (schema : Schema) (record : Record) (input : RowInput) : Work Record := do
  let found := record.schema.table
  if schema.table ≠ found then throw (.error (.tableMismatch schema.table found))
  update schema record.id input

def delete (schema : Schema) (id : RowId) : Work Unit := do
  write schema.table fun rows => do
    let row ← rows.existing schema.table id
    return .ok ((), rows.delete row.id)
  announce [] [.rowWrite schema.table .delete 0]

def reconcile (schema : Schema) : Work Nat := do
  let (changed, warnings) ← write schema.table fun rows => .ok do
    let (changed, warnings, rows) ← rows.reconcile schema.whole
    return ((changed, warnings), rows)
  announce warnings
    (changed.map fun (_, computation) => .rowWrite schema.table .reconcile computation.computed)
  return changed.length

/-- Drops all rows of a table and its row counter; gives how many rows there were. -/
def dropTable (table : TableId) : Work Nat := do
  let db ← getThe Db
  if db.store.isClosed then throw (.error .storeClosed)
  set { db with store := { db.store with tables := db.store.tables.erase table } }
  return db.rowCount table

end Db
end Tabula
