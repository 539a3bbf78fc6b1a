import Tabula.IdMap
import Tabula.Json
import Tabula.Field.Json

/-! Counters of queries and row writes, fed by events. -/
namespace Tabula

inductive WriteKind
  | create
  | update
  | delete
  | reconcile
  deriving DecidableEq, Repr

inductive Event
  | queryStart (table : TableId)
  | queryFinish (table : TableId) (scanned matched : Nat)
  | rowWrite (table : TableId) (kind : WriteKind) (computed : Nat)
  deriving DecidableEq, Repr

abbrev counterLimit : Nat := UInt64.size - 1

/-- Counters stay at their largest value once they reach it. -/
def countUp (counter amount : Nat) : Nat := min (counter + amount) counterLimit

structure OpCounters where
  queries : Nat := 0
  rowsScanned : Nat := 0
  rowsMatched : Nat := 0
  rowsCreated : Nat := 0
  rowsUpdated : Nat := 0
  rowsDeleted : Nat := 0
  rowsReconciled : Nat := 0
  computedFields : Nat := 0
  deriving DecidableEq, Repr

structure TableCounters where
  queries : Nat := 0
  rowsScanned : Nat := 0
  rowsMatched : Nat := 0
  rowsWritten : Nat := 0
  deriving DecidableEq, Repr

structure Metrics where
  ops : OpCounters := {}
  tables : IdMap .table TableCounters := {}
  deriving Repr

def OpCounters.countWrite (ops : OpCounters) : WriteKind → OpCounters
  | .create => { ops with rowsCreated := countUp ops.rowsCreated 1 }
  | .update => { ops with rowsUpdated := countUp ops.rowsUpdated 1 }
  | .delete => { ops with rowsDeleted := countUp ops.rowsDeleted 1 }
  | .reconcile => { ops with rowsReconciled := countUp ops.rowsReconciled 1 }

def OpCounters.count (ops : OpCounters) : Event → OpCounters
  | .queryStart _ => { ops with queries := countUp ops.queries 1 }
  | .queryFinish _ scanned matched =>
    { ops with
      rowsScanned := countUp ops.rowsScanned scanned
      rowsMatched := countUp ops.rowsMatched matched }
  | .rowWrite _ kind computed =>
    let ops := ops.countWrite kind
    { ops with computedFields := countUp ops.computedFields computed }

def TableCounters.count (counters : TableCounters) : Event → TableCounters
  | .queryStart _ => { counters with queries := countUp counters.queries 1 }
  | .queryFinish _ scanned matched =>
    { counters with
      rowsScanned := countUp counters.rowsScanned scanned
      rowsMatched := countUp counters.rowsMatched matched }
  | .rowWrite .. => { counters with rowsWritten := countUp counters.rowsWritten 1 }

def Event.table : Event → TableId
  | queryStart table => table
  | queryFinish table _ _ => table
  | rowWrite table _ _ => table

namespace Metrics

def record (metrics : Metrics) (event : Event) : Metrics where
  ops := metrics.ops.count event
  tables :=
    metrics.tables.insert event.table (((metrics.tables.find? event.table).getD {}).count event)

def json (metrics : Metrics) : Json :=
  let ops := metrics.ops
  .object
    [("ops", .object
      [("queries", .natural ops.queries), ("rows_scanned", .natural ops.rowsScanned),
        ("rows_matched", .natural ops.rowsMatched), ("rows_created", .natural ops.rowsCreated),
        ("rows_updated", .natural ops.rowsUpdated), ("rows_deleted", .natural ops.rowsDeleted),
        ("rows_reconciled", .natural ops.rowsReconciled),
        ("computed_fields", .natural ops.computedFields)]),
      ("tables", .object (metrics.tables.entries.map fun (id, counters) =>
        (id.text, .object
          [("queries", .natural counters.queries), ("rows_scanned", .natural counters.rowsScanned),
            ("rows_matched", .natural counters.rowsMatched),
            ("rows_written", .natural counters.rowsWritten)])))]

end Metrics
end Tabula
