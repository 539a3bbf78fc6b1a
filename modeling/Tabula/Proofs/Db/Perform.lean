import Tabula.Db.Basic
import Tabula.Proofs.Calendar.Civil
import Tabula.Proofs.Except
import Tabula.Proofs.IdMap

/-! The operations on rows as functions from a state to an outcome and a state. -/
namespace Tabula

namespace Db

/-- What an operation gives in a state, and the state that it leaves. -/
def perform {ε α : Type} (work : ExceptT ε (StateM Db) α) (db : Db) : Except ε α × Db :=
  (work.run.run db).run

theorem perform_bind {ε α β : Type} (first : ExceptT ε (StateM Db) α)
    (next : α → ExceptT ε (StateM Db) β) (db : Db) :
    perform (first >>= next) db =
      match perform first db with
      | (.ok value, later) => perform (next value) later
      | (.error failure, later) => (.error failure, later) := by
  unfold perform
  rw [ExceptT.run_bind, StateT.run_bind, Id.run_bind]
  rcases (first.run.run db).run with ⟨_ | _, _⟩ <;> rfl

theorem perform_getThe {ε α : Type} (next : Db → ExceptT ε (StateM Db) α) (db : Db) :
    perform (getThe Db >>= next) db = perform (next db) db := rfl

theorem perform_modifyThe {ε α : Type} (change : Db → Db) (next : Unit → ExceptT ε (StateM Db) α)
    (db : Db) : perform (modifyThe Db change >>= next) db = perform (next ()) (change db) := rfl

theorem perform_ofExcept {ε α : Type} (outcome : Except ε α) (db : Db) :
    perform (MonadExcept.ofExcept outcome : ExceptT ε (StateM Db) α) db = (outcome, db) := by
  cases outcome <;> rfl

theorem perform_write {α : Type} (table : TableId)
    (change : TableRows → Except RowError (Except Breakdown (α × TableRows))) (db : Db) :
    perform (write table change) db =
      if db.store.isClosed then (.error (.error .storeClosed), db)
      else
        match change (db.rowsOf table) with
        | .ok (.ok (result, rows)) =>
          (.ok result,
            { db with store := { db.store with tables := db.store.tables.insert table rows } })
        | .ok (.error broken) =>
          (.error (.fault broken.fault),
            { db with store := { db.store with isClosed := true } }.warn broken.warnings)
        | .error error => (.error (.error error), db.withRows table (db.rowsOf table)) := by
  unfold write
  rw [perform_bind]
  change perform (if _ then _ else _) db = _
  split
  · rfl
  · rcases change (db.rowsOf table) with _ | _ | _ <;> rfl

theorem eq_of_perform_write {α : Type} {table : TableId}
    {change : TableRows → Except RowError (Except Breakdown (α × TableRows))} {db later : Db}
    {result : α} (done : perform (write table change) db = (.ok result, later)) :
    ∃ rows, change (db.rowsOf table) = .ok (.ok (result, rows)) ∧
      later = { db with store := { db.store with tables := db.store.tables.insert table rows } } := by
  rw [perform_write] at done
  split at done
  · cases done
  · split at done
    · rename_i _ rows changed
      cases done
      exact ⟨rows, changed, rfl⟩
    · cases done
    · cases done

theorem perform_write_ok {α : Type} {table : TableId}
    {change : TableRows → Except RowError (Except Breakdown (α × TableRows))} {db : Db} {result : α}
    {rows : TableRows} (isOpen : db.store.isClosed = false)
    (changed : change (db.rowsOf table) = .ok (.ok (result, rows))) :
    perform (write table change) db =
      (.ok result,
        { db with store := { db.store with tables := db.store.tables.insert table rows } }) := by
  rw [perform_write, isOpen, changed]
  rfl

/-- Reading changes at most what is counted. -/
def Counts (db later : Db) : Prop :=
  ∃ metrics captured, later = { db with metrics, captured }

theorem counts_record (db : Db) (event : Event) : db.Counts (db.record event) := by
  unfold record
  split
  · exact ⟨_, _, rfl⟩
  · exact ⟨_, _, rfl⟩

theorem Counts.trans {first second third : Db} (one : first.Counts second)
    (other : second.Counts third) : first.Counts third := by
  obtain ⟨_, _, rfl⟩ := one
  obtain ⟨_, _, rfl⟩ := other
  exact ⟨_, _, rfl⟩

theorem counts_scan (query : Query) (db : Db) : db.Counts (perform (scan query) db).2 := by
  unfold scan
  rw [perform_getThe]
  dsimp only
  rw [perform_modifyThe, perform_bind, perform_ofExcept]
  cases unlessFault (query.fault? (db.rowsOf query.schema.table).values)
    (query.select (db.rowsOf query.schema.table).values) with
  | error fault => exact counts_record _ _
  | ok selected => exact (counts_record _ _).trans (counts_record _ _)

theorem store_record (db : Db) (event : Event) : (db.record event).store = db.store := by
  unfold record
  split <;> rfl

theorem store_foldl_record (db : Db) (events : List Event) :
    (events.foldl record db).store = db.store := by
  induction events generalizing db with
  | nil => rfl
  | cons event rest ih => rw [List.foldl_cons, ih, store_record]

theorem warnings_record (db : Db) (event : Event) : (db.record event).warnings = db.warnings := by
  unfold record
  split <;> rfl

theorem rowsOf_record (db : Db) (event : Event) (table : TableId) :
    (db.record event).rowsOf table = db.rowsOf table := by
  unfold rowsOf
  rw [store_record]

theorem rowsOf_warn (db : Db) (warnings : List Warning) (table : TableId) :
    (db.warn warnings).rowsOf table = db.rowsOf table := rfl

theorem rowsOf_insert (db : Db) (table : TableId) (rows : TableRows) :
    rowsOf { db with store := { db.store with tables := db.store.tables.insert table rows } } table =
      rows := by
  simp [rowsOf, Store.rowsOf]

def writeRow (schema : Schema) (kind : WriteKind)
    (change : TableRows → Except RowError (Except Breakdown ((Row × Computation) × TableRows)))
    (db : Db) : Except (Failure RowError) Record × Db :=
  match perform (write schema.table change) db with
  | (.error failure, later) => (.error failure, later)
  | (.ok (row, computation), later) =>
    (.ok ⟨schema, row⟩, (later.warn computation.warnings).record
      (.rowWrite schema.table kind computation.computed))

section
variable {schema : Schema} {kind : WriteKind}
  {change : TableRows → Except RowError (Except Breakdown ((Row × Computation) × TableRows))}
  {db later : Db} {record : Record}

theorem perform_announced :
    perform (do
      let (row, computation) ← write schema.table change
      announce computation.warnings [.rowWrite schema.table kind computation.computed]
      return (⟨schema, row⟩ : Record)) db = writeRow schema kind change db := by
  unfold writeRow
  rw [perform_bind]
  rcases perform (write schema.table change) db with ⟨_ | _, _⟩ <;> rfl

theorem writeRow_of_broken {broken : Breakdown} (isOpen : db.store.isClosed = false)
    (changed : change (db.rowsOf schema.table) = .ok (.error broken)) :
    ∃ later, writeRow schema kind change db = (.error (.fault broken.fault), later) ∧
      later.store.isClosed = true ∧ ∀ table, later.rowsOf table = db.rowsOf table := by
  unfold writeRow
  rw [perform_write, isOpen, changed]
  exact ⟨_, rfl, rfl, fun _ => rfl⟩

theorem writeRow_of_done {row : Row} {computation : Computation} {rows : TableRows}
    (isOpen : db.store.isClosed = false)
    (changed : change (db.rowsOf schema.table) = .ok (.ok ((row, computation), rows))) :
    ∃ later, writeRow schema kind change db = (.ok ⟨schema, row⟩, later) ∧
      later.rowsOf schema.table = rows ∧ later.store.isClosed = false ∧
      later.warnings = db.warnings ++ computation.warnings := by
  unfold writeRow
  rw [perform_write_ok isOpen changed]
  refine ⟨_, rfl, ?_, ?_, ?_⟩
  · rw [rowsOf_record, rowsOf_warn, rowsOf_insert]
  · rw [store_record]
    exact isOpen
  · rw [warnings_record]
    rfl

theorem eq_of_writeRow (done : writeRow schema kind change db = (.ok record, later)) :
    record = ⟨schema, record.row⟩ := by
  unfold writeRow at done
  split at done
  · cases done
  · cases done
    rfl

theorem of_writeRow (done : writeRow schema kind change db = (.ok record, later)) :
    ∃ computation, change (db.rowsOf schema.table) =
      .ok (.ok ((record.row, computation), later.rowsOf schema.table)) := by
  unfold writeRow at done
  split at done
  · cases done
  · rename_i row computation between wrote
    cases done
    obtain ⟨rows, changed, rfl⟩ := eq_of_perform_write wrote
    rw [rowsOf_record, rowsOf_warn, rowsOf_insert]
    exact ⟨computation, changed⟩

end

theorem perform_create (schema : Schema) (input : RowInput) (db : Db) :
    perform (create schema input) db =
      match schema.resolveCells input.cells with
      | .error failure => (.error failure, db)
      | .ok cells => writeRow schema .create (fun rows =>
          .ok (rows.create schema.whole cells input.order db.clock)) db := by
  unfold create
  rw [perform_bind, perform_ofExcept]
  cases schema.resolveCells input.cells with
  | error failure => rfl
  | ok cells =>
    dsimp only
    rw [perform_getThe]
    exact perform_announced

theorem perform_update (schema : Schema) (id : RowId) (input : RowInput) (db : Db) :
    perform (update schema id input) db =
      match schema.resolveCells input.cells with
      | .error failure => (.error failure, db)
      | .ok cells => writeRow schema .update (fun rows => do
          let row ← rows.existing schema.table id
          return rows.update schema.whole row cells input.order db.clock) db := by
  unfold update
  rw [perform_bind, perform_ofExcept]
  cases schema.resolveCells input.cells with
  | error failure => rfl
  | ok cells =>
    dsimp only
    rw [perform_getThe]
    exact perform_announced

theorem perform_create_ok {schema : Schema} {input : RowInput} {db : Db}
    {cells : List (FieldId × Value)} {row : Row} {computation : Computation} {rows : TableRows}
    (isOpen : db.store.isClosed = false) (resolved : schema.resolveCells input.cells = .ok cells)
    (created : (db.rowsOf schema.table).create schema.whole cells input.order db.clock =
      .ok ((row, computation), rows)) :
    ∃ later, perform (create schema input) db = (.ok ⟨schema, row⟩, later) := by
  rw [perform_create, resolved]
  dsimp only
  unfold writeRow
  rw [perform_write_ok isOpen (congrArg Except.ok created)]
  exact ⟨_, rfl⟩

end Db
end Tabula
