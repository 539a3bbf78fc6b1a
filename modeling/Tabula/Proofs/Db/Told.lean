import Tabula.Proofs.Db.History
import Tabula.Proofs.Db.Reconciled

/-!
What operations tell of what they do. Whoever listens is told the same, and what is told accounts for what
is stored: of each row that is created, updated or deleted, of rows that are reconciled, and of queries.
-/
namespace Tabula

def RowChange.kind : RowChange → WriteKind
  | create .. => .create
  | update .. => .update
  | delete _ => .delete

/-- A query is told of; one that is done matches no more rows than it scans. -/
def Event.IsRead : Event → Prop
  | queryStart _ => True
  | queryFinish _ scanned matched => matched ≤ scanned
  | rowWrite .. => False

/-- The events tell what was done to the rows of a table: one row was changed, or rows were reconciled. -/
inductive TableRows.Told (rows later : TableRows) (table : TableId) : List Event → Prop
  | change {change : RowChange} (makes : rows.Makes later change) (computed : Nat) :
      Told rows later table [.rowWrite table change.kind computed]
  | same (same : rows.SameStamps later) (computed : List Nat) :
      Told rows later table (computed.map (.rowWrite table .reconcile))

namespace Db

/-- The events account for what is stored later. -/
inductive Accounts (db later : Db) (events : List Event) : Prop
  | read (stored : later.store.tables = db.store.tables) (reads : ∀ event ∈ events, event.IsRead)
  | write {table : TableId} {rows : TableRows}
      (stored : later.store.tables = db.store.tables.insert table rows)
      (told : (db.rowsOf table).Told rows table events)

/-- The same database, with its events captured behind others or counted. -/
def listening (db : Db) (captured : Option (List Event)) : Db := { db with captured }

structure Explains (db later : Db) (events : List Event) : Prop extends db.Tells later events where
  accounts : db.Accounts later events

/-- Whether events are captured or counted, the same ones are told of. -/
def Reports (act : Db → Db) (db : Db) : Prop :=
  ∃ events, ∀ captured, (db.listening captured).Explains (act (db.listening captured)) events

section
variable {db later : Db} {act : Db → Db}

theorem reports_intro {events : Db → List Event}
    (explains : ∀ state : Db, state.Explains (act state) (events state))
    (deaf : ∀ captured, events (db.listening captured) = events db) : Reports act db := by
  refine ⟨events db, ?_⟩
  intro captured
  rw [← deaf captured]
  exact explains _

theorem explains_nil (captured : later.captured = db.captured) (metrics : later.metrics = db.metrics)
    (accounts : db.Accounts later []) : db.Explains later [] := by
  refine ⟨⟨?_, ?_⟩, accounts⟩
  · rw [captured]
    cases db.captured <;> simp
  · simp [metrics]

theorem explains_self (db : Db) : db.Explains db [] := explains_nil rfl rfl (.read rfl nofun)

theorem explains_reads {events : List Event} (reads : ∀ event ∈ events, event.IsRead) :
    db.Explains (events.foldl record db) events :=
  ⟨tells_foldl_record db events, .read (by rw [store_foldl_record]) reads⟩

end

section
variable {α β : Type} {table : TableId} {next : α → Work β} {told : α → List Event}
  {change : TableRows → Except RowError (Except Breakdown (α × TableRows))}

def writeEvents (table : TableId)
    (change : TableRows → Except RowError (Except Breakdown (α × TableRows))) (told : α → List Event)
    (db : Db) : List Event :=
  if db.store.isClosed then []
  else
    match change (db.rowsOf table) with
    | .ok (.ok (result, _)) => told result
    | _ => []

theorem explains_write {db : Db}
    (announced : ∀ result state, ∃ warnings,
      (perform (next result) state).2 = (told result).foldl record (state.warn warnings))
    (accounts : ∀ result rows, change (db.rowsOf table) = .ok (.ok (result, rows)) →
      (db.rowsOf table).Told rows table (told result)) :
    db.Explains (perform (write table change >>= next) db).2 (writeEvents table change told db) := by
  unfold writeEvents
  rw [perform_bind, perform_write]
  cases db.store.isClosed with
  | true => exact explains_self db
  | false =>
    cases changed : change (db.rowsOf table) with
    | error error =>
      have accounted : db.Accounts (db.withRows table (db.rowsOf table)) [] :=
        .write rfl (.same (.refl _) [])
      exact explains_nil rfl rfl accounted
    | ok outcome =>
      cases outcome with
      | error broken =>
        have accounted :
            db.Accounts ({ db with store := { db.store with isClosed := true } }.warn broken.warnings) [] :=
          .read rfl nofun
        exact explains_nil rfl rfl accounted
      | ok done =>
        obtain ⟨result, rows⟩ := done
        obtain ⟨warnings, written⟩ := announced result (db.withRows table rows)
        obtain ⟨captures, counts⟩ :=
          tells_foldl_record ((db.withRows table rows).warn warnings) (told result)
        change db.Explains (perform (next result) (db.withRows table rows)).2 (told result)
        rw [written]
        refine ⟨⟨captures, counts⟩, .write ?_ (accounts result rows changed)⟩
        rw [store_foldl_record]
        rfl

end

section
variable {schema : Schema} {db : Db}

theorem explains_writeRow {kind : WriteKind}
    {change : TableRows → Except RowError (Except Breakdown ((Row × Computation) × TableRows))}
    (accounts : ∀ result rows, change (db.rowsOf schema.table) = .ok (.ok (result, rows)) →
      (db.rowsOf schema.table).Told rows schema.table
        [.rowWrite schema.table kind result.2.computed]) :
    db.Explains (writeRow schema kind change db).2
      (writeEvents schema.table change (fun result => [.rowWrite schema.table kind result.2.computed])
        db) := by
  rw [← perform_announced]
  exact explains_write (fun result state => ⟨result.2.warnings, rfl⟩) accounts

theorem reports_create (schema : Schema) (input : RowInput) (db : Db) :
    Reports (fun state => (perform (create schema input) state).2) db := by
  simp only [perform_create]
  cases schema.resolveCells input.cells with
  | error failure => exact ⟨[], fun captured => explains_self _⟩
  | ok cells =>
    dsimp only
    apply reports_intro
    · intro state
      apply explains_writeRow
      intro result rows done
      exact .change (TableRows.makes_create (Except.ok.inj done)) result.2.computed
    · exact fun _ => rfl

theorem reports_update (schema : Schema) (id : RowId) (input : RowInput) (db : Db) :
    Reports (fun state => (perform (update schema id input) state).2) db := by
  simp only [perform_update]
  cases schema.resolveCells input.cells with
  | error failure => exact ⟨[], fun captured => explains_self _⟩
  | ok cells =>
    dsimp only
    apply reports_intro
    · intro state
      apply explains_writeRow
      intro result rows done
      obtain ⟨old, existing, done⟩ := bind_eq_ok.1 done
      have found := TableRows.existing_eq_ok.1 existing
      exact .change (TableRows.makes_update found (Except.ok.inj done)) result.2.computed
    · exact fun _ => rfl

theorem reports_updateRecord (schema : Schema) (record : Record) (input : RowInput) (db : Db) :
    Reports (fun state => (perform (updateRecord schema record input) state).2) db := by
  unfold updateRecord
  by_cases foreign : schema.table ≠ record.schema.table
  · simp only [if_pos foreign]
    exact ⟨[], fun captured => explains_self _⟩
  · simp only [if_neg foreign]
    exact reports_update schema record.id input db

theorem reports_delete (schema : Schema) (id : RowId) (db : Db) :
    Reports (fun state => (perform (delete schema id) state).2) db := by
  apply reports_intro
  · intro state
    apply @explains_write _ _ _ _ fun _ => [.rowWrite schema.table .delete 0]
    · intro result state
      exact ⟨[], rfl⟩
    · intro result rows done
      obtain ⟨old, existing, same⟩ := bind_eq_ok.1 done
      cases same
      have found := TableRows.existing_eq_ok.1 existing
      obtain ⟨_, rfl⟩ := TableRows.mem_of_find? found
      exact .change (TableRows.makes_delete found) 0
  · exact fun _ => rfl

theorem reports_reconcile (schema : Schema) (db : Db) :
    Reports (fun state => (perform (reconcile schema) state).2) db := by
  apply reports_intro
  · intro state
    apply @explains_write _ _ _ _ fun result => result.1.map fun entry =>
      .rowWrite schema.table .reconcile entry.2.computed
    · intro result state
      exact ⟨result.2, rfl⟩
    · intro result rows done
      obtain ⟨⟨changed, warnings, later⟩, reconciled, same⟩ := bind_eq_ok.1 (Except.ok.inj done)
      cases same
      have told : (state.rowsOf schema.table).Told rows schema.table _ :=
        .same (TableRows.sameStamps_reconcile reconciled) (changed.map fun entry => entry.2.computed)
      rwa [List.map_map] at told
  · exact fun _ => rfl

/-! Queries. -/

def scanEvents (query : Query) (db : Db) : List Event :=
  let rows := (db.rowsOf query.schema.table).values
  match unlessFault (query.fault? rows) (query.select rows) with
  | .ok selected =>
    [.queryStart query.schema.table, .queryFinish query.schema.table rows.length selected.length]
  | .error _ => [.queryStart query.schema.table]

theorem scan_eq (query : Query) (db : Db) :
    (perform (scan query) db).2 = (scanEvents query db).foldl record db := by
  unfold scan scanEvents
  rw [perform_getThe]
  dsimp only
  rw [perform_modifyThe, perform_bind, perform_ofExcept]
  cases unlessFault (query.fault? (db.rowsOf query.schema.table).values)
    (query.select (db.rowsOf query.schema.table).values) <;> rfl

theorem isRead_of_mem_scanEvents (query : Query) (db : Db) :
    ∀ event ∈ scanEvents query db, event.IsRead := by
  have fewer : (query.select (db.rowsOf query.schema.table).values).length ≤
      (db.rowsOf query.schema.table).values.length := by
    rw [query.length_select]
    exact List.countP_le_length
  unfold scanEvents
  dsimp only
  split
  · rename_i selected done
    obtain ⟨_, rfl⟩ := unlessFault_eq_ok.1 done
    intro event member
    rcases List.mem_cons.1 member with rfl | last
    · trivial
    · rw [List.mem_singleton.1 last]
      exact fewer
  · intro event member
    rw [List.mem_singleton.1 member]
    trivial

theorem reports_scan (query : Query) (db : Db) :
    Reports (fun state => (perform (scan query) state).2) db := by
  apply reports_intro
  · intro state
    rw [scan_eq]
    exact explains_reads (isRead_of_mem_scanEvents query state)
  · exact fun _ => rfl

theorem perform_bind_pure {ε α β : Type} (first : ExceptT ε (StateM Db) α) (answer : α → β)
    (db : Db) :
    (perform (first >>= fun value => pure (answer value)) db).2 = (perform first db).2 := by
  rw [perform_bind]
  rcases perform first db with ⟨_ | _, _⟩ <;> rfl

theorem reports_execute (query : Query) (db : Db) :
    Reports (fun state => (perform (execute query) state).2) db := by
  unfold execute
  simp only [perform_bind_pure]
  exact reports_scan query db

theorem reports_page (query : Query) (offset : Nat) (limit : Option UInt32) (db : Db) :
    Reports (fun state => (perform (page query offset limit) state).2) db := by
  have paged (state : Db) : (perform (page query offset limit) state).2 =
      match state.config.pageSize limit with
      | .ok _ => (perform (scan query) state).2
      | .error _ => state := by
    unfold page
    rw [perform_getThe, perform_bind, perform_ofExcept]
    cases state.config.pageSize limit with
    | error fault => rfl
    | ok size => exact perform_bind_pure _ _ _
  simp only [paged]
  -- Where events go is no part of the settings.
  change ∃ events, ∀ captured, (db.listening captured).Explains
    (match db.config.pageSize limit with
      | .ok _ => (perform (scan query) (db.listening captured)).2
      | .error _ => db.listening captured) events
  cases db.config.pageSize limit with
  | error fault => exact ⟨[], fun captured => explains_self _⟩
  | ok size => exact reports_scan query db

theorem reports_all (schema : Schema) (db : Db) :
    Reports (fun state => (perform (all schema) state).2) db := by
  unfold all
  simp only [perform_bind_pure]
  exact reports_execute _ db

end
end Db

namespace Operation

/-- Drops no table and neither resets the counters nor captures events. -/
def IsCounted {α : Type} : Operation α → Prop
  | dropTable _ => False
  | resetMetrics => False
  | capture _ => False
  | _ => True

theorem reports {α : Type} (operation : Operation α) (counted : operation.IsCounted) (db : Db) :
    Db.Reports (fun state => (operation.perform state).2) db := by
  cases operation with
  | create schema input => exact Db.reports_create schema input db
  | update schema id input => exact Db.reports_update schema id input db
  | updateRecord schema record input => exact Db.reports_updateRecord schema record input db
  | delete schema id => exact Db.reports_delete schema id db
  | reconcile schema => exact Db.reports_reconcile schema db
  | all schema => exact Db.reports_all schema db
  | execute query => exact Db.reports_execute query db
  | page query offset limit => exact Db.reports_page query offset limit db
  | dropTable | resetMetrics | capture => exact counted.elim
  | compose | get | count | rowCount | config | clock | setClock | metrics | takeWarnings =>
    exact ⟨[], fun captured => Db.explains_nil rfl rfl (.read rfl nofun)⟩

end Operation
end Tabula
