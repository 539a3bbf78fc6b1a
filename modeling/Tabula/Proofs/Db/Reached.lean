import Tabula.Proofs.Db.RowWrites

/-!
The states that calls lead to from an empty store, with what every stored row keeps to: a property of
rows that creating, updating and reconciling a row establish holds for all of them.
-/
namespace Tabula

inductive RowCall
  | create (input : RowInput)
  | update (id : RowId) (input : RowInput)
  | updateRecord (record : Record) (input : RowInput)
  | delete (id : RowId)
  | reconcile

namespace RowCall

def work (schema : Schema) : RowCall → Work Unit
  | create input => do let _ ← Db.create schema input
  | update id input => do let _ ← Db.update schema id input
  | updateRecord record input => do let _ ← Db.updateRecord schema record input
  | delete id => Db.delete schema id
  | reconcile => do let _ ← Db.reconcile schema

def perform (schema : Schema) (db : Db) (call : RowCall) : Except (Failure RowError) Unit × Db :=
  Db.perform (call.work schema) db

end RowCall

/-- What calls through a schema can make of the rows of its table. -/
inductive Schema.Writes (schema : Schema) (rows : TableRows) : TableRows → Prop
  | create {given : List (CellKey × Value)} {cells : List (FieldId × Value)}
      {order : Option Decimal} {now : Instant} {row : Row} {computation : Computation}
      {later : TableRows} (resolved : schema.resolveCells given = .ok cells)
      (done : rows.create schema.whole cells order now = .ok ((row, computation), later)) :
      Writes schema rows later
  | update {given : List (CellKey × Value)} {cells : List (FieldId × Value)} {old : Row}
      {order : Option Decimal} {now : Instant} {row : Row} {computation : Computation}
      {later : TableRows} {id : RowId} (resolved : schema.resolveCells given = .ok cells)
      (found : rows.find? id = some old)
      (done : rows.update schema.whole old cells order now = .ok ((row, computation), later)) :
      Writes schema rows later
  | delete (id : RowId) : Writes schema rows (rows.delete id)
  | refused : Writes schema rows rows
  | reconcile {changed : List (Row × Computation)} {warnings : List Warning} {later : TableRows}
      (done : rows.reconcile schema.whole = .ok (changed, warnings, later)) :
      Writes schema rows later

/-- The rows of the schema's table are written to, or nothing in the store changes. -/
def Schema.Changes (schema : Schema) (db later : Db) : Prop :=
  later.store = db.store ∨ ∃ rows, schema.Writes (db.rowsOf schema.table) rows ∧
    later.store = { db.store with tables := db.store.tables.insert schema.table rows }

/-- What is left of a store that is empty at first, after calls through some schemas none of which
breaks off, and after whatever leaves the rows alone. -/
inductive Db.Reached (Through : Schema → Prop) : Db → Prop
  | start {db : Db} (empty : db.store = {}) : Reached Through db
  | call {db : Db} {schema : Schema} (call : RowCall) (reached : Reached Through db)
      (through : Through schema) (whole : IsWhole (call.perform schema db).1) :
      Reached Through (call.perform schema db).2
  | drop {db : Db} (table : TableId) (reached : Reached Through db) :
      Reached Through (Db.perform (Db.dropTable table) db).2
  | elsewhere {db later : Db} (reached : Reached Through db) (same : later.store = db.store) :
      Reached Through later

namespace Db

variable {schema : Schema} {db later : Db}

theorem perform_discard {ε α : Type} (first : ExceptT ε (StateM Db) α) (db : Db) :
    perform (do let _ ← first) db = ((perform first db).1.map fun _ => (), (perform first db).2) := by
  rw [perform_bind]
  rcases perform first db with ⟨_ | _, _⟩ <;> rfl

theorem store_announce (warnings : List Warning) (events : List Event) (db : Db) :
    (perform (announce warnings events) db).2.store = db.store :=
  store_foldl_record (db.warn warnings) events

/-- What a write can do: replace the rows of its table, be refused with the rows as they were, or
break off. -/
theorem perform_write_cases {α : Type} (table : TableId)
    (change : TableRows → Except RowError (Except Breakdown (α × TableRows))) (db : Db) :
    (∃ result rows, change (db.rowsOf table) = .ok (.ok (result, rows)) ∧
      perform (write table change) db = (.ok result, db.withRows table rows)) ∨
    (∃ error later, perform (write table change) db = (.error (.error error), later) ∧
      (later = db ∨ later = db.withRows table (db.rowsOf table))) ∨
    (∃ fault later, perform (write table change) db = (.error (.fault fault), later)) := by
  rw [perform_write]
  split
  · exact .inr (.inl ⟨_, _, rfl, .inl rfl⟩)
  · split
    · rename_i result rows changed
      exact .inl ⟨result, rows, changed, rfl⟩
    · exact .inr (.inr ⟨_, _, rfl⟩)
    · exact .inr (.inl ⟨_, _, rfl, .inr rfl⟩)

theorem store_of_write_bind {α β : Type} {table : TableId}
    {change : TableRows → Except RowError (Except Breakdown (α × TableRows))} {next : α → Work β}
    (quiet : ∀ result state, (perform (next result) state).2.store = state.store)
    (whole : IsWhole (perform (write table change >>= next) db).1) :
    (perform (write table change >>= next) db).2.store = db.store ∨
      (perform (write table change >>= next) db).2.store =
        (db.withRows table (db.rowsOf table)).store ∨
      ∃ result rows, change (db.rowsOf table) = .ok (.ok (result, rows)) ∧
        (perform (write table change >>= next) db).2.store = (db.withRows table rows).store := by
  rw [perform_bind] at whole ⊢
  rcases perform_write_cases table change db with
    ⟨result, rows, changed, wrote⟩ | ⟨error, later, refused, rfl | rfl⟩ | ⟨fault, between, broken⟩
  · rw [wrote]
    exact .inr (.inr ⟨result, rows, changed, quiet _ _⟩)
  · rw [refused]
    exact .inl rfl
  · rw [refused]
    exact .inr (.inl rfl)
  · rw [broken] at whole
    exact absurd rfl (whole fault)

theorem perform_return_store {α : Type} (warnings : List Warning) (events : List Event) (answer : α)
    (db : Db) :
    (perform (do
      announce warnings events
      return answer) db).2.store = db.store := by
  rw [perform_bind]
  exact store_announce warnings events db

theorem changes_create {input : RowInput} (whole : IsWhole (perform (create schema input) db).1) :
    schema.Changes db (perform (create schema input) db).2 := by
  unfold create at whole ⊢
  rw [perform_bind, perform_ofExcept] at whole ⊢
  cases resolved : schema.resolveCells input.cells with
  | error failure => exact .inl rfl
  | ok cells =>
    rw [resolved] at whole
    dsimp only at whole ⊢
    rw [perform_getThe] at whole ⊢
    rcases store_of_write_bind (fun _ _ => perform_return_store _ _ _ _) whole with
      same | kept | ⟨result, rows, changed, stored⟩
    · exact .inl same
    · exact .inr ⟨_, .refused, kept⟩
    · exact .inr ⟨rows, .create resolved (Except.ok.inj changed), stored⟩

theorem changes_update {id : RowId} {input : RowInput}
    (whole : IsWhole (perform (update schema id input) db).1) :
    schema.Changes db (perform (update schema id input) db).2 := by
  unfold update at whole ⊢
  rw [perform_bind, perform_ofExcept] at whole ⊢
  cases resolved : schema.resolveCells input.cells with
  | error failure => exact .inl rfl
  | ok cells =>
    rw [resolved] at whole
    dsimp only at whole ⊢
    rw [perform_getThe] at whole ⊢
    rcases store_of_write_bind (fun _ _ => perform_return_store _ _ _ _) whole with
      same | kept | ⟨result, rows, changed, stored⟩
    · exact .inl same
    · exact .inr ⟨_, .refused, kept⟩
    · obtain ⟨old, existing, changed⟩ := bind_eq_ok.1 changed
      exact .inr ⟨rows, .update resolved (TableRows.existing_eq_ok.1 existing)
        (Except.ok.inj changed), stored⟩

theorem changes_updateRecord {record : Record} {input : RowInput}
    (whole : IsWhole (perform (updateRecord schema record input) db).1) :
    schema.Changes db (perform (updateRecord schema record input) db).2 := by
  unfold updateRecord at whole ⊢
  dsimp only at whole ⊢
  split at whole
  · rename_i foreign
    rw [if_pos foreign]
    exact .inl rfl
  · rename_i own
    rw [if_neg own]
    exact changes_update whole

theorem changes_delete {id : RowId} (whole : IsWhole (perform (delete schema id) db).1) :
    schema.Changes db (perform (delete schema id) db).2 := by
  unfold delete at whole ⊢
  rcases store_of_write_bind (fun _ _ => store_announce _ _ _) whole with
    same | kept | ⟨result, rows, changed, stored⟩
  · exact .inl same
  · exact .inr ⟨_, .refused, kept⟩
  · obtain ⟨old, existing, changed⟩ := bind_eq_ok.1 changed
    cases changed
    exact .inr ⟨_, .delete old.id, stored⟩

theorem changes_reconcile (whole : IsWhole (perform (reconcile schema) db).1) :
    schema.Changes db (perform (reconcile schema) db).2 := by
  unfold reconcile at whole ⊢
  rcases store_of_write_bind (fun _ _ => perform_return_store _ _ _ _) whole with
    same | kept | ⟨result, rows, changed, stored⟩
  · exact .inl same
  · exact .inr ⟨_, .refused, kept⟩
  · obtain ⟨⟨changed, warnings, later⟩, done, same⟩ := bind_eq_ok.1 (Except.ok.inj changed)
    cases same
    exact .inr ⟨_, .reconcile done, stored⟩

end Db

theorem RowCall.changes {schema : Schema} {db : Db} (call : RowCall)
    (whole : IsWhole (call.perform schema db).1) : schema.Changes db (call.perform schema db).2 := by
  unfold perform work at whole ⊢
  cases call with
  | create input =>
    dsimp only at whole ⊢
    rw [Db.perform_discard] at whole ⊢
    exact Db.changes_create whole.of_map
  | update id input =>
    dsimp only at whole ⊢
    rw [Db.perform_discard] at whole ⊢
    exact Db.changes_update whole.of_map
  | updateRecord record input =>
    dsimp only at whole ⊢
    rw [Db.perform_discard] at whole ⊢
    exact Db.changes_updateRecord whole.of_map
  | delete id => exact Db.changes_delete whole
  | reconcile =>
    dsimp only at whole ⊢
    rw [Db.perform_discard] at whole ⊢
    exact Db.changes_reconcile whole.of_map

/-! Rows of a store after a call: each was there before or was just computed. -/

namespace TableRows

variable {rows later : TableRows} {row : Row}

theorem mem_put {new : Row} (member : row ∈ (rows.put new).values) : row = new ∨ row ∈ rows.values := by
  obtain ⟨entry, inside, rfl⟩ := List.mem_map.1 member
  rcases IdMap.mem_of_mem_insertEntry inside with rfl | earlier
  · exact .inl rfl
  · exact .inr (List.mem_map_of_mem earlier)

theorem mem_delete {id : RowId} (member : row ∈ (rows.delete id).values) : row ∈ rows.values := by
  obtain ⟨entry, inside, rfl⟩ := List.mem_map.1 member
  exact List.mem_map_of_mem (List.mem_filter.1 inside).1

theorem of_reconcileRows {whole : Schema} {stored : List Row}
    {results : List (Row × Row × Computation)} (done : reconcileRows whole stored = .ok results) :
    List.Forall₂ (fun row result => result.1 = row ∧
      reconciled whole row = .ok (result.2.1, result.2.2)) stored results := by
  induction stored generalizing results with
  | nil =>
    cases done
    exact .nil
  | cons row rest ih =>
    unfold reconcileRows at done
    obtain ⟨⟨next, computation⟩, here, done⟩ := bind_eq_ok.1 done
    obtain ⟨others, later, same⟩ := bind_eq_ok.1 done
    cases same
    exact .cons ⟨rfl, here⟩ (ih (mapError_eq_ok.1 later))

theorem mem_putAll {changed : List (Row × Computation)}
    (member : row ∈ (changed.foldl (fun table (row, _) => table.put row) rows).values) :
    row ∈ rows.values ∨ ∃ computation, (row, computation) ∈ changed := by
  induction changed generalizing rows with
  | nil => exact .inl member
  | cons entry rest ih =>
    have later : row ∈ (rest.foldl (fun table (row, _) => table.put row) (rows.put entry.1)).values :=
      member
    rcases ih later with earlier | ⟨computation, inside⟩
    · rcases mem_put earlier with rfl | stored
      · exact .inr ⟨entry.2, List.mem_cons_self⟩
      · exact .inl stored
    · exact .inr ⟨computation, List.mem_cons_of_mem _ inside⟩

theorem of_reconcile {whole : Schema} {changed : List (Row × Computation)} {warnings : List Warning}
    (done : rows.reconcile whole = .ok (changed, warnings, later)) (member : row ∈ later.values) :
    row ∈ rows.values ∨
      ∃ old ∈ rows.values, ∃ computation, reconciled whole old = .ok (row, computation) := by
  unfold reconcile at done
  obtain ⟨results, run, same⟩ := bind_eq_ok.1 done
  cases same
  rcases mem_putAll member with earlier | ⟨computation, inside⟩
  · exact .inl earlier
  · obtain ⟨⟨old, _⟩, among, same⟩ := List.mem_map.1 inside
    cases same
    obtain ⟨stored, kept, rfl, done⟩ :=
      exists_of_mem_of_forall₂ (of_reconcileRows run) (List.mem_filter.1 among).1
    exact .inr ⟨_, kept, computation, done⟩

end TableRows

/-- A property of the cells of a row that every computation through the schema's writes establishes,
given that the row had it before. -/
structure Schema.Keeps (schema : Schema) (Holds : TableId → RowId → Cells → Prop) : Prop where
  create : ∀ {given cells row computation}, schema.resolveCells given = .ok cells →
    compute schema.whole row ((TableRows.initialCells schema.whole.columns).insertAll cells) =
      .ok computation → Holds schema.table row computation.cells
  update : ∀ {given cells row old computation}, Holds schema.table row old →
    schema.resolveCells given = .ok cells →
    compute schema.whole row (old.insertAll cells) = .ok computation →
    Holds schema.table row computation.cells
  reconcile : ∀ {row old computation}, Holds schema.table row old →
    compute schema.whole row (old.filter fun entry => schema.whole.isTableField entry.1) =
      .ok computation → Holds schema.table row computation.cells

section
variable {Holds : TableId → RowId → Cells → Prop} {schema : Schema} {rows later : TableRows}

theorem Schema.Keeps.writes (keeps : schema.Keeps Holds) (wrote : schema.Writes rows later)
    (before : ∀ row ∈ rows.values, Holds schema.table row.id row.cells) :
    ∀ row ∈ later.values, Holds schema.table row.id row.cells := by
  intro row member
  cases wrote with
  | create resolved done =>
    obtain ⟨_, run, _, same, rfl⟩ := TableRows.of_create done
    rcases TableRows.mem_put member with rfl | earlier
    · rw [same]
      exact keeps.create resolved run
    · exact before row earlier
  | update resolved found done =>
    obtain ⟨run, rfl, rfl⟩ := TableRows.of_update done
    rcases TableRows.mem_put member with rfl | earlier
    · have held := before _ (TableRows.mem_of_find? found).1
      exact keeps.update held resolved run
    · exact before row earlier
  | delete id => exact before row (TableRows.mem_delete member)
  | refused => exact before row member
  | reconcile done =>
    rcases TableRows.of_reconcile done member with earlier | ⟨old, stored, computation, done⟩
    · exact before row earlier
    · unfold TableRows.reconciled at done
      obtain ⟨computed, run, same⟩ := bind_eq_ok.1 done
      cases same
      exact keeps.reconcile (before old stored) run

theorem Store.rowsOf_insert (store : Store) (table other : TableId) (rows : TableRows) :
    Store.rowsOf { store with tables := store.tables.insert table rows } other =
      if other = table then rows else store.rowsOf other := by
  unfold rowsOf
  rw [IdMap.find?_insert]
  split <;> rfl

theorem Store.rowsOf_erase (store : Store) (table other : TableId) :
    Store.rowsOf { store with tables := store.tables.erase table } other =
      if other = table then default else store.rowsOf other := by
  unfold rowsOf
  rw [IdMap.find?_erase]
  split <;> rfl

theorem Db.perform_dropTable (table : TableId) (db : Db) :
    perform (dropTable table) db =
      if db.store.isClosed then (.error (.error .storeClosed), db)
      else (.ok (db.rowCount table),
        { db with store := { db.store with tables := db.store.tables.erase table } }) := by
  unfold dropTable
  rw [perform_getThe]
  change perform (if _ then _ else _) db = _
  split <;> rfl

namespace Db.Reached
variable {Through : Schema → Prop} {db : Db}

theorem isOpen (reached : Reached Through db) : db.store.isClosed = false := by
  induction reached with
  | start empty => rw [empty]
  | call call _ _ whole ih =>
    rcases call.changes whole with same | ⟨rows, _, stored⟩
    · rw [same]
      exact ih
    · rw [stored]
      exact ih
  | drop table _ ih =>
    rw [perform_dropTable, ih]
    exact ih
  | elsewhere _ same ih =>
    rw [same]
    exact ih

/-- What every schema's writes keep to holds of every row of every state that they reach. -/
theorem holds (keeps : ∀ schema, Through schema → schema.Keeps Holds) (reached : Reached Through db) :
    ∀ table, ∀ row ∈ (db.rowsOf table).values, Holds table row.id row.cells := by
  induction reached with
  | start empty =>
    intro table row member
    unfold rowsOf at member
    rw [empty] at member
    cases member
  | @call db schema call _ through whole ih =>
    intro table row member
    rcases call.changes whole with same | ⟨rows, wrote, stored⟩
    · unfold rowsOf at member
      rw [same] at member
      exact ih table row member
    · unfold rowsOf at member
      rw [stored, Store.rowsOf_insert] at member
      split at member
      · rename_i own
        subst own
        exact (keeps schema through).writes wrote (ih schema.table) row member
      · exact ih table row member
  | @drop db dropped reached ih =>
    intro table row member
    rw [perform_dropTable, reached.isOpen, if_neg Bool.false_ne_true] at member
    change row ∈ (Store.rowsOf { db.store with tables := db.store.tables.erase dropped } table).values
      at member
    rw [Store.rowsOf_erase] at member
    split at member
    · cases member
    · exact ih table row member
  | elsewhere _ same ih =>
    intro table row member
    unfold rowsOf at member
    rw [same] at member
    exact ih table row member

theorem of_create {schema : Schema} {input : RowInput} {later : Db} {record : Record}
    (reached : Reached Through db) (through : Through schema)
    (done : perform (create schema input) db = (.ok record, later)) : Reached Through later := by
  have called : (RowCall.create input).perform schema db = (.ok (), later) := by
    unfold RowCall.perform RowCall.work
    dsimp only
    rw [perform_discard, done]
    rfl
  have next := Reached.call (.create input) reached through
  rw [called] at next
  exact next nofun

end Db.Reached

end

end Tabula
