import Tabula.Proofs.Db.Refused
import Tabula.Proofs.Db.Stamps

/-!
Runs of operations and the changes of rows that they answer to have made. Whatever is asked in between,
the rows of each table are told by the changes of that table alone.
-/
namespace Tabula

namespace Operation

/-- It drops no table, and no write breaks off. -/
def IsOrdinary {α : Type} : Operation α → α → Prop
  | create _ _, answer => IsWhole answer
  | update _ _ _, answer => IsWhole answer
  | updateRecord _ _ _, answer => IsWhole answer
  | delete _ _, answer => IsWhole answer
  | reconcile _, answer => IsWhole answer
  | dropTable _, _ => False
  | _, _ => True

/-- The change of a row that the answer tells of. A row that is created without an order is given the next
one, and the time is that of the clock. -/
def change? {α : Type} : Operation α → α → Db → Option (TableId × RowChange)
  | create schema input, .ok record, db =>
    some (schema.table, .create record.id
      (input.order.or (db.rowsOf schema.table).nextOrder.toOption) db.clock)
  | update schema id input, .ok _, db => some (schema.table, .update id input.order db.clock)
  | updateRecord schema record input, .ok _, db =>
    some (schema.table, .update record.id input.order db.clock)
  | delete schema id, .ok _, _ => some (schema.table, .delete id)
  | _, _, _ => none

end Operation

namespace Db

/-- At most the change is made, and only to the rows of its table. -/
inductive Step (db later : Db) : Option (TableId × RowChange) → Prop
  | quiet (same : ∀ table, (db.rowsOf table).SameStamps (later.rowsOf table)) : Step db later none
  | change {table : TableId} {change : RowChange}
      (makes : (db.rowsOf table).Makes (later.rowsOf table) change)
      (others : ∀ other, other ≠ table → later.rowsOf other = db.rowsOf other) :
      Step db later (some (table, change))

section
variable {db later : Db}

theorem step_of_same (same : ∀ table, later.rowsOf table = db.rowsOf table) : Step db later none := by
  refine .quiet fun table => ?_
  rw [same]
  exact .refl _

theorem step_of_store (same : later.store = db.store) : Step db later none :=
  step_of_same fun table => by rw [rowsOf, same]; rfl

theorem step_of_work {α : Type} {table : TableId} {work : Work α} (spares : Spares table work)
    (whole : IsWhole (perform work db).1)
    (change? : Except (Failure RowError) α → Option (TableId × RowChange))
    (refused : ∀ failure, change? (.error failure) = none)
    (done : ∀ answer later, perform work db = (.ok answer, later) →
      Step db later (change? (.ok answer))) :
    Step db (perform work db).2 (change? (perform work db).1) := by
  cases ran : perform work db with
  | mk outcome later =>
    cases outcome with
    | ok answer => exact done answer later ran
    | error failure =>
      rw [refused]
      cases failure with
      | error error =>
        rcases spares db error later ran with rfl | rfl
        · exact step_of_store rfl
        · exact step_of_same (Alike.withOwnRows db table).rowsOf
      | fault fault =>
        rw [ran] at whole
        exact absurd rfl (whole fault)

theorem rowsOf_of_writeRow {schema : Schema} {kind : WriteKind}
    {change : TableRows → Except RowError (Except Breakdown ((Row × Computation) × TableRows))}
    {record : Record} (done : writeRow schema kind change db = (.ok record, later)) {other : TableId}
    (different : other ≠ schema.table) : later.rowsOf other = db.rowsOf other := by
  unfold writeRow at done
  split at done
  · cases done
  · rename_i row computation between wrote
    cases done
    obtain ⟨rows, _, rfl⟩ := eq_of_perform_write wrote
    rw [rowsOf_record, rowsOf_warn]
    exact (rowsOf_withRows db schema.table other rows).trans (if_neg different)

theorem step_of_create {schema : Schema} {input : RowInput} {record : Record}
    (done : perform (create schema input) db = (.ok record, later)) :
    Step db later (some (schema.table, .create record.id
      (input.order.or (db.rowsOf schema.table).nextOrder.toOption) db.clock)) := by
  rw [perform_create] at done
  split at done
  · cases done
  · obtain ⟨computation, changed⟩ := of_writeRow done
    have makes := TableRows.makes_create (Except.ok.inj changed)
    exact .change makes fun _ => rowsOf_of_writeRow done

theorem step_of_update {schema : Schema} {id : RowId} {input : RowInput} {record : Record}
    (done : perform (update schema id input) db = (.ok record, later)) :
    Step db later (some (schema.table, .update id input.order db.clock)) := by
  rw [perform_update] at done
  split at done
  · cases done
  · obtain ⟨computation, changed⟩ := of_writeRow done
    obtain ⟨old, existing, changed⟩ := bind_eq_ok.1 changed
    have found := TableRows.existing_eq_ok.1 existing
    have makes := TableRows.makes_update found (Except.ok.inj changed)
    exact .change makes fun _ => rowsOf_of_writeRow done

theorem step_of_updateRecord {schema : Schema} {record updated : Record} {input : RowInput}
    (done : perform (updateRecord schema record input) db = (.ok updated, later)) :
    Step db later (some (schema.table, .update record.id input.order db.clock)) := by
  unfold updateRecord at done
  dsimp only at done
  split at done
  · cases done
  · exact step_of_update done

theorem store_of_write_ok {α β : Type} {table : TableId}
    {change : TableRows → Except RowError (Except Breakdown (α × TableRows))} {next : α → Work β}
    (quiet : ∀ result state, (perform (next result) state).2.store = state.store) {answer : β}
    (done : perform (write table change >>= next) db = (.ok answer, later)) :
    ∃ result rows, change (db.rowsOf table) = .ok (.ok (result, rows)) ∧
      ∀ other, later.rowsOf other = (db.withRows table rows).rowsOf other := by
  rw [perform_bind] at done
  split at done
  · rename_i result between wrote
    obtain ⟨rows, changed, rfl⟩ := eq_of_perform_write wrote
    have store := quiet result (db.withRows table rows)
    unfold withRows at store
    rw [done] at store
    refine ⟨result, rows, changed, fun other => ?_⟩
    unfold rowsOf
    rw [store]
    rfl
  · cases done

theorem step_of_delete {schema : Schema} {id : RowId} {answer : Unit}
    (done : perform (delete schema id) db = (.ok answer, later)) :
    Step db later (some (schema.table, .delete id)) := by
  obtain ⟨_, rows, changed, stored⟩ := store_of_write_ok (fun _ _ => store_announce _ _ _) done
  obtain ⟨old, existing, changed⟩ := bind_eq_ok.1 changed
  cases changed
  have found := TableRows.existing_eq_ok.1 existing
  obtain ⟨_, rfl⟩ := TableRows.mem_of_find? found
  constructor
  · rw [stored, rowsOf_withRows, if_pos rfl]
    exact TableRows.makes_delete found
  · intro other different
    rw [stored, rowsOf_withRows, if_neg different]

theorem step_of_reconcile {schema : Schema} {answer : Nat}
    (done : perform (reconcile schema) db = (.ok answer, later)) : Step db later none := by
  obtain ⟨_, rows, changed, stored⟩ :=
    store_of_write_ok (fun _ _ => perform_return_store _ _ _ _) done
  obtain ⟨_, reconciled, same⟩ := bind_eq_ok.1 (Except.ok.inj changed)
  cases same
  refine .quiet fun table => ?_
  rw [stored, rowsOf_withRows]
  split
  · rename_i own
    subst own
    exact TableRows.sameStamps_reconcile reconciled
  · exact .refl _

theorem store_scan (query : Query) (db : Db) : (perform (scan query) db).2.store = db.store := by
  obtain ⟨_, _, counted⟩ := counts_scan query db
  rw [counted]

theorem store_bind_pure {ε α β : Type} {first : ExceptT ε (StateM Db) α} (answer : α → β)
    (quiet : (perform first db).2.store = db.store) :
    (perform (first >>= fun value => pure (answer value)) db).2.store = db.store := by
  rw [perform_bind]
  split <;>
  · rename_i ran
    rw [ran] at quiet
    exact quiet

theorem store_execute (query : Query) (db : Db) : (perform (execute query) db).2.store = db.store :=
  store_bind_pure _ (store_scan query db)

theorem store_page (query : Query) (offset : Nat) (limit : Option UInt32) (db : Db) :
    (perform (page query offset limit) db).2.store = db.store := by
  unfold page
  rw [perform_getThe, perform_bind, perform_ofExcept]
  cases db.config.pageSize limit with
  | error fault => rfl
  | ok size => exact store_bind_pure _ (store_scan query db)

theorem store_all (schema : Schema) (db : Db) : (perform (all schema) db).2.store = db.store :=
  store_bind_pure _ (store_execute _ db)

end
end Db

/-- Every ordinary operation makes the change that its answer tells of, and no other. -/
theorem Operation.step {α : Type} {db : Db} (operation : Operation α)
    (ordinary : operation.IsOrdinary (operation.perform db).1) :
    db.Step (operation.perform db).2 (operation.change? (operation.perform db).1 db) := by
  cases operation with
  | create schema input =>
    exact Db.step_of_work (Db.spares_create schema input) ordinary
      (fun answer => (create schema input).change? answer db) (fun _ => rfl)
      fun _ _ => Db.step_of_create
  | update schema id input =>
    exact Db.step_of_work (Db.spares_update schema id input) ordinary
      (fun answer => (update schema id input).change? answer db) (fun _ => rfl)
      fun _ _ => Db.step_of_update
  | updateRecord schema record input =>
    exact Db.step_of_work (Db.spares_updateRecord schema record input) ordinary
      (fun answer => (updateRecord schema record input).change? answer db) (fun _ => rfl)
      fun _ _ => Db.step_of_updateRecord
  | delete schema id =>
    exact Db.step_of_work (Db.spares_delete schema id) ordinary
      (fun answer => (delete schema id).change? answer db) (fun _ => rfl)
      fun _ _ => Db.step_of_delete
  | reconcile schema =>
    exact Db.step_of_work (Db.spares_reconcile schema) ordinary
      (fun answer => (reconcile schema).change? answer db) (fun _ => rfl)
      fun _ _ => Db.step_of_reconcile
  | dropTable table => exact absurd ordinary id
  | execute query => exact Db.step_of_store (Db.store_execute query db)
  | page query offset limit => exact Db.step_of_store (Db.store_page query offset limit db)
  | all schema => exact Db.step_of_store (Db.store_all schema db)
  | compose | get | count | rowCount | config | clock | setClock | metrics | resetMetrics | capture
  | takeWarnings => exact Db.step_of_store rfl

namespace Db

abbrev Changes := List (TableId × RowChange)

def Changes.of (changes : Changes) (table : TableId) : List RowChange :=
  (changes.filter (·.1 = table)).map Prod.snd

/-- The changes of rows that a run makes from an empty store, whatever it is asked but to drop a table, as
long as no write breaks off. -/
inductive Run : Db → Changes → Prop
  | start {db : Db} (empty : db.store = {}) : Run db []
  | ask {db : Db} {changes : Changes} {α : Type} (operation : Operation α) (run : Run db changes)
      (ordinary : operation.IsOrdinary (operation.perform db).1) :
      Run (operation.perform db).2
        (changes ++ (operation.change? (operation.perform db).1 db).toList)

section
variable {db : Db} {changes : Changes}

theorem Changes.of_append (changes later : Changes) (table : TableId) :
    Changes.of (changes ++ later) table = changes.of table ++ later.of table := by
  unfold Changes.of
  rw [List.filter_append, List.map_append]

/-- The rows of a table are told by its own changes, as long as there are numbers for them. -/
theorem Run.records (run : Run db changes) {table : TableId}
    (few : (RowChange.created (changes.of table)).length < UInt64.size) :
    (db.rowsOf table).Records (changes.of table) := by
  induction run with
  | start empty =>
    unfold rowsOf
    rw [empty]
    exact .empty
  | @ask db changes α operation run ordinary ih =>
    rw [Changes.of_append] at few ⊢
    have before : (RowChange.created (changes.of table)).length < UInt64.size := by
      unfold RowChange.created at few ⊢
      rw [List.filterMap_append, List.length_append] at few
      omega
    have records := ih before
    have step := operation.step ordinary
    generalize operation.change? (operation.perform db).1 db = change at step few ⊢
    cases step with
    | quiet same =>
      have none : Changes.of none.toList table = [] := rfl
      rw [none, List.append_nil]
      exact records.of_sameStamps (same table)
    | @change place change makes others =>
      by_cases own : place = table
      · subst own
        have alone : Changes.of (some (place, change)).toList place = [change] := by
          simp [Changes.of]
        rw [alone] at few ⊢
        exact records.of_makes makes few
      · have elsewhere : Changes.of (some (place, change)).toList table = [] := by
          simp [Changes.of, own]
        rw [elsewhere, List.append_nil, others table (Ne.symm own)]
        exact records

end
end Db

/-- In every run the rows created in a table count up from one, whatever is deleted and whatever is done
to other tables. The rows of the table are those created and not deleted, each under its own
identifier, with the time of its creation, the time of its latest write and the latest order that it was
given. -/
theorem rows_of_run {db : Db} {changes : Db.Changes} (run : db.Run changes) (table : TableId)
    (few : (RowChange.created (changes.of table)).length < UInt64.size) :
    (∀ index id, (RowChange.created (changes.of table))[index]? = some id →
      id.val.toNat = index + 1) ∧
    (∀ id, (∃ row, (db.rowsOf table).find? id = some row) ↔
      id ∈ RowChange.created (changes.of table) ∧ id ∉ RowChange.deleted (changes.of table)) ∧
    ∀ id row, (db.rowsOf table).find? id = some row → row.id = id ∧
      RowChange.latest (RowChange.createdOn? id) (changes.of table) = some row.createdOn ∧
      RowChange.latest (RowChange.updatedOn? id) (changes.of table) = some row.updatedOn ∧
      RowChange.latest (RowChange.order? id) (changes.of table) = some row.order := by
  have records := run.records few
  refine ⟨records.numbered, ?_, ?_⟩
  · intro id
    rw [← records.stored_iff, TableRows.stamp?, Option.isSome_map, Option.isSome_iff_exists]
  · intro id row found
    have stamped : (db.rowsOf table).stamp? id = some row.stamp := by
      rw [TableRows.stamp?, found]
      rfl
    have source := records.stamped id row.stamp stamped
    exact ⟨(TableRows.mem_of_find? found).2, source.createdOn, source.updatedOn, source.order⟩

theorem bare_run : ∃ (db : Db) (changes : Db.Changes), db.Run changes ∧
    RowChange.created (changes.of ⟨3⟩) = [⟨1⟩, ⟨2⟩, ⟨3⟩] ∧
    RowChange.deleted (changes.of ⟨3⟩) = [⟨2⟩] ∧
    RowChange.latest (RowChange.order? ⟨1⟩) (changes.of ⟨3⟩) = some .zero := by
  have run : Db.Run { clock := .epoch } [] := .start rfl
  have run := run.ask (.create bareSchema {}) nofun
  have run := run.ask (.create bareSchema {}) nofun
  have run := run.ask (.delete bareSchema ⟨2⟩) nofun
  have run := run.ask (.update bareSchema ⟨2⟩ {}) nofun
  have run := run.ask (.create bareSchema {}) nofun
  have run := run.ask (.update bareSchema ⟨1⟩ { order := some .zero }) nofun
  exact ⟨_, _, run, rfl, rfl, rfl⟩

theorem rows_of_bare_run : ∃ (db : Db) (changes : Db.Changes), db.Run changes ∧
    (RowChange.created (changes.of ⟨3⟩)).length < UInt64.size ∧
    (¬ ∃ row, (db.rowsOf ⟨3⟩).find? ⟨2⟩ = some row) ∧
    ∃ row, (db.rowsOf ⟨3⟩).find? ⟨1⟩ = some row ∧ row.order = .zero := by
  obtain ⟨db, changes, run, created, deleted, moved⟩ := bare_run
  have few : (RowChange.created (changes.of ⟨3⟩)).length < UInt64.size := by
    rw [created]
    decide
  obtain ⟨_, stored, told⟩ := rows_of_run run ⟨3⟩ few
  rw [created, deleted] at stored
  obtain ⟨row, found⟩ := (stored ⟨1⟩).2 (by decide)
  obtain ⟨_, _, _, order⟩ := told ⟨1⟩ row found
  rw [moved] at order
  refine ⟨db, changes, run, few, ?_, row, found, (Option.some.inj order).symm⟩
  rw [stored ⟨2⟩]
  decide

end Tabula
