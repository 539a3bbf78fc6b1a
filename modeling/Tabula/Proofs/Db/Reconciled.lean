import Tabula.Proofs.Db.Alike
import Tabula.Proofs.Db.Execute
import Tabula.Proofs.Db.Reconcile
import Tabula.Proofs.Db.Stamps

/-!
What reconciling a table touches: in each row the formula cells and what is left of removed fields, the
counters and the log; whatever fields the table had when its rows were written.
-/
namespace Tabula

/-- The row before and after its table was reconciled. Plain cells stay as they are, the absent ones
absent; what the formulas leave is not said here. -/
structure Table.Reconciles (table : Table) (before after : Row) : Prop where
  id : after.id = before.id
  stamp : after.stamp = before.stamp
  plain : ∀ field ∈ table.fields, field.kind.isComputed = false →
    after.cells.find? field.id = before.cells.find? field.id
  within : ∀ id, (after.cells.find? id).isSome = true → id ∈ table.fields.map Field.id
  filled : ∀ field ∈ table.fields, field.kind.isComputed = true →
    (after.cells.find? field.id).isSome = true

/-- The events are told of, in their order, where events go. -/
structure Db.Tells (db later : Db) (events : List Event) : Prop where
  captured : later.captured = db.captured.map (· ++ events)
  metrics : later.metrics =
    if db.captured.isSome then db.metrics else events.foldl Metrics.record db.metrics

theorem Row.isSome_of_sameAs {left right : Row} (same : left.sameAs right = true) (id : FieldId) :
    (left.cells.find? id).isSome = true ↔ (right.cells.find? id).isSome = true := by
  unfold sameAs at same
  rw [Bool.and_eq_true] at same
  exact IdMap.isSome_of_sameBy same.2 id

section
variable {table : Table} {options : ComposeOptions} {schema : Schema} {row next : Row}
  {computation : Computation}

theorem reconciles_next (distinct : (table.fields.map Field.id).Nodup)
    (composed : Schema.compose table options = .ok schema)
    (done : TableRows.reconciled schema.whole row = .ok (next, computation)) :
    table.Reconciles row next := by
  obtain ⟨computation, run, same⟩ := bind_eq_ok.1 done
  cases same
  constructor
  · rfl
  · rfl
  -- The pass drops what is no field of the table, and then writes formula cells alone.
  · intro field member stored
    have unwritten := not_mem_formulaIds_whole composed distinct member stored
    have current := (isTableField_iff composed).2 (List.mem_map_of_mem (f := Field.id) member)
    dsimp only
    rw [find?_of_computed run unwritten, IdMap.find?_filter, if_pos current]
  · intro id found
    rcases (isSome_of_computed run).1 found with earlier | computed
    · rw [IdMap.find?_filter] at earlier
      split at earlier
      · rename_i current
        exact (isTableField_iff composed).1 current
      · cases earlier
    · rw [← Schema.map_id_whole composed]
      exact mem_ids_of_mem_formulaIds computed
  · intro field member computed
    obtain ⟨column, inside, rfl⟩ := Schema.exists_column composed member
    exact (isSome_of_computed run).2
      (.inr (List.mem_map.2 ⟨column, List.mem_filter.2 ⟨inside, computed⟩, rfl⟩))

theorem reconciles_self (distinct : (table.fields.map Field.id).Nodup)
    (composed : Schema.compose table options = .ok schema)
    (done : TableRows.reconciled schema.whole row = .ok (next, computation))
    (same : next.sameAs row = true) : table.Reconciles row row := by
  have other := reconciles_next distinct composed done
  constructor
  · rfl
  · rfl
  · exact fun _ _ _ => rfl
  · intro id found
    exact other.within id ((Row.isSome_of_sameAs same id).2 found)
  · intro field member computed
    exact (Row.isSome_of_sameAs same field.id).1 (other.filled field member computed)

end

namespace TableRows
variable {rows later : TableRows} {whole : Schema} {changed : List (Row × Computation)}

theorem find?_putAll_of_not_mem {id : RowId} (other : id ∉ changed.map (·.1.id)) :
    (changed.foldl (fun table (row, _) => table.put row) rows).find? id = rows.find? id := by
  induction changed generalizing rows with
  | nil => rfl
  | cons entry rest ih =>
    rw [List.map_cons, List.mem_cons, not_or] at other
    exact (ih other.2).trans (find?_put_of_ne rows other.1)

theorem find?_putAll_of_mem (distinct : (changed.map (·.1.id)).Nodup) {entry : Row × Computation}
    (member : entry ∈ changed) :
    (changed.foldl (fun table (row, _) => table.put row) rows).find? entry.1.id = some entry.1 := by
  induction changed generalizing rows with
  | nil => cases member
  | cons first rest ih =>
    obtain ⟨apart, others⟩ := List.nodup_cons.1 distinct
    rcases List.mem_cons.1 member with rfl | later
    · exact (find?_putAll_of_not_mem apart).trans (find?_put rows entry.1)
    · exact ih others later

/-- A row that would be the same by value stays, and any other becomes what it is reconciled to. -/
def kept (row next : Row) : Row := if next.sameAs row then row else next

theorem sameAs_kept (row next : Row) : (kept row next).sameAs row = next.sameAs row := by
  unfold kept
  split
  · rename_i same
    rw [same]
    exact Row.sameAs_self row
  · rfl

theorem map_fst_results {stored : List Row} {results : List (Row × Row × Computation)}
    (run : reconcileRows whole stored = .ok results) : results.map Prod.fst = stored := by
  have same : stored.map id = results.map Prod.fst :=
    map_eq_of_forall₂ (of_reconcileRows run) fun row result related => related.1.symm
  rw [List.map_id] at same
  exact same.symm

theorem find?_of_results {results : List (Row × Row × Computation)}
    (run : reconcileRows whole rows.values = .ok results) {result : Row × Row × Computation}
    (member : result ∈ results) :
    (((results.filter fun (row, next, _) => !next.sameAs row).map (·.2)).foldl
      (fun table (row, _) => table.put row) rows).find? result.1.id =
        some (kept result.1 result.2.1) := by
  have ids : ∀ result ∈ results, result.2.1.id = result.1.id := by
    intro result member
    obtain ⟨row, _, rfl, done⟩ := exists_of_mem_of_forall₂ (of_reconcileRows run) member
    rw [of_reconciled done]
  have distinct : (results.map fun result => result.2.1.id).Nodup := by
    have same : (results.map fun result => result.2.1.id) = rows.values.map Row.id := by
      rw [← map_fst_results run, List.map_map]
      exact List.map_congr_left ids
    rw [same]
    exact rows.nodup_ids
  unfold kept
  rw [← ids result member]
  split
  · rename_i same
    have stored : result.1 ∈ rows.values := by
      rw [← map_fst_results run]
      exact List.mem_map_of_mem member
    rw [find?_putAll_of_not_mem, ids result member, find?_of_mem stored]
    -- A changed row of this identifier would be this one, which is not among the changed ones.
    intro among
    simp only [List.map_map, List.mem_map, List.mem_filter, Function.comp_apply] at among
    obtain ⟨other, ⟨inside, changed⟩, sameId⟩ := among
    rw [List.inj_on_of_nodup_map distinct inside member sameId, same] at changed
    cases changed
  · rename_i changes
    have among : result.2 ∈ (results.filter fun (row, next, _) => !next.sameAs row).map (·.2) :=
      List.mem_map_of_mem (List.mem_filter.2 ⟨member, by simpa using changes⟩)
    apply find?_putAll_of_mem _ among
    rw [List.map_map]
    exact distinct.sublist (List.filter_sublist.map _)

theorem find?_of_reconcile {warnings : List Warning}
    (done : rows.reconcile whole = .ok (changed, warnings, later)) {row : Row}
    (member : row ∈ rows.values) : ∃ next computation,
      reconciled whole row = .ok (next, computation) ∧ later.find? row.id = some (kept row next) := by
  unfold reconcile at done
  obtain ⟨results, run, same⟩ := bind_eq_ok.1 done
  cases same
  rw [← map_fst_results run] at member
  obtain ⟨result, inside, rfl⟩ := List.mem_map.1 member
  obtain ⟨row, _, same, reconciled⟩ := exists_of_mem_of_forall₂ (of_reconcileRows run) inside
  exact ⟨_, _, same ▸ reconciled, find?_of_results run inside⟩

/-- Reconciling keeps the identifiers of rows, and what becomes of a row is within the frame. -/
theorem rel_of_reconcile {table : Table} {options : ComposeOptions} {schema : Schema}
    (distinct : (table.fields.map Field.id).Nodup)
    (composed : Schema.compose table options = .ok schema) {warnings : List Warning}
    (done : rows.reconcile schema.whole = .ok (changed, warnings, later)) (id : RowId) :
    Option.Rel table.Reconciles (rows.find? id) (later.find? id) := by
  cases found : rows.find? id with
  | none =>
    have stamp := (sameStamps_reconcile done).stamp? id
    unfold stamp? at stamp
    rw [found, Option.map_none, Option.map_eq_none_iff] at stamp
    rw [stamp]
    exact .none
  | some row =>
    obtain ⟨member, rfl⟩ := mem_of_find? found
    obtain ⟨next, computation, reconciled, stored⟩ := find?_of_reconcile done member
    rw [stored, kept]
    apply Option.Rel.some
    split
    · rename_i same
      exact reconciles_self distinct composed reconciled same
    · exact reconciles_next distinct composed reconciled

def differs (later : TableRows) (row : Row) : Bool := !(later.find? row.id).any (·.sameAs row)

theorem length_changed {warnings : List Warning}
    (done : rows.reconcile whole = .ok (changed, warnings, later)) :
    changed.length = rows.values.countP later.differs := by
  unfold reconcile at done
  obtain ⟨results, run, same⟩ := bind_eq_ok.1 done
  cases same
  rw [List.length_map, ← List.countP_eq_length_filter]
  conv => rhs; rw [← map_fst_results run]
  rw [List.countP_map]
  apply List.countP_congr
  intro result member
  unfold differs
  rw [Function.comp_apply, find?_of_results run member, Option.any_some, sameAs_kept]

end TableRows

namespace Db
variable {db later : Db} {schema : Schema}

theorem tells_foldl_record (db : Db) (events : List Event) :
    db.Tells (events.foldl record db) events := by
  induction events generalizing db with
  | nil => exact ⟨by simp, by simp⟩
  | cons event rest ih =>
    obtain ⟨captured, metrics⟩ := ih (db.record event)
    rw [List.foldl_cons]
    constructor
    · rw [captured]
      cases taken : db.captured <;> simp [record, taken]
    · rw [metrics]
      cases taken : db.captured <;> simp [record, taken]

/-- Reconciling a closed store is refused. An open one breaks off where the pass over the rows does, and
else the rows are replaced and the changed ones told of. -/
theorem perform_reconcile (schema : Schema) (db : Db) :
    (db.store.isClosed = true ∧ perform (reconcile schema) db = (.error (.error .storeClosed), db)) ∨
    (∃ broken later, (db.rowsOf schema.table).reconcile schema.whole = .error broken ∧
      perform (reconcile schema) db = (.error (.fault broken.fault), later)) ∨
    ∃ changed warnings rows later,
      (db.rowsOf schema.table).reconcile schema.whole = .ok (changed, warnings, rows) ∧
      perform (reconcile schema) db = (.ok changed.length, later) ∧
      (∀ other, later.rowsOf other = if other = schema.table then rows else db.rowsOf other) ∧
      db.Tells later (changed.map fun (_, computation) =>
        .rowWrite schema.table .reconcile computation.computed) := by
  unfold reconcile
  rw [perform_bind, perform_write]
  cases isOpen : db.store.isClosed with
  | true => exact .inl ⟨rfl, rfl⟩
  | false =>
    cases done : (db.rowsOf schema.table).reconcile schema.whole with
    | error broken => exact .inr (.inl ⟨broken, _, rfl, rfl⟩)
    | ok results =>
      obtain ⟨changed, warnings, rows⟩ := results
      refine .inr (.inr ⟨changed, warnings, rows, _, rfl, rfl, ?_, ?_⟩)
      · intro other
        unfold rowsOf
        rw [store_foldl_record]
        exact rowsOf_withRows db schema.table other rows
      · obtain ⟨captured, metrics⟩ := tells_foldl_record ((db.withRows schema.table rows).warn warnings)
          (changed.map fun (_, computation) => .rowWrite schema.table .reconcile computation.computed)
        exact ⟨captured, metrics⟩

end Db

/-- Reconciling a table through any of its schemas, if it does not break off, either is refused by a closed
store or leaves the identifiers, the places, the times and the plain cells of the rows as they are, takes
away the cells of removed fields, gives every formula a cell, and touches no other rows and no counter of
identifiers. It gives the number of rows that differ by value from what they were, and tells of each of
them once. The tables of a catalog have distinct identifiers by `Catalog.Reached.distinct`. -/
theorem reconcile_touches {table : Table} {options : ComposeOptions} {schema : Schema} {db : Db}
    (distinct : (table.fields.map Field.id).Nodup)
    (composed : Schema.compose table options = .ok schema)
    (whole : IsWhole (Db.perform (Db.reconcile schema) db).1) :
    (db.store.isClosed = true ∧
      Db.perform (Db.reconcile schema) db = (.error (.error .storeClosed), db)) ∨
    ∃ count later events, Db.perform (Db.reconcile schema) db = (.ok count, later) ∧
      (∀ id, Option.Rel table.Reconciles ((db.rowsOf table.id).find? id)
        ((later.rowsOf table.id).find? id)) ∧
      (later.rowsOf table.id).lastId = (db.rowsOf table.id).lastId ∧
      (∀ other, other ≠ table.id → later.rowsOf other = db.rowsOf other) ∧
      count = (db.rowsOf table.id).values.countP (later.rowsOf table.id).differs ∧
      events.length = count ∧
      (∀ event ∈ events, ∃ computed, event = .rowWrite table.id .reconcile computed) ∧
      db.Tells later events := by
  rw [← Schema.table_eq composed]
  rcases Db.perform_reconcile schema db with
    refused | ⟨broken, _, _, ran⟩ | ⟨changed, warnings, rows, later, done, ran, stored, told⟩
  · exact .inl refused
  · rw [ran] at whole
    exact absurd rfl (whole broken.fault)
  · have own : later.rowsOf schema.table = rows := by rw [stored, if_pos rfl]
    refine .inr ⟨_, later, _, ran, ?_, ?_, ?_, ?_, List.length_map _, ?_, told⟩
    · rw [own]
      exact TableRows.rel_of_reconcile distinct composed done
    · rw [own]
      exact (TableRows.sameStamps_reconcile done).lastId
    · intro other different
      rw [stored, if_neg different]
    · rw [own]
      exact TableRows.length_changed done
    · intro event member
      obtain ⟨⟨_, computation⟩, _, rfl⟩ := List.mem_map.1 member
      exact ⟨computation.computed, rfl⟩

/-! A row from before its table was changed: field 9 is gone by now, and field 4 held texts. -/

def revisedTable : Table where
  id := ⟨3⟩
  database := ⟨2⟩
  name := "t"
  order := 1
  fields :=
    [⟨⟨4⟩, ⟨3⟩, "First", 1, false, .computed "'x'" .text⟩,
      ⟨⟨6⟩, ⟨3⟩, "Plain", 2, false, .stored .longText⟩]

def staleRow : Row where
  id := ⟨1⟩
  order := .one
  createdOn := .epoch
  updatedOn := .epoch
  cells := ((IdMap.insert default ⟨4⟩ (.text "old") : Cells).insert ⟨6⟩ (.text "plain")).insert ⟨9⟩
    (.text "gone")

def staleDb : Db :=
  .holding .epoch ⟨3⟩ (TableRows.put { (default : TableRows) with lastId := 1 } staleRow)

abbrev revisedSchema : Schema := Schema.ofTable revisedTable { fields := some [] }

theorem compute_stale :
    compute revisedSchema.whole staleRow.id
      (staleRow.cells.filter fun entry => revisedSchema.whole.isTableField entry.1) =
        .ok ⟨(IdMap.insert default ⟨4⟩ (.text "x") : Cells).insert ⟨6⟩ (.text "plain"), 1, []⟩ := by
  unfold compute
  change List.foldlM _ _ [_, _] = _
  simp only [List.foldlM_cons, List.foldlM_nil, computeColumn, formulaValue_of_parse parse_second]
  rfl

theorem perform_reconcile_stale :
    ∃ later, Db.perform (Db.reconcile revisedSchema) staleDb = (.ok 1, later) := by
  have done : ∃ computation warnings rows,
      (staleDb.rowsOf revisedSchema.table).reconcile revisedSchema.whole =
        .ok ([computation], warnings, rows) := by
    unfold TableRows.reconcile
    change ∃ computation warnings rows, (TableRows.reconcileRows _ [staleRow] >>= _) = _
    unfold TableRows.reconcileRows TableRows.reconciled
    rw [compute_stale]
    exact ⟨_, _, _, rfl⟩
  obtain ⟨computation, warnings, rows, done⟩ := done
  rcases Db.perform_reconcile revisedSchema staleDb with
    ⟨closed, _⟩ | ⟨broken, later, other, ran⟩ | ⟨changed, _, _, later, other, ran, _⟩
  · cases closed
  · rw [done] at other
    cases other
  · rw [done] at other
    cases other
    exact ⟨later, ran⟩

theorem reconcile_touches_stale_row : ∃ later events,
    Db.perform (Db.reconcile revisedSchema) staleDb = (.ok 1, later) ∧ events.length = 1 ∧
      staleDb.Tells later events ∧ ∃ after, (later.rowsOf revisedTable.id).find? ⟨1⟩ = some after ∧
        after.cells.find? ⟨9⟩ = none ∧ (after.cells.find? ⟨4⟩).isSome = true ∧
        after.cells.find? ⟨6⟩ = some (.text "plain") := by
  have distinct : (revisedTable.fields.map Field.id).Nodup := by decide
  have composed : Schema.compose revisedTable { fields := some [] } = .ok revisedSchema := rfl
  obtain ⟨_, performed⟩ := perform_reconcile_stale
  have whole : IsWhole (Db.perform (Db.reconcile revisedSchema) staleDb).1 := by
    rw [performed]
    exact fun _ broken => nomatch broken
  rcases reconcile_touches distinct composed whole with
    ⟨closed, _⟩ | ⟨count, later, events, ran, rows, _, _, _, told, _, tells⟩
  · cases closed
  · have one : count = 1 := by
      rw [ran] at performed
      cases performed
      rfl
    subst one
    refine ⟨later, events, ran, told, tells, ?_⟩
    have stored : (staleDb.rowsOf revisedTable.id).find? ⟨1⟩ = some staleRow := rfl
    have related := rows ⟨1⟩
    rw [stored] at related
    generalize (later.rowsOf revisedTable.id).find? ⟨1⟩ = found at related ⊢
    cases related with
    | @some _ after framed =>
      refine ⟨after, rfl, ?_, ?_, ?_⟩
      · rw [← Option.not_isSome_iff_eq_none]
        intro found
        exact absurd (framed.within ⟨9⟩ found) (by decide)
      · exact framed.filled _ (.head _) rfl
      · exact framed.plain _ (.tail _ (.head _)) rfl

end Tabula
