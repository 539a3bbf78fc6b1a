import Mathlib.Data.List.Nodup
import Tabula.Proofs.Db.Perform
import Tabula.Proofs.Row.Computed
import Tabula.Proofs.Row.Input

/-! Writes of one row: what they need to go through, and what they leave in the store. -/
namespace Tabula

theorem not_mem_formulaIds {columns : List Column} {plain : Column}
    (distinct : (columns.map Column.id).Nodup) (member : plain ∈ columns)
    (stored : plain.field.kind.isComputed = false) : plain.id ∉ formulaIds columns := by
  intro pending
  obtain ⟨formula, among, same⟩ := List.mem_map.1 pending
  obtain ⟨inside, computed⟩ := List.mem_filter.1 among
  have one : formula = plain := List.inj_on_of_nodup_map distinct inside member same
  rw [one, stored] at computed
  cases computed

theorem not_mem_formulaIds_whole {table : Table} {options : ComposeOptions} {schema : Schema}
    {field : Field} (composed : Schema.compose table options = .ok schema)
    (distinct : (table.fields.map Field.id).Nodup) (member : field ∈ table.fields)
    (plain : field.kind.isComputed = false) : field.id ∉ formulaIds schema.whole.columns := by
  obtain ⟨column, inside, rfl⟩ := Schema.exists_column composed member
  rw [← Schema.map_id_whole composed] at distinct
  exact not_mem_formulaIds distinct inside plain

namespace TableRows

variable {table later : TableRows} {whole : Schema} {cells : List (FieldId × Value)}
  {order : Option Decimal} {now : Instant} {row : Row} {computation : Computation}

theorem find?_put (table : TableRows) (row : Row) : (table.put row).find? row.id = some row :=
  IdMap.find?_insert_self _ _ _

theorem find?_put_of_ne (table : TableRows) {row : Row} {id : RowId} (other : id ≠ row.id) :
    (table.put row).find? id = table.find? id :=
  IdMap.find?_insert_of_ne _ _ other

theorem mem_of_find? {id : RowId} (found : table.find? id = some row) : row ∈ table.values ∧ row.id = id := by
  obtain ⟨entry, inside, rfl⟩ := Option.map_eq_some_iff.1 found
  have member := List.mem_of_find?_eq_some inside
  refine ⟨List.mem_map_of_mem member, ?_⟩
  rw [table.keyed entry member]
  simpa using List.find?_some inside

theorem find?_of_mem (member : row ∈ table.values) : table.find? row.id = some row := by
  obtain ⟨⟨id, _⟩, inside, rfl⟩ := List.mem_map.1 member
  have own := table.keyed _ inside
  dsimp only at own ⊢
  rw [own]
  exact IdMap.mem_entries_iff.1 inside

theorem nextId_eq_ok {id : RowId} : table.nextId = .ok id ↔
    table.lastId.toNat + 1 < UInt64.size ∧ id = ⟨table.lastId + 1⟩ := by
  unfold nextId
  split
  · rename_i spare
    simp [spare, eq_comm]
  · rename_i used
    simp [used]

/-- A new row has an identifier, and an order where none is given. -/
structure HasRoom (table : TableRows) (order : Option Decimal) : Prop where
  id : ∃ next, table.nextId = .ok next
  order : order ≠ none ∨ ∃ next, table.nextOrder = .ok next

theorem hasRoom_empty (order : Option Decimal) : HasRoom {} order := ⟨⟨⟨1⟩, rfl⟩, .inr ⟨.one, rfl⟩⟩

theorem existing_eq_ok {tableId : TableId} {id : RowId} :
    table.existing tableId id = .ok row ↔ table.find? id = some row := by
  unfold existing
  cases table.find? id <;> simp

theorem create_eq (table : TableRows) (whole : Schema) (cells : List (FieldId × Value))
    (order : Option Decimal) (now : Instant) :
    table.create whole cells order now = (do
      let id ← table.nextId.mapError ({ fault := · })
      let order ← (order.map Except.ok).getD (table.nextOrder.mapError ({ fault := · }))
      let computation ← compute whole id ((initialCells whole.columns).insertAll cells)
      let row : Row := { id, order, createdOn := now, updatedOn := now, cells := computation.cells }
      return ((row, computation), { table with lastId := id.val }.put row)) := by
  cases order <;> rfl

theorem create_of_room (table : TableRows) (whole : Schema) (cells : List (FieldId × Value))
    (now : Instant) (room : table.HasRoom order) :
    ∃ place, table.create whole cells order now = (do
      let id : RowId := ⟨table.lastId + 1⟩
      let computation ← compute whole id ((initialCells whole.columns).insertAll cells)
      let row : Row :=
        { id, order := place, createdOn := now, updatedOn := now, cells := computation.cells }
      return ((row, computation), { table with lastId := id.val }.put row)) := by
  obtain ⟨id, named⟩ := room.id
  obtain ⟨_, rfl⟩ := nextId_eq_ok.1 named
  rw [create_eq, named]
  cases order with
  | some place => exact ⟨place, rfl⟩
  | none =>
    obtain given | ⟨place, next⟩ := room.order
    · exact absurd rfl given
    · refine ⟨place, ?_⟩
      rw [next]
      rfl

theorem of_create (done : table.create whole cells order now = .ok ((row, computation), later)) :
    table.HasRoom order ∧
      compute whole row.id ((initialCells whole.columns).insertAll cells) = .ok computation ∧
      row.id = ⟨table.lastId + 1⟩ ∧ row.cells = computation.cells ∧
      later = { table with lastId := row.id.val }.put row := by
  rw [create_eq] at done
  obtain ⟨id, named, done⟩ := bind_eq_ok.1 done
  obtain ⟨place, placed, done⟩ := bind_eq_ok.1 done
  obtain ⟨computed, run, done⟩ := bind_eq_ok.1 done
  cases done
  have next := mapError_eq_ok.1 named
  refine ⟨⟨⟨id, next⟩, ?_⟩, run, (nextId_eq_ok.1 next).2, rfl, rfl⟩
  cases order with
  | some given => exact .inl nofun
  | none => exact .inr ⟨place, mapError_eq_ok.1 placed⟩

theorem of_update {old : Row}
    (done : table.update whole old cells order now = .ok ((row, computation), later)) :
    compute whole old.id (old.cells.insertAll cells) = .ok computation ∧
      row = { old with
        order := order.getD old.order, updatedOn := now, cells := computation.cells } ∧
      later = table.put row := by
  unfold update at done
  rw [bind_eq_ok] at done
  obtain ⟨computed, run, done⟩ := done
  cases done
  exact ⟨run, rfl, rfl⟩

theorem find?_initialCells {columns : List Column} {id : FieldId} (pending : id ∈ formulaIds columns)
    (distinct : (columns.map Column.id).Nodup) : (initialCells columns).find? id = none := by
  unfold initialCells
  rw [IdMap.find?_insertAll_of_not_mem, IdMap.find?_empty]
  rw [List.map_map]
  intro member
  obtain ⟨plain, among, same⟩ := List.mem_map.1 member
  obtain ⟨inside, stored⟩ := List.mem_filter.1 among
  rw [← same] at pending
  exact not_mem_formulaIds distinct inside (by simpa using stored) pending

theorem of_find?_initialCells {columns : List Column} {id : FieldId} {value : Value}
    (found : (initialCells columns).find? id = some value) :
    ∃ column ∈ columns, column.field.kind.isComputed = false ∧ column.id = id ∧
      column.spec.initial = value := by
  unfold initialCells at found
  rcases IdMap.of_find?_insertAll found with member | nothing
  · obtain ⟨column, among, same⟩ := List.mem_map.1 member
    obtain ⟨inside, plain⟩ := List.mem_filter.1 among
    cases same
    exact ⟨column, inside, by simpa using plain, rfl, rfl⟩
  · cases nothing

end TableRows

namespace Db

variable {schema : Schema} {input : RowInput} {db later : Db} {record : Record}

theorem of_create (done : perform (create schema input) db = (.ok record, later)) :
    ∃ cells computation,
      schema.resolveCells input.cells = .ok cells ∧
      (db.rowsOf schema.table).HasRoom input.order ∧
      record.id = ⟨(db.rowsOf schema.table).lastId + 1⟩ ∧
      compute schema.whole record.id
        ((TableRows.initialCells schema.whole.columns).insertAll cells) = .ok computation ∧
      record.row.cells = computation.cells ∧
      (later.rowsOf schema.table).find? record.id = some record.row := by
  rw [perform_create] at done
  split at done
  · cases done
  · rename_i cells resolved
    obtain ⟨computation, changed⟩ := of_writeRow done
    obtain ⟨room, run, next, same, stored⟩ := TableRows.of_create (Except.ok.inj changed)
    refine ⟨cells, computation, resolved, room, next, run, same, ?_⟩
    rw [stored]
    exact TableRows.find?_put _ _

theorem of_update {id : RowId} (done : perform (update schema id input) db = (.ok record, later)) :
    ∃ cells computation old,
      schema.resolveCells input.cells = .ok cells ∧
      (db.rowsOf schema.table).find? id = some old ∧
      compute schema.whole id (old.cells.insertAll cells) = .ok computation ∧
      record.row = { old with
        order := input.order.getD old.order, updatedOn := db.clock, cells := computation.cells } ∧
      (later.rowsOf schema.table).find? id = some record.row := by
  rw [perform_update] at done
  split at done
  · cases done
  · rename_i cells resolved
    obtain ⟨computation, changed⟩ := of_writeRow done
    rw [bind_eq_ok] at changed
    obtain ⟨old, existing, changed⟩ := changed
    have found := TableRows.existing_eq_ok.1 existing
    obtain ⟨run, same, stored⟩ := TableRows.of_update (Except.ok.inj changed)
    obtain ⟨_, rfl⟩ := TableRows.mem_of_find? found
    refine ⟨cells, computation, old, resolved, found, run, same, ?_⟩
    rw [stored, same]
    exact TableRows.find?_put _ _

end Db

inductive RowWrite
  | create (input : RowInput)
  | update (id : RowId) (input : RowInput)

namespace RowWrite

def perform (schema : Schema) (db : Db) : RowWrite → Except (Failure RowError) Record × Db
  | create input => Db.perform (Db.create schema input) db
  | update id input => Db.perform (Db.update schema id input) db

def input : RowWrite → RowInput
  | create input => input
  | update _ input => input

/-- The cells that the row has before it is written; a new row has none. -/
def cellsBefore (table : TableRows) : RowWrite → Cells
  | create _ => default
  | update id _ => ((table.find? id).map Row.cells).getD default

end RowWrite

/-- The row and the cells that a write runs the formulas over: its cells are accepted, and there is
room for one more row or the row exists. -/
inductive RowWrite.Ready (schema : Schema) (rows : TableRows) : RowWrite → RowId → Cells → Prop
  | create {input : RowInput} {cells : List (FieldId × Value)}
      (resolved : schema.resolveCells input.cells = .ok cells)
      (room : rows.HasRoom input.order) :
      Ready schema rows (.create input) ⟨rows.lastId + 1⟩
        ((TableRows.initialCells schema.whole.columns).insertAll cells)
  | update {id : RowId} {input : RowInput} {cells : List (FieldId × Value)} {old : Row}
      (resolved : schema.resolveCells input.cells = .ok cells)
      (found : rows.find? id = some old) :
      Ready schema rows (.update id input) id (old.cells.insertAll cells)

namespace RowWrite
variable {schema : Schema} {db : Db} {write : RowWrite} {row : RowId} {start : Cells}

/-- What a write that is ready still depends on is the pass over its formulas. -/
theorem perform_of_ready (ready : write.Ready schema (db.rowsOf schema.table) row start) :
    ∃ (kind : WriteKind)
      (change : TableRows → Except RowError (Except Breakdown ((Row × Computation) × TableRows)))
      (made : Computation → Row) (stored : Computation → TableRows),
      write.perform schema db = Db.writeRow schema kind change db ∧
      change (db.rowsOf schema.table) = .ok (do
        let computation ← compute schema.whole row start
        return ((made computation, computation), stored computation)) ∧
      ∀ computation, (made computation).id = row ∧ (made computation).cells = computation.cells ∧
        (stored computation).find? row = some (made computation) := by
  cases ready with
  | @create input cells resolved room =>
    obtain ⟨place, created⟩ :=
      TableRows.create_of_room (db.rowsOf schema.table) schema.whole cells db.clock room
    refine ⟨.create, fun rows => .ok (rows.create schema.whole cells input.order db.clock), _, _, ?_,
      congrArg Except.ok created, ?_⟩
    · unfold perform
      dsimp only
      rw [Db.perform_create, resolved]
    · intro computation
      exact ⟨rfl, rfl, TableRows.find?_put _ _⟩
  | @update id input cells old resolved found =>
    have same := (TableRows.mem_of_find? found).2
    subst same
    refine ⟨.update, fun rows => do
      let row ← rows.existing schema.table old.id
      return rows.update schema.whole row cells input.order db.clock,
      fun computation => { old with
        order := input.order.getD old.order, updatedOn := db.clock, cells := computation.cells },
      fun computation => (db.rowsOf schema.table).put { old with
        order := input.order.getD old.order, updatedOn := db.clock, cells := computation.cells },
      ?_, ?_, ?_⟩
    · unfold perform
      dsimp only
      rw [Db.perform_update, resolved]
    · dsimp only
      rw [TableRows.existing_eq_ok.2 found]
      rfl
    · intro computation
      exact ⟨rfl, rfl, TableRows.find?_put _ _⟩

/-- Only a ready write goes through, and its row is what the pass over the formulas makes of it. -/
theorem ready_of_done {later : Db} {record : Record}
    (done : write.perform schema db = (.ok record, later)) :
    ∃ start computation, write.Ready schema (db.rowsOf schema.table) record.id start ∧
      compute schema.whole record.id start = .ok computation ∧
      record.row.cells = computation.cells ∧
      (later.rowsOf schema.table).find? record.id = some record.row := by
  cases write with
  | create input =>
    obtain ⟨cells, computation, resolved, room, next, run, same, found⟩ := Db.of_create done
    have ready : (create input).Ready schema (db.rowsOf schema.table) _ _ := .create resolved room
    rw [← next] at ready
    exact ⟨_, computation, ready, run, same, found⟩
  | update id input =>
    obtain ⟨cells, computation, old, resolved, kept, run, same, found⟩ := Db.of_update done
    have own : record.id = id := (TableRows.mem_of_find? found).2
    rw [own]
    exact ⟨_, computation, .update resolved kept, run, congrArg Row.cells same, found⟩

theorem perform_of_broken (ready : write.Ready schema (db.rowsOf schema.table) row start)
    (isOpen : db.store.isClosed = false) {broken : Breakdown}
    (failed : compute schema.whole row start = .error broken) :
    ∃ later, write.perform schema db = (.error (.fault broken.fault), later) ∧
      later.store.isClosed = true ∧ ∀ table, later.rowsOf table = db.rowsOf table := by
  obtain ⟨kind, change, made, stored, same, changed, _⟩ := perform_of_ready ready
  rw [failed] at changed
  rw [same]
  exact Db.writeRow_of_broken isOpen changed

theorem perform_of_computed (ready : write.Ready schema (db.rowsOf schema.table) row start)
    (isOpen : db.store.isClosed = false) {computation : Computation}
    (run : compute schema.whole row start = .ok computation) :
    ∃ made later, write.perform schema db = (.ok ⟨schema, made⟩, later) ∧ made.id = row ∧
      made.cells = computation.cells ∧ (later.rowsOf schema.table).find? row = some made ∧
      later.store.isClosed = false ∧
      later.warnings = db.warnings ++ computation.warnings := by
  obtain ⟨kind, change, made, stored, same, changed, given⟩ := perform_of_ready ready
  obtain ⟨named, cells, found⟩ := given computation
  rw [run] at changed
  rw [same]
  obtain ⟨later, done, rows, isOpen, warned⟩ := Db.writeRow_of_done isOpen changed
  rw [← rows] at found
  exact ⟨_, later, done, named, cells, found, isOpen, warned⟩

end RowWrite
end Tabula
