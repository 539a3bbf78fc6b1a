import Tabula.Proofs.Db.Reached
import Tabula.Proofs.Db.Settled
import Tabula.Proofs.Formula.Literal

/-!
Reconciling a table whose formulas read backwards: every row that its writes can store is settled, so
that there is nothing to bring in line as long as the fields stay as they are.
-/
namespace Tabula

/-- Of the table itself a view; schemas of other tables are not restricted. -/
def Table.Views (table : Table) (schema : Schema) : Prop :=
  schema.table = table.id → ∃ options, Schema.compose table options = .ok schema

section
variable {table : Table} {options : ComposeOptions} {schema : Schema} {id : FieldId}

theorem ids_of_resolveCells (composed : Schema.compose table options = .ok schema)
    {given : List (CellKey × Value)} {taken : List (FieldId × Value)}
    (resolved : schema.resolveCells given = .ok taken) (member : id ∈ taken.map Prod.fst) :
    id ∈ table.fields.map Field.id := by
  obtain ⟨column, shown, rfl, _⟩ := Schema.stored_of_resolveCells resolved member
  exact List.mem_map_of_mem (Schema.field_mem composed shown)

theorem isSome_initialCells {columns : List Column} :
    ((TableRows.initialCells columns).find? id).isSome = true ↔
      ∃ column ∈ columns, column.field.kind.isComputed = false ∧ column.id = id := by
  unfold TableRows.initialCells
  rw [IdMap.isSome_find?_insertAll, IdMap.find?_empty]
  simp [and_assoc]

theorem isTableField_iff (composed : Schema.compose table options = .ok schema) :
    schema.whole.isTableField id = true ↔ id ∈ table.fields.map Field.id := by
  rw [← Schema.map_id_whole composed]
  unfold Schema.isTableField
  rw [List.any_eq_true, List.mem_map]
  simp [Schema.whole]

theorem keeps_settled (distinct : (table.fields.map Field.id).Nodup) (ordered : table.WellOrdered)
    (view : table.Views schema) :
    schema.Keeps fun owner row cells => owner = table.id → table.Settled row cells where
  create := by
    intro given cells row computation resolved run own
    obtain ⟨options, composed⟩ := view own
    apply settled_of_compute composed distinct ordered run
    · intro id found
      rcases (IdMap.isSome_find?_insertAll _ _ _).1 found with member | initial
      · exact ids_of_resolveCells composed resolved member
      · obtain ⟨column, inside, _, rfl⟩ := isSome_initialCells.1 initial
        rw [← Schema.map_id_whole composed]
        exact List.mem_map_of_mem inside
    · intro field member plain
      obtain ⟨column, inside, rfl⟩ := Schema.exists_column composed member
      exact (IdMap.isSome_find?_insertAll _ _ _).2
        (.inr (isSome_initialCells.2 ⟨column, inside, plain, rfl⟩))
  update := by
    intro given cells row old computation before resolved run own
    obtain ⟨options, composed⟩ := view own
    apply settled_of_compute composed distinct ordered run
    · intro id found
      rcases (IdMap.isSome_find?_insertAll _ _ _).1 found with member | kept
      · exact ids_of_resolveCells composed resolved member
      · exact ((before own).keys id).1 kept
    · intro field member _
      exact (IdMap.isSome_find?_insertAll _ _ _).2
        (.inr (((before own).keys _).2 (List.mem_map_of_mem member)))
  reconcile := by
    intro row old computation before run own
    obtain ⟨options, composed⟩ := view own
    apply settled_of_compute composed distinct ordered run
    · intro id found
      rw [IdMap.find?_filter] at found
      split at found
      · exact ((before own).keys id).1 found
      · cases found
    · intro field member _
      have inside := List.mem_map_of_mem (f := Field.id) member
      rw [IdMap.find?_filter, if_pos ((isTableField_iff composed).2 inside)]
      exact ((before own).keys _).2 inside

/-- A settled row is reconciled to itself. -/
theorem reconciled_of_settled (composed : Schema.compose table options = .ok schema) {row : Row}
    (settled : table.Settled row.id row.cells) :
    ∃ computation, TableRows.reconciled schema.whole row = .ok (row, computation) := by
  have kept : (row.cells.filter fun entry => schema.whole.isTableField entry.1) = row.cells := by
    apply IdMap.filter_of_all
    intro entry member
    exact (isTableField_iff composed).2 ((settled.keys _).1 (IdMap.find?_of_mem member))
  obtain ⟨computation, run, same⟩ := compute_of_settled composed settled
  refine ⟨computation, ?_⟩
  unfold TableRows.reconciled
  rw [kept, run]
  change Except.ok ({ row with cells := computation.cells }, computation) = _
  rw [same]

theorem size_of_settled (distinct : (table.fields.map Field.id).Nodup) {row : RowId} {cells : Cells}
    (settled : table.Settled row cells) : cells.size = table.fields.length := by
  have same : (cells.entries.map Prod.fst).Perm (table.fields.map Field.id) := by
    rw [List.perm_ext_iff_of_nodup cells.nodup_ids distinct]
    intro id
    rw [IdMap.mem_ids_iff]
    exact settled.keys id
  have lengths := same.length_eq
  rw [List.length_map, List.length_map] at lengths
  exact lengths

end

theorem Value.sameAs_self (value : Value) : value.sameAs value = true := by
  cases value <;> simp [sameAs, Decimal.sameAs, Instant.sameAs]

theorem Row.sameAs_self (row : Row) : row.sameAs row = true := by
  unfold sameAs
  simp [Decimal.sameAs, Instant.sameAs, IdMap.sameBy_self Value.sameAs_self]

namespace TableRows
variable {whole : Schema} {table : TableRows}

theorem reconcileRows_of_fixed {stored : List Row}
    (fixed : ∀ row ∈ stored, ∃ computation, reconciled whole row = .ok (row, computation)) :
    ∃ results, reconcileRows whole stored = .ok results ∧
      ∀ result ∈ results, result.2.1 = result.1 := by
  induction stored with
  | nil =>
    refine ⟨[], rfl, ?_⟩
    intro result member
    cases member
  | cons row rest ih =>
    obtain ⟨computation, here⟩ := fixed row List.mem_cons_self
    obtain ⟨others, later, same⟩ := ih fun other member => fixed other (List.mem_cons_of_mem _ member)
    refine ⟨(row, row, computation) :: others, ?_, List.forall_mem_cons.2 ⟨rfl, same⟩⟩
    unfold reconcileRows
    exact bind_eq_ok.2 ⟨_, here, bind_eq_ok.2 ⟨_, mapError_eq_ok.2 later, rfl⟩⟩

theorem reconcile_of_fixed
    (fixed : ∀ row ∈ table.values, ∃ computation, reconciled whole row = .ok (row, computation)) :
    ∃ warnings, table.reconcile whole = .ok ([], warnings, table) := by
  obtain ⟨results, run, same⟩ := reconcileRows_of_fixed fixed
  refine ⟨results.flatMap (·.2.2.warnings), ?_⟩
  unfold reconcile
  rw [run]
  change Except.ok _ = _
  rw [List.filter_eq_nil_iff.2]
  · rfl
  · intro result member
    simp [same result member, Row.sameAs_self]

end TableRows

theorem Db.perform_reconcile_of_fixed {schema : Schema} {db : Db}
    (isOpen : db.store.isClosed = false)
    (fixed : ∀ row ∈ (db.rowsOf schema.table).values,
      ∃ computation, TableRows.reconciled schema.whole row = .ok (row, computation)) :
    ∃ later, perform (reconcile schema) db = (.ok 0, later) ∧
      (∀ table, later.rowsOf table = db.rowsOf table) ∧ later.store.isClosed = false ∧
      later = { db with store := later.store, warnings := later.warnings } := by
  obtain ⟨warnings, done⟩ := TableRows.reconcile_of_fixed fixed
  unfold reconcile
  rw [perform_bind, perform_write, isOpen, done]
  refine ⟨_, rfl, ?_, ?_, rfl⟩
  · intro table
    change Store.rowsOf
      { db.store with tables := db.store.tables.insert schema.table (db.rowsOf schema.table) }
      table = db.rowsOf table
    rw [Store.rowsOf_insert]
    split
    · rename_i own
      rw [own]
    · rfl
  · exact isOpen

/-- In every state that calls through views of a well-ordered table lead to, each row has exactly one
cell per field, and reconciling through any view gives 0 and changes no row. The tables of a catalog
have distinct identifiers by `Catalog.Reached.distinct`. -/
theorem reconcile_of_reached {table : Table} {db : Db} (distinct : (table.fields.map Field.id).Nodup)
    (ordered : table.WellOrdered) (reached : Db.Reached table.Views db) :
    (∀ row ∈ (db.rowsOf table.id).values,
      (∀ id, (row.cells.find? id).isSome = true ↔ id ∈ table.fields.map Field.id) ∧
        row.cells.size = table.fields.length) ∧
    ∀ options schema, Schema.compose table options = .ok schema →
      ∃ later, Db.perform (Db.reconcile schema) db = (.ok 0, later) ∧
        (∀ other, later.rowsOf other = db.rowsOf other) ∧ later.store.isClosed = false ∧
        later = { db with store := later.store, warnings := later.warnings } := by
  have settled : ∀ row ∈ (db.rowsOf table.id).values, table.Settled row.id row.cells := by
    intro row member
    exact reached.holds (fun _ view => keeps_settled distinct ordered view) table.id row member rfl
  constructor
  · intro row member
    exact ⟨(settled row member).keys, size_of_settled distinct (settled row member)⟩
  · intro options schema composed
    have place := Schema.table_eq composed
    apply Db.perform_reconcile_of_fixed reached.isOpen
    rw [place]
    intro row member
    exact reconciled_of_settled composed (settled row member)

/-! Two formulas, the second of which names the first. -/

def backwardTable : Table where
  id := ⟨3⟩
  database := ⟨2⟩
  name := "t"
  order := 1
  fields :=
    [⟨⟨4⟩, ⟨3⟩, "First", 1, false, .computed "'x'" .text⟩,
      ⟨⟨5⟩, ⟨3⟩, "Second", 2, false, .computed "field('First')" .text⟩]

abbrev backwardSchema : Schema := Schema.ofTable backwardTable {}

theorem parse_backward : Formula.parse "field('First')" = .ok (.field "First") := by
  have written : "field(" ++ Formula.literal '\'' "First" ++ ")" = "field('First')" := by decide
  rw [← written]
  exact Formula.parse_field_literal (by decide) "First"

theorem wellOrdered_backward : backwardTable.WellOrdered := by
  intro front field behind source result expr split kind parsed name used named found
  cases front with
  | nil =>
    cases split
    cases kind
    rw [parse_second] at parsed
    cases parsed
    cases used
  | cons first rest =>
    cases rest with
    | nil =>
      cases split
      cases kind
      rw [parse_backward] at parsed
      cases parsed
      cases List.mem_singleton.1 used
      cases found
      exact .inr List.mem_cons_self
    | cons second rest =>
      cases rest <;> cases split

def backwardCells : Cells := (IdMap.insert default ⟨4⟩ (.text "x") : Cells).insert ⟨5⟩ (.text "x")

theorem compute_backward (row : RowId) :
    compute backwardSchema.whole row
      ((TableRows.initialCells backwardSchema.whole.columns).insertAll []) =
        .ok ⟨backwardCells, 2, []⟩ := by
  unfold compute
  change List.foldlM _ _ [_, _] = _
  simp only [List.foldlM_cons, List.foldlM_nil, computeColumn, formulaValue_of_parse parse_second,
    formulaValue_of_parse parse_backward]
  rfl

theorem create_backward : ∃ record created,
    Db.perform (Db.create backwardSchema {}) { clock := .epoch } = (.ok record, created) := by
  have isOpen : ({ clock := .epoch } : Db).store.isClosed = false := rfl
  have ready : (RowWrite.create {}).Ready backwardSchema {} ⟨1⟩ _ :=
    .create rfl (TableRows.hasRoom_empty _)
  obtain ⟨made, created, done, _⟩ :=
    RowWrite.perform_of_computed ready isOpen (compute_backward _)
  exact ⟨_, created, done⟩

theorem reconcile_of_backward_row : ∃ record created later,
    Db.perform (Db.create backwardSchema {}) { clock := .epoch } = (.ok record, created) ∧
      record.row.cells.size = 2 ∧
      Db.perform (Db.reconcile (Schema.ofTable backwardTable { fields := some [] })) created =
        (.ok 0, later) := by
  obtain ⟨record, created, done⟩ := create_backward
  have started : Db.Reached backwardTable.Views { clock := .epoch } := .start rfl
  have view : backwardTable.Views backwardSchema := fun _ => ⟨{}, rfl⟩
  have reached := started.of_create view done
  obtain ⟨cells, fixed⟩ := reconcile_of_reached (by decide) wellOrdered_backward reached
  obtain ⟨_, _, _, _, _, _, _, found⟩ := Db.of_create done
  obtain ⟨later, reconciled, _⟩ := fixed { fields := some [] } _ rfl
  exact ⟨record, created, later, done, (cells _ (TableRows.mem_of_find? found).1).2, reconciled⟩

end Tabula
