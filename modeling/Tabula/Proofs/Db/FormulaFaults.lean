import Tabula.Proofs.Db.FormulaCells
import Tabula.Proofs.Db.Reached
import Tabula.Proofs.Row.Faults

/-!
What a write comes to whatever the formulas of its table are. Formulas that fail leave null and a
warning; a write breaks off only at a formula that takes a late stamp for a date.
-/
namespace Tabula

section
variable {schema : Schema} {row : RowId}

theorem isUtc_of_resolveCells {given : List (CellKey × Value)} {taken : List (FieldId × Value)}
    (done : schema.resolveCells given = .ok taken) : ∀ entry ∈ taken, entry.2.IsUtc := by
  intro entry member
  obtain ⟨⟨key, content⟩, _, here⟩ := exists_of_mem_of_forall₂ (mapM_eq_ok.1 done) member
  obtain ⟨column, _, _, normal, _⟩ := Schema.resolveCell_eq_ok.1 here
  exact isUtc_of_normalize normal

theorem isUtc_initialCells (columns : List Column) :
    Cells.IsUtc (TableRows.initialCells columns) := by
  unfold TableRows.initialCells
  apply Cells.isUtc_insertAll
  · intro id value read
    cases read
  · intro entry member
    obtain ⟨column, _, rfl⟩ := List.mem_map.1 member
    exact isUtc_initial column.field.kind

theorem isUtc_of_compute {start : Cells} {computation : Computation} (utc : Cells.IsUtc start)
    (run : compute schema row start = .ok computation) : Cells.IsUtc computation.cells :=
  isUtc_of_computed utc run

theorem keeps_isUtc (schema : Schema) : schema.Keeps fun _ _ cells => Cells.IsUtc cells where
  create resolved run :=
    isUtc_of_compute
      (Cells.isUtc_insertAll (isUtc_initialCells _) (isUtc_of_resolveCells resolved)) run
  update before resolved run :=
    isUtc_of_compute (Cells.isUtc_insertAll before (isUtc_of_resolveCells resolved)) run
  reconcile before run := by
    apply isUtc_of_compute _ run
    intro id value read
    rw [IdMap.find?_filter] at read
    split at read
    · exact before id value read
    · cases read

end

namespace RowWrite
variable {schema : Schema} {db : Db} {write : RowWrite} {row : RowId} {start : Cells}

theorem isUtc_of_ready (ready : write.Ready schema (db.rowsOf schema.table) row start)
    (utc : ∀ stored ∈ (db.rowsOf schema.table).values, Cells.IsUtc stored.cells) :
    Cells.IsUtc start := by
  cases ready with
  | create resolved room =>
    exact Cells.isUtc_insertAll (isUtc_initialCells _) (isUtc_of_resolveCells resolved)
  | update resolved found =>
    exact Cells.isUtc_insertAll (utc _ (TableRows.mem_of_find? found).1)
      (isUtc_of_resolveCells resolved)

end RowWrite

/-- A formula fails, over what it meets in a write of a row, with the error of this warning. -/
def Schema.WarnsOf (schema : Schema) (row : RowId) (before stored : Cells) (warning : Warning) :
    Prop :=
  ∃ column ∈ schema.columns, ∃ error,
    column.Fails schema row (schema.cellsMet column.id before stored) error ∧
      warning = ⟨schema.table, row, column.id, error⟩

section
variable {schema : Schema} {row : RowId} {start before : Cells} {computation : Computation}

theorem formula_left (distinct : (schema.columns.map Column.id).Nodup)
    (agree : ∀ id ∈ formulaIds schema.columns, start.find? id = before.find? id)
    (run : compute schema row start = .ok computation) {column : Column}
    (member : column ∈ schema.columns) {source : String} {result : ResultType}
    (kind : column.field.kind = .computed source result) :
    let met := schema.cellsMet column.id before computation.cells
    (∃ value, formulaValue schema row met source result = .ok value ∧
      computation.cells.find? column.id = some value) ∨
    ∃ error, formulaValue schema row met source result = .error (.error error) ∧
      computation.cells.find? column.id = some .null := by
  obtain ⟨cell, found, value⟩ := formulaCell_of_compute distinct agree run member kind
  unfold formulaCell at value
  dsimp only
  split at value
  · rename_i evaluated
    cases value
    exact .inl ⟨_, evaluated, found⟩
  · rename_i failed
    cases value
    exact .inr ⟨_, failed, found⟩
  · cases value

/-- A pass warns of the formulas that fail and of no other. -/
theorem mem_warnings_iff (distinct : (schema.columns.map Column.id).Nodup)
    (agree : ∀ id ∈ formulaIds schema.columns, start.find? id = before.find? id)
    (run : compute schema row start = .ok computation) (warning : Warning) :
    warning ∈ computation.warnings ↔
      schema.WarnsOf row before computation.cells warning := by
  rw [mem_warnings_of_computed run]
  constructor
  · rintro (earlier | ⟨front, column, behind, met, error, split, first, fails, same⟩)
    · cases earlier
    · have member : column ∈ schema.columns := by
        rw [split]
        exact List.mem_append_right _ List.mem_cons_self
      refine ⟨column, member, error, ?_, same⟩
      exact (Column.fails_congr (formulaValue_cellsMet distinct agree run split first)).1 fails
  · rintro ⟨column, member, error, fails, same⟩
    obtain ⟨front, behind, split⟩ := List.append_of_mem member
    have parts := run
    unfold compute at parts
    rw [split, List.foldlM_append] at parts
    obtain ⟨met, first, _⟩ := bind_eq_ok.1 parts
    refine .inr ⟨front, column, behind, met, error, split, first, ?_, same⟩
    exact (Column.fails_congr (formulaValue_cellsMet distinct agree run split first)).2 fails

theorem RowWrite.formulas_of_computed {table : Table} {options : ComposeOptions} {db : Db}
    {write : RowWrite} (composed : Schema.compose table options = .ok schema)
    (distinct : (schema.whole.columns.map Column.id).Nodup)
    (ready : write.Ready schema (db.rowsOf schema.table) row start)
    (isOpen : db.store.isClosed = false)
    (run : compute schema.whole row start = .ok computation) :
    ∃ record later, write.perform schema db = (.ok record, later) ∧
      record.id = row ∧ (later.rowsOf schema.table).find? row = some record.row ∧
      later.store.isClosed = false ∧
      (∀ field ∈ table.fields, ∀ source result, field.kind = .computed source result →
        let met := schema.whole.cellsMet field.id (write.cellsBefore (db.rowsOf schema.table))
          record.row.cells
        (∃ value, formulaValue schema.whole row met source result = .ok value ∧
          record.row.cells.find? field.id = some value) ∨
        ∃ error, formulaValue schema.whole row met source result = .error (.error error) ∧
          record.row.cells.find? field.id = some .null) ∧
      ∃ fresh, later.warnings = db.warnings ++ fresh ∧ ∀ warning, warning ∈ fresh ↔
        schema.whole.WarnsOf row (write.cellsBefore (db.rowsOf schema.table)) record.row.cells
          warning := by
  have agree := agree_of_ready composed distinct ready
  obtain ⟨made, later, done, named, cells, found, left, warned⟩ :=
    perform_of_computed ready isOpen run
  refine ⟨⟨schema, made⟩, later, done, named, found, left, ?_, computation.warnings, warned, ?_⟩
  · intro field member source result kind
    obtain ⟨column, shown, rfl⟩ := Schema.exists_column composed member
    dsimp only
    rw [cells]
    exact formula_left distinct agree run shown kind
  · intro warning
    dsimp only
    rw [cells]
    exact mem_warnings_iff distinct agree run warning

end

/-- Formulas never keep a ready write from the store, whatever their sources and results: they leave
their value, or null and a warning where they fail to parse or to evaluate. The one exception is a
formula that takes a late stamp for a date, at which the write breaks off and closes the store. The tables
of a catalog have distinct identifiers by `Catalog.Reached.distinct`. -/
theorem formulas_of_write {Through : Schema → Prop} {table : Table} {options : ComposeOptions}
    {schema : Schema} {db : Db} {write : RowWrite} {row : RowId} {start : Cells}
    (composed : Schema.compose table options = .ok schema)
    (distinct : (table.fields.map Field.id).Nodup) (reached : Db.Reached Through db)
    (ready : write.Ready schema (db.rowsOf table.id) row start) :
    (schema.whole.Strays row start ↔
      ∃ later, write.perform schema db = (.error (.fault .calendarExceeded), later) ∧
        later.store.isClosed = true) ∧
    (¬ schema.whole.Strays row start ↔ ∃ record later, write.perform schema db = (.ok record, later)) ∧
    ∀ record later, write.perform schema db = (.ok record, later) →
      record.id = row ∧ (later.rowsOf table.id).find? row = some record.row ∧
      later.store.isClosed = false ∧
      (∀ field ∈ table.fields, ∀ source result, field.kind = .computed source result →
        let met := schema.whole.cellsMet field.id (write.cellsBefore (db.rowsOf table.id))
          record.row.cells
        (∃ value, formulaValue schema.whole row met source result = .ok value ∧
          record.row.cells.find? field.id = some value) ∨
        ∃ error, formulaValue schema.whole row met source result = .error (.error error) ∧
          record.row.cells.find? field.id = some .null) ∧
      ∃ fresh, later.warnings = db.warnings ++ fresh ∧ ∀ warning, warning ∈ fresh ↔
        schema.whole.WarnsOf row (write.cellsBefore (db.rowsOf table.id)) record.row.cells warning := by
  have place := Schema.table_eq composed
  rw [← place] at ready ⊢
  rw [← Schema.map_id_whole composed] at distinct
  have isOpen := reached.isOpen
  have utc := RowWrite.isUtc_of_ready ready
    (reached.holds (fun schema _ => keeps_isUtc schema) schema.table)
  cases outcome : compute schema.whole row start with
  | error broken =>
    obtain ⟨exceeded, strays⟩ := compute_eq_error utc outcome
    obtain ⟨stopped, done, isClosed, _⟩ := RowWrite.perform_of_broken ready isOpen outcome
    rw [exceeded] at done
    refine ⟨⟨fun _ => ⟨stopped, done, isClosed⟩, fun _ => strays⟩, ?_, ?_⟩
    · constructor
      · intro within
        exact absurd strays within
      · rintro ⟨record, later, other⟩
        rw [done] at other
        cases other
    · intro record later other
      rw [done] at other
      cases other
  | ok computation =>
    have within := (exists_compute_eq_ok utc).1 ⟨computation, outcome⟩
    obtain ⟨made, after, done, told⟩ :=
      RowWrite.formulas_of_computed composed distinct ready isOpen outcome
    refine ⟨?_, ⟨fun _ => ⟨made, after, done⟩, fun _ => within⟩, ?_⟩
    · constructor
      · intro strays
        exact absurd strays within
      · rintro ⟨later, other, _⟩
        rw [done] at other
        cases other
    · intro record later same
      rw [done] at same
      cases same
      exact told

/-! Two texts that are to become dates: one that is none, and a late stamp. -/

def datedTable (source : String) : Table where
  id := ⟨3⟩
  database := ⟨2⟩
  name := "t"
  order := 1
  fields := [⟨⟨4⟩, ⟨3⟩, "Day", 1, false, .computed source (.date {})⟩]

abbrev datedSchema (source : String) : Schema := Schema.ofTable (datedTable source) {}

theorem ready_dated (source : String) :
    (RowWrite.create {}).Ready (datedSchema source) {} ⟨1⟩
      ((TableRows.initialCells (datedSchema source).whole.columns).insertAll []) :=
  .create rfl (TableRows.hasRoom_empty _)

theorem formulaValue_plainText (schema : Schema) (row : RowId) (cells : Cells) :
    formulaValue schema row cells "'x'" (.date {}) = .error (.error (.conversion "text" "date")) := by
  rw [formulaValue_of_parse parse_second]
  rfl

theorem not_strays_plainText (row : RowId) (start : Cells) :
    ¬ (datedSchema "'x'").whole.Strays row start := by
  rintro ⟨front, column, behind, met, split, _, source, result, expr, value, kind, parsed, evaluated,
    format, content, _, rfl, late⟩
  cases front with
  | cons first rest =>
    cases rest <;> cases split
  | nil =>
    cases split
    cases kind
    rw [parse_second] at parsed
    cases parsed
    cases evaluated
    exact absurd late.lt_length (by decide)

theorem formulas_of_plainText_write : ∃ record later,
    (RowWrite.create {}).perform (datedSchema "'x'") { clock := .epoch } = (.ok record, later) ∧
      record.row.cells.find? ⟨4⟩ = some .null ∧ later.store.isClosed = false := by
  have composed : Schema.compose (datedTable "'x'") {} = .ok (datedSchema "'x'") := rfl
  have reached : Db.Reached (fun _ => True) { clock := .epoch } := .start rfl
  obtain ⟨_, whole, told⟩ :=
    formulas_of_write composed (List.nodup_singleton _) reached (ready_dated "'x'")
  obtain ⟨record, later, done⟩ := whole.1 (not_strays_plainText _ _)
  obtain ⟨_, _, isOpen, cells, _⟩ := told record later done
  refine ⟨record, later, done, ?_, isOpen⟩
  rcases cells _ (List.mem_singleton_self _) _ _ rfl with ⟨value, evaluated, _⟩ | ⟨_, _, null⟩
  · rw [formulaValue_plainText] at evaluated
    cases evaluated
  · exact null

theorem formulaValue_lateStamp (schema : Schema) (row : RowId) (cells : Cells) :
    formulaValue schema row cells "'9999-12-31T23:59:59-01:00'" (.date {}) =
      .error (.fault .calendarExceeded) := by
  have written : Formula.literal '\'' "9999-12-31T23:59:59-01:00" = "'9999-12-31T23:59:59-01:00'" := by
    decide
  rw [← written, formulaValue_of_parse (Formula.parse_literal (by decide) _)]
  rfl

theorem compute_lateStamp (row : RowId) (start : Cells) :
    compute (datedSchema "'9999-12-31T23:59:59-01:00'").whole row start =
      .error ⟨.calendarExceeded, []⟩ := by
  unfold compute
  change List.foldlM _ _ [_] = _
  simp only [List.foldlM_cons, computeColumn, formulaValue_lateStamp]
  rfl

/-- Not every row with accepted cells can be created. -/
theorem not_all_rows_created :
    ¬ ∀ (table : Table) (options : ComposeOptions) (schema : Schema) (db : Db) (input : RowInput)
      (cells : List (FieldId × Value)),
      Schema.compose table options = .ok schema → (table.fields.map Field.id).Nodup →
      Db.Reached (fun _ => True) db → schema.resolveCells input.cells = .ok cells →
      (db.rowsOf table.id).HasRoom input.order →
      ∃ record later, Db.perform (Db.create schema input) db = (.ok record, later) := by
  intro refuted
  obtain ⟨record, later, done⟩ := refuted (datedTable "'9999-12-31T23:59:59-01:00'") {} _
    { clock := .epoch } {} [] rfl (List.nodup_singleton _) (.start rfl) rfl (TableRows.hasRoom_empty _)
  have isOpen : ({ clock := .epoch } : Db).store.isClosed = false := rfl
  obtain ⟨_, broken, _⟩ := RowWrite.perform_of_broken
    (ready_dated "'9999-12-31T23:59:59-01:00'") isOpen (compute_lateStamp _ _)
  change Db.perform _ _ = _ at broken
  rw [done] at broken
  cases broken

end Tabula
