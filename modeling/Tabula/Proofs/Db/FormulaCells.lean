import Tabula.Proofs.Db.RowWrites
import Tabula.Proofs.Formula.Literal

/-!
Formula cells of a row that was written. A write computes them once, in field order; each formula
then has the value that follows from the stored row, unless it names a computed field that the pass
reaches later.
-/
namespace Tabula

/-- The computed columns that a pass in field order has still to fill when it comes to a column. -/
def Schema.pending (schema : Schema) (id : FieldId) : List FieldId :=
  formulaIds (schema.columns.dropWhile (·.id ≠ id))

/-- The formula of a field names plain fields, computed fields before its own, or no field at all. -/
def Schema.ReadsBack (schema : Schema) (id : FieldId) (source : String) : Prop :=
  ∀ expr, Formula.parse source = .ok expr → ∀ name ∈ expr.fieldNames, ∀ column,
    schema.named? name = some column → column.id ∉ schema.pending id

/-- What the formula of a field finds in a row: of the columns that are still to be filled, the cells
from before the write. -/
def Schema.cellsMet (schema : Schema) (id : FieldId) (before stored : Cells) : Cells :=
  IdMap.restoreAll before stored (schema.pending id)

section
variable {schema : Schema} {row : RowId}

theorem dropWhile_of_split {front behind : List Column} {column : Column}
    (distinct : ((front ++ column :: behind).map Column.id).Nodup) :
    (front ++ column :: behind).dropWhile (·.id ≠ column.id) = column :: behind := by
  rw [List.map_append, List.nodup_append] at distinct
  have apart : ∀ other ∈ front, (decide (other.id ≠ column.id)) = true := by
    intro other inside
    exact decide_eq_true (distinct.2.2 _ (List.mem_map_of_mem inside) _ (by simp))
  rw [List.dropWhile_append_of_pos apart]
  simp

theorem find?_cellsMet (stored : Cells) {start before : Cells} {front behind : List Column} {column : Column}
    (distinct : (schema.columns.map Column.id).Nodup)
    (agree : ∀ id ∈ formulaIds schema.columns, start.find? id = before.find? id)
    (split : schema.columns = front ++ column :: behind) (id : FieldId) :
    (schema.cellsMet column.id before stored).find? id =
      (IdMap.restoreAll start stored (formulaIds (column :: behind))).find? id := by
  have rest : schema.pending column.id = formulaIds (column :: behind) := by
    unfold Schema.pending
    rw [split] at distinct ⊢
    rw [dropWhile_of_split distinct]
  unfold Schema.cellsMet
  rw [rest, IdMap.find?_restoreAll, IdMap.find?_restoreAll]
  split
  · rename_i pending
    apply (agree _ _).symm
    rw [split]
    exact mem_formulaIds_append_right pending
  · rfl

theorem formulaValue_cellsMet {start before : Cells} {met computation : Computation}
    {front behind : List Column} {column : Column}
    (distinct : (schema.columns.map Column.id).Nodup)
    (agree : ∀ id ∈ formulaIds schema.columns, start.find? id = before.find? id)
    (run : compute schema row start = .ok computation)
    (split : schema.columns = front ++ column :: behind)
    (first : front.foldlM (computeColumn schema row) { cells := start } = .ok met)
    (source : String) (result : ResultType) :
    formulaValue schema row met.cells source result =
      formulaValue schema row (schema.cellsMet column.id before computation.cells) source result := by
  have same := find?_cellsMet computation.cells distinct agree split
  unfold compute at run
  rw [split] at run distinct
  rw [formulaValue_of_met distinct first run]
  apply formulaValue_congr result
  intro _ _ _ _ other _
  exact (same other.id).symm

/-- After a whole pass each formula has its value over the cells that it met. -/
theorem formulaCell_of_compute {start before : Cells} {computation : Computation} {column : Column}
    {source : String} {result : ResultType}
    (distinct : (schema.columns.map Column.id).Nodup)
    (agree : ∀ id ∈ formulaIds schema.columns, start.find? id = before.find? id)
    (run : compute schema row start = .ok computation) (member : column ∈ schema.columns)
    (kind : column.field.kind = .computed source result) :
    ∃ cell, computation.cells.find? column.id = some cell ∧
      formulaCell schema row (schema.cellsMet column.id before computation.cells) source result =
        .ok cell := by
  obtain ⟨front, behind, split⟩ := List.append_of_mem member
  have same := find?_cellsMet computation.cells distinct agree split
  unfold compute at run
  rw [split] at run distinct
  obtain ⟨cell, found, value⟩ := formulaCell_of_computed kind distinct run
  refine ⟨cell, found, ?_⟩
  rw [← value]
  apply formulaCell_congr result
  intro _ _ _ _ other _
  exact same other.id

theorem formulaCell_cellsMet {before stored : Cells} {id : FieldId} {source : String}
    (result : ResultType) (back : schema.ReadsBack id source) :
    formulaCell schema row (schema.cellsMet id before stored) source result =
      formulaCell schema row stored source result := by
  apply formulaCell_congr result
  intro expr parsed name used column found
  unfold Schema.cellsMet
  rw [IdMap.find?_restoreAll, if_neg (back expr parsed name used column found)]

variable {table : Table} {options : ComposeOptions}

theorem find?_insertAll_taken {given : List (CellKey × Value)} {taken : List (FieldId × Value)}
    {id : FieldId} (composed : Schema.compose table options = .ok schema)
    (distinct : (schema.whole.columns.map Column.id).Nodup)
    (done : schema.resolveCells given = .ok taken) (pending : id ∈ formulaIds schema.whole.columns)
    (cells : Cells) : (cells.insertAll taken).find? id = cells.find? id := by
  apply IdMap.find?_insertAll_of_not_mem
  intro member
  obtain ⟨plain, shown, same, stored⟩ := Schema.stored_of_resolveCells done member
  rw [← same] at pending
  exact not_mem_formulaIds distinct (Schema.mem_tableColumns composed shown) stored pending

theorem RowWrite.agree_of_ready {rows : TableRows} {write : RowWrite} {start : Cells}
    (composed : Schema.compose table options = .ok schema)
    (distinct : (schema.whole.columns.map Column.id).Nodup)
    (ready : write.Ready schema rows row start) :
    ∀ id ∈ formulaIds schema.whole.columns, start.find? id = (write.cellsBefore rows).find? id := by
  intro id pending
  cases ready with
  | create resolved room =>
    rw [find?_insertAll_taken composed distinct resolved pending]
    exact TableRows.find?_initialCells pending distinct
  | update resolved found =>
    rw [find?_insertAll_taken composed distinct resolved pending]
    simp [cellsBefore, found]

end

/-- Every formula cell of a row that a write stores holds the value of its formula: over the stored
row where the formula reads back, and in any case over that row with the cells of the formulas that
were still to come as they were before the write. -/
theorem formula_cells_of_write {table : Table} {options : ComposeOptions} {schema : Schema}
    {db later : Db} {record : Record} {write : RowWrite}
    (composed : Schema.compose table options = .ok schema)
    (distinct : (table.fields.map Field.id).Nodup)
    (done : write.perform schema db = (.ok record, later)) :
    (later.rowsOf table.id).find? record.id = some record.row ∧
      ∀ field ∈ table.fields, ∀ source result, field.kind = .computed source result →
        ∃ cell, record.row.cells.find? field.id = some cell ∧
          formulaCell schema.whole record.id
            (schema.whole.cellsMet field.id (write.cellsBefore (db.rowsOf table.id))
              record.row.cells) source result = .ok cell ∧
          (schema.whole.ReadsBack field.id source →
            formulaCell schema.whole record.id record.row.cells source result = .ok cell) := by
  have place := Schema.table_eq composed
  rw [← Schema.map_id_whole composed] at distinct
  obtain ⟨start, computation, ready, run, same, found⟩ := RowWrite.ready_of_done done
  have agree := RowWrite.agree_of_ready composed distinct ready
  rw [← place, same]
  refine ⟨found, ?_⟩
  intro field member source result kind
  obtain ⟨column, shown, rfl⟩ := Schema.exists_column composed member
  obtain ⟨cell, stored, value⟩ := formulaCell_of_compute distinct agree run shown kind
  refine ⟨cell, stored, value, ?_⟩
  intro back
  rw [← value]
  exact (formulaCell_cellsMet result back).symm

/-! A formula that names a later one: the pass meets that one's cell before it is computed. -/

def forwardTable : Table where
  id := ⟨3⟩
  database := ⟨2⟩
  name := "t"
  order := 1
  fields :=
    [⟨⟨4⟩, ⟨3⟩, "First", 1, false, .computed "field('Second')" .text⟩,
      ⟨⟨5⟩, ⟨3⟩, "Second", 2, false, .computed "'x'" .text⟩]

abbrev forwardSchema : Schema := Schema.ofTable forwardTable {}

def forwardRow : Row where
  id := ⟨1⟩
  order := .one
  createdOn := .epoch
  updatedOn := .epoch
  cells := (IdMap.insert default ⟨4⟩ .null : Cells).insert ⟨5⟩ (.text "x")

theorem formulaValue_first (row : RowId) (cells : Cells) :
    formulaValue forwardSchema.whole row cells "field('Second')" .text =
      (Formula.Expr.field "Second").evaluate (formulaScope forwardSchema.whole row cells) .text := by
  have written : "field(" ++ Formula.literal '\'' "Second" ++ ")" = "field('Second')" := by decide
  rw [← written, formulaValue_of_parse (Formula.parse_field_literal (by decide) "Second")]

theorem parse_second : Formula.parse "'x'" = .ok (.text "x") := by
  have written : Formula.literal '\'' "x" = "'x'" := by decide
  rw [← written]
  exact Formula.parse_literal (by decide) "x"

theorem formulaValue_second (row : RowId) (cells : Cells) :
    formulaValue forwardSchema.whole row cells "'x'" .text = .ok (.text "x") := by
  rw [formulaValue_of_parse parse_second]
  rfl

theorem readsBack_second : forwardSchema.whole.ReadsBack ⟨5⟩ "'x'" := by
  intro expr parsed name used
  rw [parse_second] at parsed
  cases parsed
  cases used

theorem compute_forward :
    compute forwardSchema.whole ⟨1⟩ {} = .ok ⟨forwardRow.cells, 2, []⟩ := by
  unfold compute
  change List.foldlM _ _ [_, _] = _
  simp only [List.foldlM_cons, List.foldlM_nil, computeColumn, formulaValue_first,
    formulaValue_second]
  rfl

theorem create_forward : ({} : TableRows).create forwardSchema.whole [] none .epoch =
    .ok ((forwardRow, ⟨forwardRow.cells, 2, []⟩), ({ lastId := 1 } : TableRows).put forwardRow) := by
  rw [TableRows.create_eq]
  change (compute forwardSchema.whole ⟨1⟩ {} >>= _) = _
  rw [compute_forward]
  rfl

theorem perform_forward : ∃ later, (RowWrite.create {}).perform forwardSchema { clock := .epoch } =
    (.ok ⟨forwardSchema, forwardRow⟩, later) :=
  Db.perform_create_ok rfl rfl create_forward

theorem formula_cells_of_forward_row : ∃ later,
    (RowWrite.create {}).perform forwardSchema { clock := .epoch } =
      (.ok ⟨forwardSchema, forwardRow⟩, later) ∧
    (later.rowsOf ⟨3⟩).find? ⟨1⟩ = some forwardRow ∧
    ∃ cell, forwardRow.cells.find? ⟨5⟩ = some cell ∧
      formulaCell forwardSchema.whole ⟨1⟩ forwardRow.cells "'x'" .text = .ok cell := by
  obtain ⟨later, done⟩ := perform_forward
  have composed : Schema.compose forwardTable {} = .ok forwardSchema := rfl
  obtain ⟨found, cells⟩ := formula_cells_of_write composed (by decide) done
  obtain ⟨cell, stored, _, value⟩ :=
    cells _ (List.mem_cons_of_mem _ (List.mem_singleton_self _)) _ _ rfl
  exact ⟨later, done, found, cell, stored, value readsBack_second⟩

/-- Not every formula cell of a stored row has the value of its formula over that row. -/
theorem not_all_formula_cells_current :
    ¬ ∀ (table : Table) (options : ComposeOptions) (schema : Schema) (db later : Db)
      (record : Record) (write : RowWrite),
      Schema.compose table options = .ok schema → (table.fields.map Field.id).Nodup →
      write.perform schema db = (.ok record, later) →
      ∀ field ∈ table.fields, ∀ source result, field.kind = .computed source result →
        ∃ cell, record.row.cells.find? field.id = some cell ∧
          formulaCell schema.whole record.id record.row.cells source result = .ok cell := by
  intro refuted
  obtain ⟨later, done⟩ := perform_forward
  obtain ⟨cell, stored, value⟩ :=
    refuted forwardTable {} forwardSchema _ later _ _ rfl (by decide) done _
      (List.mem_cons_self) _ _ rfl
  have null : cell = .null := by
    cases stored
    rfl
  have text : cell = .text "x" := by
    unfold formulaCell at value
    rw [formulaValue_first] at value
    cases value
    rfl
  rw [null] at text
  cases text

end Tabula
