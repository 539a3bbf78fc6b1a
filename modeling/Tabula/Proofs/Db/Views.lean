import Tabula.Proofs.Db.FormulaCells
import Tabula.Proofs.Db.Settled
import Tabula.Proofs.Schema.Represented

/-!
Writes through different views of one table. What a write stores is computed over all fields of the
table, shown or not: views that understand the cells of a write alike store the same.
-/
namespace Tabula

/-- Two schemas of one table, with the same fields behind what they show. -/
structure Schema.Siblings (left right : Schema) : Prop where
  table : left.table = right.table
  fields : left.whole.columns.map Column.field = right.whole.columns.map Column.field

def Schema.Shows (schema : Schema) (id : FieldId) : Prop := ∃ column ∈ schema.columns, column.id = id

section
variable {table : Table} {first second : ComposeOptions} {left right schema : Schema}

theorem Schema.siblings (composed : Schema.compose table first = .ok left)
    (other : Schema.compose table second = .ok right) : left.Siblings right where
  table := (table_eq composed).trans (table_eq other).symm
  fields := (map_field_whole composed).trans (map_field_whole other).symm

theorem Schema.map_field_of_shows (composed : Schema.compose table first = .ok schema) {id : FieldId}
    (shows : schema.Shows id) :
    (schema.column? id).map Column.field = table.fields.reverse.find? (·.id = id) := by
  obtain ⟨column, member, rfl⟩ := shows
  rw [map_field_column? composed, if_pos (asksFor_of_mem composed member)]

theorem Schema.resolveCell_congr {key : CellKey}
    (same : (left.keyed? key).map Column.field = (right.keyed? key).map Column.field)
    (value : Value) : left.resolveCell (key, value) = right.resolveCell (key, value) := by
  unfold resolveCell
  dsimp only
  rcases Column.cases_of_map_field same with ⟨nothing, either⟩ | ⟨column, name, found, alike⟩
  · rw [nothing, either]
  · rw [found, alike]
    rfl

theorem Schema.resolveCells_congr {given : List (CellKey × Value)}
    (same : ∀ cell ∈ given,
      (left.keyed? cell.1).map Column.field = (right.keyed? cell.1).map Column.field) :
    left.resolveCells given = right.resolveCells given := by
  unfold resolveCells
  apply mapM_congr
  intro cell member
  obtain ⟨key, value⟩ := cell
  exact resolveCell_congr (same (key, value) member) value

theorem computeColumn_congr (same : left.Siblings right) (row : RowId) (so : Computation)
    (column : Column) :
    computeColumn left.whole row so column = computeColumn right.whole row so ⟨column.field, ""⟩ := by
  have table : left.whole.table = right.whole.table := same.table
  unfold computeColumn formulaValue
  simp only [formulaScope_eq same.fields, table]
  rfl

theorem compute_whole (same : left.Siblings right) (row : RowId) (start : Cells) :
    compute left.whole row start = compute right.whole row start := by
  -- both runs go over the fields alone
  let step (so : Computation) (field : Field) := computeColumn right.whole row so ⟨field, ""⟩
  have steps : computeColumn left.whole row = fun so column => step so column.field := by
    funext so column
    exact computeColumn_congr same row so column
  calc compute left.whole row start
      = (left.whole.columns.map Column.field).foldlM step { cells := start } := by
        rw [List.foldlM_map, compute, steps]
    _ = (right.whole.columns.map Column.field).foldlM step { cells := start } := by rw [same.fields]
    _ = compute right.whole row start := by
        rw [List.foldlM_map]
        rfl

namespace TableRows

variable {rows : TableRows}

theorem initialCells_eq (columns : List Column) :
    initialCells columns = IdMap.insertAll {}
      (((columns.map Column.field).filter (!·.kind.isComputed)).map fun field =>
        (field.id, field.kind.spec.initial)) := by
  rw [List.filter_map, List.map_map]
  rfl

theorem initialCells_whole (same : left.Siblings right) :
    initialCells left.whole.columns = initialCells right.whole.columns := by
  rw [initialCells_eq, same.fields, ← initialCells_eq]

theorem create_whole (same : left.Siblings right) (cells : List (FieldId × Value))
    (order : Option Decimal) (now : Instant) :
    rows.create left.whole cells order now = rows.create right.whole cells order now := by
  unfold create
  rw [initialCells_whole same]
  simp only [compute_whole same]

theorem update_whole (same : left.Siblings right) (row : Row) (cells : List (FieldId × Value))
    (order : Option Decimal) (now : Instant) :
    rows.update left.whole row cells order now = rows.update right.whole row cells order now := by
  unfold update
  rw [compute_whole same]

theorem isTableField_whole (same : left.Siblings right) (id : FieldId) :
    left.whole.isTableField id = right.whole.isTableField id := by
  have field (schema : Schema) :
      schema.whole.isTableField id = (schema.whole.columns.map Column.field).any (·.id = id) := by
    rw [List.any_map]
    rfl
  rw [field, field, same.fields]

theorem reconciled_whole (same : left.Siblings right) (row : Row) :
    reconciled left.whole row = reconciled right.whole row := by
  unfold reconciled
  simp only [isTableField_whole same, compute_whole same]

theorem reconcileRows_whole (same : left.Siblings right) (stored : List Row) :
    reconcileRows left.whole stored = reconcileRows right.whole stored := by
  induction stored with
  | nil => rfl
  | cons row rest ih =>
    unfold reconcileRows
    rw [reconciled_whole same, ih]

theorem reconcile_whole (same : left.Siblings right) :
    rows.reconcile left.whole = rows.reconcile right.whole := by
  unfold reconcile
  rw [reconcileRows_whole same]

end TableRows

/-- What a write of a row comes to, without the schema through which its row is shown. -/
def RowWrite.outcome (write : RowWrite) (schema : Schema) (db : Db) :
    Except (Failure RowError) Row × Db :=
  ((write.perform schema db).1.map Record.row, (write.perform schema db).2)

namespace Db

theorem writeRow_congr (same : left.Siblings right) (kind : WriteKind)
    (change : TableRows → Except RowError (Except Breakdown ((Row × Computation) × TableRows)))
    (db : Db) :
    (writeRow left kind change db).1.map Record.row = (writeRow right kind change db).1.map Record.row ∧
      (writeRow left kind change db).2 = (writeRow right kind change db).2 := by
  unfold writeRow
  rw [same.table]
  rcases perform (write right.table change) db with ⟨_ | _, _⟩ <;> exact ⟨rfl, rfl⟩

end Db

/-- Cells that are understood alike are written alike. -/
theorem RowWrite.outcome_congr {write : RowWrite} (same : left.Siblings right)
    (understood : ∀ cell ∈ write.input.cells,
      (left.keyed? cell.1).map Column.field = (right.keyed? cell.1).map Column.field) (db : Db) :
    write.outcome left db = write.outcome right db := by
  have resolved := Schema.resolveCells_congr understood
  unfold outcome perform
  rw [Prod.mk.injEq]
  cases write with
  | create given =>
    have taken : left.resolveCells given.cells = right.resolveCells given.cells := resolved
    dsimp only
    rw [Db.perform_create, Db.perform_create, taken]
    cases right.resolveCells given.cells with
    | error failure => exact ⟨rfl, rfl⟩
    | ok cells =>
      dsimp only
      simp only [TableRows.create_whole same]
      exact Db.writeRow_congr same _ _ _
  | update id given =>
    have taken : left.resolveCells given.cells = right.resolveCells given.cells := resolved
    dsimp only
    rw [Db.perform_update, Db.perform_update, taken]
    cases right.resolveCells given.cells with
    | error failure => exact ⟨rfl, rfl⟩
    | ok cells =>
      dsimp only
      simp only [TableRows.update_whole same, same.table]
      exact Db.writeRow_congr same _ _ _

theorem Db.reconcile_whole (same : left.Siblings right) :
    Db.reconcile left = Db.reconcile right := by
  unfold reconcile
  rw [same.table]
  simp only [TableRows.reconcile_whole same]

end

/-- Through any two views of a table that both show the fields of the given cells, a write comes to the
same row or the same error and leaves the same database, down to the formula cells that neither view
shows; and so does bringing the stored rows in line. -/
theorem outcome_of_views {table : Table} {first second : ComposeOptions} {left right : Schema}
    (composed : Schema.compose table first = .ok left)
    (other : Schema.compose table second = .ok right) (db : Db) :
    (∀ write : RowWrite,
      (∀ cell ∈ write.input.cells, ∃ id, cell.1 = .field id ∧ left.Shows id ∧ right.Shows id) →
      write.outcome left db = write.outcome right db) ∧
    Db.perform (Db.reconcile left) db = Db.perform (Db.reconcile right) db := by
  have same := Schema.siblings composed other
  constructor
  · intro write shown
    apply RowWrite.outcome_congr same
    intro cell member
    obtain ⟨id, key, leftShows, rightShows⟩ := shown cell member
    rw [key]
    change (left.column? id).map Column.field = (right.column? id).map Column.field
    rw [Schema.map_field_of_shows composed leftShows, Schema.map_field_of_shows other rightShows]
  · rw [Db.reconcile_whole same]

/-! A table with a formula, and two views of it that show one other field. -/

def ledgerTable : Table where
  id := ⟨3⟩
  database := ⟨2⟩
  name := "Ledger"
  order := 1
  fields :=
    [⟨⟨4⟩, ⟨3⟩, "Title", 1, false, .stored (.text (some "untitled"))⟩,
      ⟨⟨5⟩, ⟨3⟩, "Amount", 2, false, .stored (.number {})⟩,
      ⟨⟨6⟩, ⟨3⟩, "Mark", 3, false, .computed "'x'" .text⟩]

abbrev ledgerSchema : Schema := Schema.ofTable ledgerTable {}

abbrev amountOptions : ComposeOptions where
  fields := some [⟨5⟩]
  attributeNames := true

abbrev amountSchema : Schema := Schema.ofTable ledgerTable amountOptions

theorem compute_ledger (row : RowId) (start : Cells) :
    compute amountSchema.whole row start = .ok ⟨start.insert ⟨6⟩ (.text "x"), 1, []⟩ := by
  unfold compute
  change List.foldlM _ _ [_, _, _] = _
  simp only [List.foldlM_cons, List.foldlM_nil, computeColumn, formulaValue_of_parse parse_second]
  rfl

theorem create_ledger (input : RowInput) {taken : List (FieldId × Value)}
    (resolved : amountSchema.resolveCells input.cells = .ok taken) :
    ∃ record later,
      (RowWrite.create input).perform amountSchema { clock := .epoch } = (.ok record, later) ∧
        record.row.cells.find? ⟨6⟩ = some (.text "x") := by
  have isOpen : ({ clock := .epoch } : Db).store.isClosed = false := rfl
  have ready : (RowWrite.create input).Ready amountSchema {} ⟨1⟩ _ :=
    .create resolved (TableRows.hasRoom_empty _)
  obtain ⟨made, later, done, _, cells, _⟩ :=
    RowWrite.perform_of_computed ready isOpen (compute_ledger _ _)
  refine ⟨_, later, done, ?_⟩
  rw [cells]
  exact IdMap.find?_insert_self _ _ _

abbrev filterOptions : ComposeOptions where
  fieldIds := some [⟨5⟩]
  reservedNames := ["amount"]

abbrev filterSchema : Schema := Schema.ofTable ledgerTable filterOptions

def oneAmount : RowInput where
  cells := [(.field ⟨5⟩, .text "1")]

theorem outcome_of_amount_views : ∃ row later,
    (RowWrite.create oneAmount).outcome amountSchema { clock := .epoch } = (.ok row, later) ∧
      (RowWrite.create oneAmount).outcome filterSchema { clock := .epoch } = (.ok row, later) ∧
      row.cells.find? ⟨6⟩ = some (.text "x") ∧
      ¬ amountSchema.Shows ⟨6⟩ ∧ ¬ filterSchema.Shows ⟨6⟩ := by
  have resolved : amountSchema.resolveCells oneAmount.cells = .ok [(⟨5⟩, .number .one)] := rfl
  obtain ⟨record, later, done, mark⟩ := create_ledger oneAmount resolved
  have composed : Schema.compose ledgerTable amountOptions = .ok amountSchema := rfl
  have other : Schema.compose ledgerTable filterOptions = .ok filterSchema := rfl
  have shown : ∀ cell ∈ (RowWrite.create oneAmount).input.cells,
      ∃ id, cell.1 = .field id ∧ amountSchema.Shows id ∧ filterSchema.Shows id := by
    intro cell member
    rw [List.mem_singleton.1 member]
    exact ⟨⟨5⟩, rfl, ⟨_, List.mem_singleton_self _, rfl⟩, ⟨_, List.mem_singleton_self _, rfl⟩⟩
  have same := (outcome_of_views composed other { clock := .epoch }).1 _ shown
  have outcome : (RowWrite.create oneAmount).outcome amountSchema { clock := .epoch } =
      (.ok record.row, later) := by
    unfold RowWrite.outcome
    rw [done]
    rfl
  refine ⟨record.row, later, outcome, same.symm.trans outcome, mark, ?_, ?_⟩
  · rintro ⟨column, member, isMark⟩
    cases List.mem_singleton.1 member
    cases isMark
  · rintro ⟨column, member, isMark⟩
    cases List.mem_singleton.1 member
    cases isMark

end Tabula
