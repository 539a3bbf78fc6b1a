import Tabula.Proofs.Db.Perform
import Tabula.Proofs.Formula.Literal
import Tabula.Proofs.Predicate.Columns
import Tabula.Proofs.Row.Computed
import Tabula.Proofs.Row.Read
import Tabula.Proofs.Schema.Represented

/-!
Rows with missing cells, and the same rows with the initial values of their columns filled in. Whatever
reads a row reads the same of both: restrictions, orderings, records and formulas.
-/
namespace Tabula

/-- The row that the missing cells of shown columns were filled into, and nothing else. -/
structure Schema.Fills (schema : Schema) (row filled : Row) : Prop where
  id : filled.id = row.id
  order : filled.order = row.order
  createdOn : filled.createdOn = row.createdOn
  updatedOn : filled.updatedOn = row.updatedOn
  shown : ∀ column ∈ schema.columns, filled.cells.find? column.id = some (row.cell column)
  others : ∀ id, id ∉ schema.columns.map Column.id → filled.cells.find? id = row.cells.find? id

/-- Cells that read alike in every column of the schema. -/
def Schema.ReadsAlike (schema : Schema) (left right : Cells) : Prop :=
  ∀ column ∈ schema.columns, cellOf left column = cellOf right column

def Schema.fill (schema : Schema) (row : Row) : Row :=
  { row with cells := row.cells.insertAll (schema.columns.map fun column => (column.id, row.cell column)) }

theorem Schema.fills_fill {schema : Schema} (distinct : (schema.columns.map Column.id).Nodup) (row : Row) :
    schema.Fills row (schema.fill row) := by
  have ids : (schema.columns.map fun column => (column.id, row.cell column)).map Prod.fst =
      schema.columns.map Column.id := by
    rw [List.map_map]
    rfl
  refine ⟨rfl, rfl, rfl, rfl, ?_, ?_⟩
  · intro column member
    rw [← ids] at distinct
    exact IdMap.find?_insertAll_of_mem row.cells distinct
      (List.mem_map_of_mem (f := fun column => (column.id, row.cell column)) member)
  · intro id absent
    rw [← ids] at absent
    exact IdMap.find?_insertAll_of_not_mem row.cells absent

namespace Schema.Fills

variable {table : Table} {options : ComposeOptions} {schema : Schema} {row filled : Row}

theorem cell (fills : schema.Fills row filled) {column : Column} (member : column ∈ schema.columns) :
    filled.cell column = row.cell column := by
  change (filled.cells.find? column.id).getD column.spec.initial = row.cell column
  rw [fills.shown column member]
  rfl

/-- What the schema does not show reads the same too: of two columns with one identifier it shows both
or neither. -/
theorem readsAlike_whole (fills : schema.Fills row filled)
    (composed : Schema.compose table options = .ok schema) :
    schema.whole.ReadsAlike filled.cells row.cells := by
  intro column member
  by_cases shown : column.id ∈ schema.columns.map Column.id
  · obtain ⟨other, inside, same⟩ := List.mem_map.1 shown
    have asked := asksFor_of_mem composed inside
    rw [same] at asked
    apply fills.cell
    rw [columns_eq composed]
    exact List.mem_filter.2 ⟨member, asked⟩
  · unfold cellOf
    rw [fills.others column.id shown]

theorem read? (fills : schema.Fills row filled) (id : FieldId) :
    schema.read? filled id = schema.read? row id := by
  unfold Schema.read?
  cases found : schema.column? id with
  | none => rfl
  | some column => rw [Option.map_some, Option.map_some, fills.cell (column?_mem found).1]

theorem systemValue (fills : schema.Fills row filled) (column : SystemColumn) :
    filled.systemValue column = row.systemValue column := by
  unfold Row.systemValue
  rw [fills.id, fills.order, fills.createdOn, fills.updatedOn]

theorem column_readsAlike (fills : schema.Fills row filled) (key : ColumnKey) :
    key.ReadsAlike schema filled schema row := by
  cases key with
  | field id =>
    constructor
    · intro test
      rw [acceptsColumn_field, acceptsColumn_field, fills.read?]
    · intro test
      rw [columnFault?_field, columnFault?_field, fills.read?]
  | system column =>
    constructor
    · intro test
      simp only [CellTest.acceptsColumn, fills.systemValue]
    · intro test
      simp only [CellTest.columnFault?, fills.systemValue]

end Schema.Fills

/-- Whatever is read of one record is read of the other. -/
structure Record.ReadsAlike (record other : Record) : Prop where
  values : record.values = other.values
  get? : ∀ name, record.get? name = other.get? name
  stable? : ∀ name, record.stable? name = other.stable? name
  attribute? : ∀ name, record.attribute? name = other.attribute? name
  field? : ∀ id, record.field? id = other.field? id
  display : record.display = other.display
  displayFault? : record.displayFault? = other.displayFault?
  json : record.json = other.json

section
variable {schema : Schema} {row filled : Row}

theorem map_valueOf_of_fills (fills : schema.Fills row filled) {found : Option Column}
    (shown : ∀ column, found = some column → column ∈ schema.columns) :
    found.map (⟨schema, filled⟩ : Record).valueOf = found.map (⟨schema, row⟩ : Record).valueOf := by
  cases found with
  | none => rfl
  | some column => exact congrArg some (fills.cell (shown column rfl))

theorem primary_of_fills (fills : schema.Fills row filled) {column : Column}
    (primary : schema.primaryColumn? = some column) : filled.cell column = row.cell column :=
  fills.cell (List.mem_of_find?_eq_some primary)

theorem record_of_fills (fills : schema.Fills row filled) :
    (⟨schema, filled⟩ : Record).ReadsAlike ⟨schema, row⟩ where
  values := by
    unfold Record.values
    apply List.map_congr_left
    intro column member
    exact congrArg (Prod.mk _) (fills.cell member)
  get? name := map_valueOf_of_fills fills fun _ found => Schema.resolve?_mem found
  stable? name := map_valueOf_of_fills fills fun _ found => (Schema.of_columnAt? found).1
  attribute? name := map_valueOf_of_fills fills fun _ found => (Schema.of_columnAt? found).1
  field? id := map_valueOf_of_fills fills fun _ found => (Schema.column?_mem found).1
  display := by
    have primaryText : (⟨schema, filled⟩ : Record).primaryText? = (⟨schema, row⟩ : Record).primaryText? := by
      unfold Record.primaryText? Record.valueOf
      cases primary : schema.primaryColumn? with
      | none => rfl
      | some column =>
        simp only [Option.bind_eq_bind, Option.bind_some, primary_of_fills fills primary]
    unfold Record.display Record.id
    rw [primaryText, fills.id]
  displayFault? := by
    unfold Record.displayFault? Record.valueOf
    cases primary : schema.primaryColumn? with
    | none => rfl
    | some column =>
      simp only [Option.bind_eq_bind, Option.bind_some, primary_of_fills fills primary]
  json := by
    have cells : (schema.columns.map fun column => (schema.keyOf column, cellJson column (filled.cell column))) =
        schema.columns.map fun column => (schema.keyOf column, cellJson column (row.cell column)) := by
      apply List.map_congr_left
      intro column member
      rw [fills.cell member]
    unfold Record.json Record.valueOf Record.id
    rw [fills.id, fills.order, cells]

end

/-! Formulas over cells that read alike. -/

/-- Computations that went alike, over cells that read alike. -/
structure Computation.Alike (schema : Schema) (left right : Computation) : Prop where
  cells : schema.ReadsAlike left.cells right.cells
  computed : left.computed = right.computed
  warnings : left.warnings = right.warnings

structure Computation.SameResults (schema : Schema) (left right : Computation) : Prop where
  cells : ∀ id ∈ formulaIds schema.columns, ∃ value,
    left.cells.find? id = some value ∧ right.cells.find? id = some value
  computed : left.computed = right.computed
  warnings : left.warnings = right.warnings

section
variable {schema : Schema} {row : RowId}

theorem formulaScope_of_readsAlike {left right : Cells} (alike : schema.ReadsAlike left right) :
    formulaScope schema row left = formulaScope schema row right := by
  unfold formulaScope
  congr 1
  funext name
  cases found : schema.named? name with
  | none => rfl
  | some column =>
    rw [Schema.named?_eq] at found
    rw [Option.map_some, Option.map_some, alike column (List.mem_of_find?_eq_some found)]

theorem Schema.ReadsAlike.insert {left right : Cells} (alike : schema.ReadsAlike left right)
    (id : FieldId) (value : Value) : schema.ReadsAlike (left.insert id value) (right.insert id value) := by
  intro column member
  have before := alike column member
  unfold cellOf at before ⊢
  rw [IdMap.find?_insert, IdMap.find?_insert]
  split
  · rfl
  · exact before

theorem computeColumn_alike {left right : Computation} (alike : left.Alike schema right)
    (column : Column) :
    SameOutcome (Computation.Alike schema) (computeColumn schema row left column)
      (computeColumn schema row right column) := by
  obtain ⟨cells, computed, warnings⟩ := alike
  unfold computeColumn formulaValue
  rw [formulaScope_of_readsAlike cells, computed, warnings]
  split
  · exact .ok ⟨cells, computed, warnings⟩
  · dsimp only
    split
    · exact .ok ⟨cells.insert _ _, rfl, rfl⟩
    · exact .ok ⟨cells.insert _ _, rfl, rfl⟩
    · exact .error _

/-- Over cells that read alike the formulas come to the same cells, with the same warnings, or break
off alike. -/
theorem compute_alike {left right : Cells} (alike : schema.ReadsAlike left right) :
    SameOutcome (Computation.SameResults schema) (compute schema row left)
      (compute schema row right) := by
  have same : SameOutcome (Computation.Alike schema) (compute schema row left)
      (compute schema row right) :=
    SameOutcome.foldlM (fun _ _ column related => computeColumn_alike related column)
      ⟨alike, rfl, rfl⟩
  cases firstRun : compute schema row left with
  | error broken =>
    rw [firstRun] at same
    generalize compute schema row right = outcome at same ⊢
    cases same
    exact .error broken
  | ok first =>
    rw [firstRun] at same
    cases secondRun : compute schema row right with
    | error broken =>
      rw [secondRun] at same
      cases same
    | ok second =>
      rw [secondRun] at same
      obtain ⟨cells, computed, warnings⟩ : first.Alike schema second := by
        cases same
        assumption
      refine .ok ⟨?_, computed, warnings⟩
      intro id pending
      obtain ⟨value, here⟩ := Option.isSome_iff_exists.1 ((isSome_of_computed firstRun).2 (.inr pending))
      obtain ⟨other, there⟩ := Option.isSome_iff_exists.1 ((isSome_of_computed secondRun).2 (.inr pending))
      obtain ⟨column, member, rfl⟩ := List.mem_map.1 (mem_ids_of_mem_formulaIds pending)
      have equal := cells column member
      unfold cellOf at equal
      rw [here, there, Option.getD_some, Option.getD_some] at equal
      rw [← equal] at there
      exact ⟨value, here, there⟩

end

/-- Which columns a pass over a row computes: all that are computed at all, or those that are to be
computed again after an update. -/
inductive Refresh
  | all
  | afterUpdate

def Refresh.selects : Refresh → Field → Bool
  | all, field => field.tag.isReadOnly
  | afterUpdate, field => field.isRefreshedAfterUpdate

def Refresh.compute (refresh : Refresh) (schema : Schema) (row : RowId) (cells : Cells) :
    Except Breakdown Computation :=
  (schema.columns.filter (refresh.selects ·.field)).foldlM (computeColumn schema row) { cells }

theorem FieldKind.isReadOnly_tag (kind : FieldKind) : kind.tag.isReadOnly = kind.isComputed := by
  cases kind with
  | stored type => cases type <;> rfl
  | computed source result => rfl

theorem Refresh.selects_eq (refresh : Refresh) (field : Field) :
    refresh.selects field = field.kind.isComputed := by
  cases refresh with
  | all => exact field.kind.isReadOnly_tag
  | afterUpdate => rfl

theorem Refresh.compute_eq (refresh : Refresh) (schema : Schema) (row : RowId) (cells : Cells) :
    refresh.compute schema row cells = Tabula.compute schema row cells := by
  unfold compute Tabula.compute
  rw [List.foldlM_filter]
  congr 1
  funext so column
  rw [selects_eq]
  split
  · rfl
  · rename_i plain
    exact (computeColumn_of_stored (by simpa using plain)).symm

/-- A row is read as if the initial values of the columns that it has no cells of were stored in it: by
restrictions and orderings, through records, and by the formulas of its table. -/
theorem filled_row_reads_alike {table : Table} {options : ComposeOptions} {schema : Schema}
    {row filled : Row} (composed : Schema.compose table options = .ok schema)
    (fills : schema.Fills row filled) :
    (∀ predicate : Predicate, predicate.accepts schema filled = predicate.accepts schema row ∧
      predicate.fault? schema filled = predicate.fault? schema row) ∧
    (∀ terms, schema.orderKeys terms filled = schema.orderKeys terms row) ∧
    (⟨schema, filled⟩ : Record).ReadsAlike ⟨schema, row⟩ ∧
    ∀ (refresh : Refresh) (id : RowId), SameOutcome (Computation.SameResults schema.whole)
      (refresh.compute schema.whole id filled.cells) (refresh.compute schema.whole id row.cells) := by
  refine ⟨?_, ?_, record_of_fills fills, ?_⟩
  · intro predicate
    have alike : ∀ key ∈ predicate.columns, key.ReadsAlike schema filled schema row :=
      fun key _ => fills.column_readsAlike key
    exact ⟨predicate.accepts_congr fills.id alike, predicate.fault?_congr fills.id alike⟩
  · intro terms
    rw [orderKeys_eq, orderKeys_eq]
    simp only [fills.read?]
  · intro refresh id
    rw [refresh.compute_eq, refresh.compute_eq]
    exact compute_alike (fills.readsAlike_whole composed)

/-! A row that is older than the two fields of its table, the second of which copies the first. -/

def laterTable : Table where
  id := ⟨3⟩
  database := ⟨2⟩
  name := "Later"
  order := 1
  fields :=
    [⟨⟨4⟩, ⟨3⟩, "Note", 1, true, .stored (.text (some "none"))⟩,
      ⟨⟨5⟩, ⟨3⟩, "Copy", 2, false, .computed "field('Note')" .text⟩]

abbrev laterSchema : Schema := Schema.ofTable laterTable {}

def olderRow : Row := ⟨⟨1⟩, .one, .epoch, .epoch, default⟩

theorem parse_copy : Formula.parse "field('Note')" = .ok (.field "Note") := by
  have written : "field(" ++ Formula.literal '\'' "Note" ++ ")" = "field('Note')" := by decide
  rw [← written]
  exact Formula.parse_field_literal (by decide) "Note"

theorem compute_filled : ∃ computation,
    Refresh.all.compute laterSchema.whole ⟨1⟩ (laterSchema.fill olderRow).cells = .ok computation ∧
      computation.cells.find? ⟨5⟩ = some (.text "none") := by
  rw [Refresh.compute_eq]
  unfold compute
  change ∃ computation, List.foldlM _ _ [_, _] = _ ∧ _
  simp only [List.foldlM_cons, List.foldlM_nil, computeColumn, formulaValue_of_parse parse_copy]
  exact ⟨_, rfl, rfl⟩

theorem older_row_reads_alike :
    olderRow.cells.size = 0 ∧ (laterSchema.fill olderRow).cells.size = 2 ∧
      (⟨laterSchema, olderRow⟩ : Record).display = "none" ∧
      ∃ computation, Refresh.all.compute laterSchema.whole ⟨1⟩ olderRow.cells = .ok computation ∧
        computation.cells.find? ⟨5⟩ = some (.text "none") := by
  have distinct : (laterSchema.columns.map Column.id).Nodup := by decide
  obtain ⟨_, _, records, formulas⟩ :=
    filled_row_reads_alike (rfl : Schema.compose laterTable {} = .ok laterSchema)
      (Schema.fills_fill distinct olderRow)
  refine ⟨rfl, rfl, records.display.symm.trans rfl, ?_⟩
  obtain ⟨filled, done, copied⟩ := compute_filled
  have same := formulas .all ⟨1⟩
  rw [done] at same
  generalize Refresh.all.compute laterSchema.whole ⟨1⟩ olderRow.cells = outcome at same ⊢
  cases same with
  | ok results =>
    obtain ⟨value, first, second⟩ := results.cells ⟨5⟩ (by decide)
    rw [copied] at first
    cases first
    exact ⟨_, rfl, second⟩

end Tabula
