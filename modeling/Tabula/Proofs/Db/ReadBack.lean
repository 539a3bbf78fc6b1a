import Tabula.Proofs.Db.Reached
import Tabula.Proofs.Db.Views

/-!
Cells of a row that was written, read again through any view of its table: each field has the last value
that the write gave it, or else what it had before, under whichever name it is asked for.
-/
namespace Tabula

/-- Whichever way the column is named, the record gives the value for it. -/
structure Record.Reads (record : Record) (column : Column) (value : Value) : Prop where
  get? : record.get? (record.schema.keyOf column) = some value
  stable? : record.stable? column.stableName = some value
  attribute? : record.attribute? column.attributeName = some value
  field? : record.field? column.id = some value

/-- A key names a field by its identifier, or by the name of its column in the view. -/
def Schema.keyNames (schema : Schema) (id : FieldId) : CellKey → Bool
  | .name written => schema.columns.any fun column => column.id = id && schema.keyOf column = written
  | .field other => other = id

/-- What a write gives for a field: of several values the last. -/
def Schema.lastGiven? (schema : Schema) (id : FieldId) (given : List (CellKey × Value)) :
    Option Value :=
  (given.filter fun cell => schema.keyNames id cell.1).getLast?.map Prod.snd

namespace RowWrite

def target? : RowWrite → Option RowId
  | create _ => none
  | update id _ => some id

/-- What a field has after a write that gives nothing for it: its initial value in a new row, and in
another row what was read there before. -/
def Leaves (schema : Schema) (db : Db) (column : Column) (value : Value) : RowWrite → Prop
  | create _ => value = column.spec.initial
  | update id _ => ∃ before, Db.get schema id db = .ok before ∧ before.Reads column value

end RowWrite

section
variable {table : Table} {options : ComposeOptions} {schema : Schema} {column : Column}

theorem Schema.Represents.resolve?_iff (represents : schema.Represents table options)
    (name : String) (column : Column) :
    schema.resolve? name = some column ↔ column ∈ schema.columns ∧ schema.keyOf column = name := by
  unfold resolve? keyOf
  split
  · exact represents.attribute?_iff name column
  · exact represents.stable?_iff name column

theorem Record.reads_cell (represents : schema.Represents table options)
    (member : column ∈ schema.columns) (row : Row) :
    (⟨schema, row⟩ : Record).Reads column (row.cell column) where
  get? := by
    unfold Record.get?
    rw [(represents.resolve?_iff _ _).2 ⟨member, rfl⟩]
    rfl
  stable? := by
    unfold Record.stable?
    rw [(represents.stable?_iff _ _).2 ⟨member, rfl⟩]
    rfl
  attribute? := by
    unfold Record.attribute?
    rw [(represents.attribute?_iff _ _).2 ⟨member, rfl⟩]
    rfl
  field? := by
    unfold Record.field?
    rw [(represents.column?_iff _ _).2 ⟨member, rfl⟩]
    rfl

theorem Schema.keyNames_iff (represents : schema.Represents table options) {key : CellKey}
    (found : schema.keyed? key = some column) (id : FieldId) :
    schema.keyNames id key = true ↔ column.id = id := by
  cases key with
  | field other =>
    obtain ⟨_, rfl⟩ := column?_mem found
    simp [keyNames]
  | name written =>
    obtain ⟨member, rfl⟩ := (represents.resolve?_iff _ _).1 found
    simp only [keyNames, List.any_eq_true, Bool.and_eq_true, decide_eq_true_eq]
    constructor
    · rintro ⟨other, inside, rfl, same⟩
      rw [represents.keyOf_inj other inside column member same]
    · intro own
      exact ⟨column, member, own, rfl⟩

/-- The cell is given for the field of the entry, in the canonical form of its value. -/
def Schema.Takes (schema : Schema) (cell : CellKey × Value) (entry : FieldId × Value) : Prop :=
  ∃ column, schema.keyed? cell.1 = some column ∧ column.id = entry.1 ∧
    column.field.normalize cell.2 = .ok entry.2

theorem Schema.takes_of_resolveCells {given : List (CellKey × Value)}
    {taken : List (FieldId × Value)} (resolved : schema.resolveCells given = .ok taken) :
    List.Forall₂ schema.Takes given taken := by
  refine (mapM_eq_ok.1 resolved).imp ?_
  intro cell entry accepted
  obtain ⟨column, found, _, normal, same⟩ := resolveCell_eq_ok.1 accepted
  exact ⟨column, found, same, normal⟩

/-- What is stored for a field last is the canonical form of what the write gave it last. -/
theorem Schema.lastGiven?_of_resolveCells (represents : schema.Represents table options)
    {given : List (CellKey × Value)} {taken : List (FieldId × Value)}
    (resolved : schema.resolveCells given = .ok taken) (id : FieldId) :
    (schema.lastGiven? id given = none ∧ (taken.filter (·.1 = id)).getLast? = none) ∨
      ∃ column ∈ schema.columns, ∃ content value, column.id = id ∧
        schema.lastGiven? id given = some content ∧ column.field.normalize content = .ok value ∧
        (taken.filter (·.1 = id)).getLast? = some (id, value) := by
  have named ⦃cell : CellKey × Value⦄ ⦃entry : FieldId × Value⦄ (takes : schema.Takes cell entry) :
      schema.keyNames id cell.1 = true ↔ decide (entry.1 = id) = true := by
    obtain ⟨column, found, same, _⟩ := takes
    rw [keyNames_iff represents found, same, decide_eq_true_iff]
  unfold lastGiven?
  rcases getLast?_of_forall₂ (List.rel_filter named (takes_of_resolveCells resolved)) with
    ⟨nothing, untouched⟩ | ⟨⟨key, content⟩, ⟨own, value⟩, given, taken, column, found, same, normal⟩
  · rw [nothing]
    exact .inl ⟨rfl, untouched⟩
  · have kept : own = id := by simpa using (List.mem_filter.1 (List.mem_of_getLast? taken)).2
    subst kept
    rw [given]
    exact .inr ⟨column, keyed?_mem found, content, value, same, rfl, normal, taken⟩

theorem cellOf_of_compute (composed : Schema.compose table options = .ok schema)
    (distinct : (table.fields.map Field.id).Nodup) {row : RowId} {base : Cells}
    {taken : List (FieldId × Value)} {computation : Computation}
    (run : compute schema.whole row (base.insertAll taken) = .ok computation)
    (member : column.field ∈ table.fields) (plain : column.field.kind.isComputed = false) :
    cellOf computation.cells column =
      ((taken.filter (·.1 = column.id)).getLast?.map Prod.snd).getD (cellOf base column) := by
  have untouched : column.id ∉ formulaIds schema.whole.columns :=
    not_mem_formulaIds_whole composed distinct member plain
  unfold cellOf
  rw [find?_of_computed run untouched]
  dsimp only
  rw [IdMap.find?_insertAll]
  cases (taken.filter (·.1 = column.id)).getLast? <;> rfl

theorem cellOf_initialCells (composed : Schema.compose table options = .ok schema)
    (distinct : (table.fields.map Field.id).Nodup) (member : column.field ∈ table.fields) :
    cellOf (TableRows.initialCells schema.whole.columns) column = column.spec.initial := by
  unfold cellOf
  cases found : (TableRows.initialCells schema.whole.columns).find? column.id with
  | none => rfl
  | some value =>
    obtain ⟨other, inside, _, sameId, rfl⟩ := TableRows.of_find?_initialCells found
    have otherMember : other.field ∈ table.fields := by
      rw [← Schema.map_field_whole composed]
      exact List.mem_map_of_mem inside
    have same : other.field = column.field :=
      List.inj_on_of_nodup_map distinct otherMember member sameId
    unfold Column.spec
    rw [same]
    rfl

theorem cellOf_of_write (composed : Schema.compose table options = .ok schema)
    (distinct : (table.fields.map Field.id).Nodup) {given : List (CellKey × Value)}
    {taken : List (FieldId × Value)} {row : RowId} {base : Cells} {computation : Computation}
    (resolved : schema.resolveCells given = .ok taken)
    (run : compute schema.whole row (base.insertAll taken) = .ok computation)
    (member : column.field ∈ table.fields) (plain : column.field.kind.isComputed = false) :
    (∀ content, schema.lastGiven? column.id given = some content →
      column.field.normalize content = .ok (cellOf computation.cells column)) ∧
    (schema.lastGiven? column.id given = none →
      cellOf computation.cells column = cellOf base column) := by
  have represents := Schema.represents composed distinct
  have cell := cellOf_of_compute composed distinct run member plain
  rcases Schema.lastGiven?_of_resolveCells represents resolved column.id with
    ⟨nothing, untouched⟩ | ⟨other, shown, content, value, sameId, last, normal, kept⟩
  · rw [untouched] at cell
    refine ⟨?_, fun _ => cell⟩
    intro content last
    rw [nothing] at last
    cases last
  · rw [kept] at cell
    have same : other.field = column.field :=
      List.inj_on_of_nodup_map distinct (Schema.field_mem composed shown) member sameId
    constructor
    · intro content given
      rw [last] at given
      cases given
      rw [cell, ← same]
      exact normal
    · intro nothing
      rw [last] at nothing
      cases nothing

end

theorem Db.get_of_find? {schema : Schema} {id : RowId} {db : Db} {row : Row}
    (found : (db.rowsOf schema.table).find? id = some row) :
    Db.get schema id db = .ok ⟨schema, row⟩ := by
  unfold get
  rw [TableRows.existing_eq_ok.2 found]
  rfl

/-- What a successful write gives is read back through every view of the table: under whichever name,
a field has the canonical form of its last given value, or else what it had before the write. The tables
of a catalog have distinct identifiers by `Catalog.Reached.distinct`. -/
theorem read_back_of_write {table : Table} {writing reading : ComposeOptions} {left right : Schema}
    {db later : Db} {record : Record} {write : RowWrite}
    (composed : Schema.compose table writing = .ok left)
    (viewed : Schema.compose table reading = .ok right)
    (distinct : (table.fields.map Field.id).Nodup)
    (done : write.perform left db = (.ok record, later)) :
    (∀ id ∈ write.target?, record.id = id) ∧
    Db.get right record.id later = .ok ⟨right, record.row⟩ ∧
    ∀ column ∈ right.columns, column.field.kind.isComputed = false →
      ∃ value, (⟨right, record.row⟩ : Record).Reads column value ∧
        (∀ content, left.lastGiven? column.id write.input.cells = some content →
          column.field.normalize content = .ok value) ∧
        (left.lastGiven? column.id write.input.cells = none → write.Leaves right db column value) := by
  have sameTable : right.table = left.table :=
    (Schema.table_eq viewed).trans (Schema.table_eq composed).symm
  have represents := Schema.represents viewed distinct
  cases write with
  | create input =>
    obtain ⟨taken, computation, resolved, _, _, run, cells, found⟩ := Db.of_create done
    rw [← sameTable] at found
    refine ⟨nofun, Db.get_of_find? found, ?_⟩
    intro column shown plain
    have member := Schema.field_mem viewed shown
    obtain ⟨given, kept⟩ := cellOf_of_write composed distinct resolved run member plain
    refine ⟨_, Record.reads_cell represents shown record.row, ?_, ?_⟩
    · unfold Row.cell
      rw [cells]
      exact given
    · intro nothing
      calc record.row.cell column
          = cellOf computation.cells column := by rw [Row.cell, cells]
        _ = cellOf (TableRows.initialCells left.whole.columns) column := kept nothing
        _ = column.spec.initial := cellOf_initialCells composed distinct member
  | update id input =>
    obtain ⟨taken, computation, old, resolved, earlier, run, shape, found⟩ := Db.of_update done
    rw [← sameTable] at found earlier
    have target : record.id = id := (TableRows.mem_of_find? found).2
    have cells : record.row.cells = computation.cells := congrArg Row.cells shape
    rw [← target] at found
    refine ⟨fun _ own => target.trans (Option.some.inj own), Db.get_of_find? found, ?_⟩
    intro column shown plain
    have member := Schema.field_mem viewed shown
    obtain ⟨given, kept⟩ := cellOf_of_write composed distinct resolved run member plain
    refine ⟨_, Record.reads_cell represents shown record.row, ?_, ?_⟩
    · unfold Row.cell
      rw [cells]
      exact given
    · intro nothing
      have before : record.row.cell column = old.cell column := by
        rw [Row.cell, cells]
        exact kept nothing
      rw [before]
      exact ⟨_, Db.get_of_find? earlier, Record.reads_cell represents shown old⟩

/-! Two values for one field, the last of them by its identifier. -/

def amountInput : RowInput where
  cells := [(.name "amount", .text "1"), (.field ⟨5⟩, .text "2.5")]

def three : Value := .number { Decimal.one with mantissa := 3, mantissa_lt := by decide }

theorem resolveCells_amount :
    amountSchema.resolveCells amountInput.cells = .ok [(⟨5⟩, .number .one), (⟨5⟩, three)] := rfl

theorem read_back_of_amount : ∃ record later,
    (RowWrite.create amountInput).perform amountSchema { clock := .epoch } = (.ok record, later) ∧
      Db.get ledgerSchema record.id later = .ok ⟨ledgerSchema, record.row⟩ ∧
      (⟨ledgerSchema, record.row⟩ : Record).stable? "field_5" = some three ∧
      (⟨ledgerSchema, record.row⟩ : Record).get? "field_4" = some (.text "untitled") := by
  obtain ⟨record, later, done, _⟩ := create_ledger amountInput resolveCells_amount
  have composed : Schema.compose ledgerTable amountOptions = .ok amountSchema := rfl
  have viewed : Schema.compose ledgerTable {} = .ok ledgerSchema := rfl
  obtain ⟨_, found, read⟩ := read_back_of_write composed viewed (by decide) done
  obtain ⟨amount, amountReads, given, _⟩ :=
    read (ledgerSchema.columns[1]) (List.getElem_mem (by decide)) rfl
  obtain ⟨title, titleReads, _, kept⟩ :=
    read (ledgerSchema.columns[0]) (List.getElem_mem (by decide)) rfl
  have last : amountSchema.lastGiven? ⟨5⟩ amountInput.cells = some (.text "2.5") := by decide +kernel
  have nothing : amountSchema.lastGiven? ⟨4⟩ amountInput.cells = none := by decide +kernel
  have isThree : amount = three := by
    have normal := given _ last
    cases normal
    rfl
  have isInitial : title = .text "untitled" := kept nothing
  refine ⟨record, later, done, found, ?_, ?_⟩
  · rw [← isThree]
    exact amountReads.stable?
  · rw [← isInitial]
    exact titleReads.get?

end Tabula
