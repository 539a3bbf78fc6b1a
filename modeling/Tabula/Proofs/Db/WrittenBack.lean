import Tabula.Proofs.Cell.Canonical
import Tabula.Proofs.Db.FormulaFaults
import Tabula.Proofs.Db.ReadBack
import Tabula.Proofs.Db.Reconcile

/-!
Stored rows hold what their columns store: every plain field has a cell in canonical form, whatever
calls have led there. Such cells can be given back as they are read, and change nothing.
-/
namespace Tabula

/-- Each plain field has a cell that its column stores. -/
def Table.Canonical (table : Table) (cells : Cells) : Prop :=
  ∀ field ∈ table.fields, field.kind.isComputed = false →
    ∃ value, cells.find? field.id = some value ∧ field.type.Stores value

section
variable {table : Table} {options : ComposeOptions} {schema : Schema} {row : RowId} {base : Cells}

theorem canonical_initialCells (composed : Schema.compose table options = .ok schema)
    (distinct : (table.fields.map Field.id).Nodup) :
    table.Canonical (TableRows.initialCells schema.whole.columns) := by
  intro field member plain
  obtain ⟨column, inside, rfl⟩ := Schema.exists_column composed member
  have present := isSome_initialCells.2 ⟨column, inside, plain, rfl⟩
  obtain ⟨value, found⟩ := Option.isSome_iff_exists.1 present
  have initial := cellOf_initialCells composed distinct member
  unfold cellOf at initial
  rw [found, Option.getD_some] at initial
  refine ⟨value, found, ?_⟩
  rw [initial]
  unfold Column.spec Field.type
  cases kind : column.field.kind with
  | stored type => exact .initial type
  | computed source result =>
    rw [kind] at plain
    cases plain

theorem canonical_insertAll (composed : Schema.compose table options = .ok schema)
    (distinct : (table.fields.map Field.id).Nodup) {given : List (CellKey × Value)}
    {taken : List (FieldId × Value)} (resolved : schema.resolveCells given = .ok taken)
    (before : table.Canonical base) : table.Canonical (base.insertAll taken) := by
  intro field member plain
  obtain ⟨old, earlier, held⟩ := before field member plain
  have present : ((base.insertAll taken).find? field.id).isSome = true := by
    rw [IdMap.isSome_find?_insertAll, earlier]
    exact .inr rfl
  obtain ⟨value, found⟩ := Option.isSome_iff_exists.1 present
  refine ⟨value, found, ?_⟩
  rcases IdMap.of_find?_insertAll found with new | kept
  · obtain ⟨cell, _, accepted⟩ := (mem_of_mapM_eq_ok resolved).1 new
    obtain ⟨column, keyed, _, normal, sameId⟩ := Schema.resolveCell_eq_ok.1 accepted
    have shown := Schema.field_mem composed (Schema.keyed?_mem keyed)
    have same : column.field = field := List.inj_on_of_nodup_map distinct shown member sameId
    rw [← same]
    exact .of_normalize normal
  · rw [earlier] at kept
    cases kept
    exact held

theorem canonical_compute (composed : Schema.compose table options = .ok schema)
    (distinct : (table.fields.map Field.id).Nodup) {computation : Computation}
    (run : compute schema.whole row base = .ok computation) (before : table.Canonical base) :
    table.Canonical computation.cells := by
  intro field member plain
  obtain ⟨value, found, held⟩ := before field member plain
  have untouched := not_mem_formulaIds_whole composed distinct member plain
  exact ⟨value, (find?_of_computed run untouched).trans found, held⟩

theorem keeps_canonical (distinct : (table.fields.map Field.id).Nodup) (view : table.Views schema) :
    schema.Keeps fun owner _ cells => owner = table.id → table.Canonical cells where
  create := by
    intro given cells row computation resolved run own
    obtain ⟨options, composed⟩ := view own
    have start := canonical_initialCells composed distinct
    exact canonical_compute composed distinct run
      (canonical_insertAll composed distinct resolved start)
  update := by
    intro given cells row old computation before resolved run own
    obtain ⟨options, composed⟩ := view own
    exact canonical_compute composed distinct run
      (canonical_insertAll composed distinct resolved (before own))
  reconcile := by
    intro row old computation before run own
    obtain ⟨options, composed⟩ := view own
    apply canonical_compute composed distinct run
    intro field member plain
    rw [IdMap.find?_filter, if_pos ((isTableField_iff composed).2 (List.mem_map_of_mem member))]
    exact before own field member plain

end

/-- The cell gives a plain column of the record, under one of its keys, the value that it has. -/
def Record.OwnCell (record : Record) (cell : CellKey × Value) : Prop :=
  ∃ column ∈ record.schema.columns, column.field.kind.isComputed = false ∧
    (cell.1 = .field column.id ∨ cell.1 = .name (record.schema.keyOf column)) ∧
    cell.2 = record.valueOf column

/-- The rows agree in all that is given for a row: its place, its creation and its plain cells. -/
structure Table.Unchanged (table : Table) (row later : Row) : Prop where
  order : later.order = row.order
  createdOn : later.createdOn = row.createdOn
  cells : ∀ field ∈ table.fields, field.kind.isComputed = false →
    later.cells.find? field.id = row.cells.find? field.id

section
variable {table : Table} {options : ComposeOptions} {schema : Schema} {row : Row}

theorem resolveCell_ownCell (composed : Schema.compose table options = .ok schema)
    (distinct : (table.fields.map Field.id).Nodup) (canonical : table.Canonical row.cells)
    {cell : CellKey × Value} (own : (⟨schema, row⟩ : Record).OwnCell cell) :
    ∃ entry, schema.resolveCell cell = .ok entry ∧ row.cells.find? entry.1 = some entry.2 := by
  have represents := Schema.represents composed distinct
  obtain ⟨key, content⟩ := cell
  obtain ⟨column, shown, plain, named, rfl⟩ := own
  obtain ⟨value, found, held⟩ := canonical _ (Schema.field_mem composed shown) plain
  have read : (⟨schema, row⟩ : Record).valueOf column = value := by
    change (row.cells.find? column.field.id).getD column.spec.initial = value
    rw [found]
    rfl
  have keyed : schema.keyed? key = some column := by
    rcases named with rfl | rfl
    · exact (represents.column?_iff _ _).2 ⟨shown, rfl⟩
    · exact (represents.resolve?_iff _ _).2 ⟨shown, rfl⟩
  refine ⟨(column.id, value), ?_, found⟩
  rw [read]
  exact Schema.resolveCell_eq_ok.2 ⟨column, keyed, plain, Field.normalize_eq_self.2 held, rfl⟩

theorem resolveCells_ownCells (composed : Schema.compose table options = .ok schema)
    (distinct : (table.fields.map Field.id).Nodup) (canonical : table.Canonical row.cells)
    {given : List (CellKey × Value)} (own : ∀ cell ∈ given, (⟨schema, row⟩ : Record).OwnCell cell) :
    ∃ taken, schema.resolveCells given = .ok taken ∧
      ∀ entry ∈ taken, row.cells.find? entry.1 = some entry.2 := by
  have accepted : ∀ cell ∈ given, ∃ entry, schema.resolveCell cell = .ok entry := by
    intro cell member
    obtain ⟨entry, done, _⟩ := resolveCell_ownCell composed distinct canonical (own cell member)
    exact ⟨entry, done⟩
  obtain ⟨taken, resolved⟩ := exists_mapM_eq_ok accepted
  refine ⟨taken, resolved, ?_⟩
  intro entry member
  obtain ⟨cell, inside, done⟩ := (mem_of_mapM_eq_ok resolved).1 member
  obtain ⟨other, again, found⟩ := resolveCell_ownCell composed distinct canonical (own cell inside)
  rw [done] at again
  cases again
  exact found

/-- An update that gives a canonical row its own cells leaves all but its formulas as it was; it goes
through unless a formula takes a late stamp for a date. -/
theorem update_ownCells (composed : Schema.compose table options = .ok schema)
    (distinct : (table.fields.map Field.id).Nodup) (canonical : table.Canonical row.cells)
    (utc : Cells.IsUtc row.cells) {db : Db} (isOpen : db.store.isClosed = false)
    (found : (db.rowsOf schema.table).find? row.id = some row)
    {given : List (CellKey × Value)} (own : ∀ cell ∈ given, (⟨schema, row⟩ : Record).OwnCell cell) :
    ∃ outcome later stored,
      Db.perform (Db.update schema row.id { cells := given }) db = (outcome, later) ∧
      (later.rowsOf schema.table).find? row.id = some stored ∧ table.Unchanged row stored ∧
      (¬ schema.whole.Strays row.id row.cells → outcome = .ok ⟨schema, stored⟩) ∧
      (schema.whole.Strays row.id row.cells → outcome = .error (.fault .calendarExceeded)) := by
  obtain ⟨taken, resolved, present⟩ := resolveCells_ownCells composed distinct canonical own
  have ready : (RowWrite.update row.id { cells := given }).Ready schema (db.rowsOf schema.table)
      row.id (row.cells.insertAll taken) := .update resolved found
  rw [IdMap.insertAll_of_find? present] at ready
  cases passed : compute schema.whole row.id row.cells with
  | ok computation =>
    have within := (exists_compute_eq_ok utc).1 ⟨computation, passed⟩
    obtain ⟨made, later, done, _, cells, stored, _⟩ :=
      RowWrite.perform_of_computed ready isOpen passed
    obtain ⟨_, _, old, _, earlier, _, shape, _⟩ := Db.of_update done
    rw [found] at earlier
    cases earlier
    change made = _ at shape
    subst shape
    refine ⟨_, later, _, done, stored, ⟨rfl, rfl, ?_⟩, fun _ => rfl,
      fun strays => absurd strays within⟩
    intro field inside plain
    rw [cells]
    exact find?_of_computed passed (not_mem_formulaIds_whole composed distinct inside plain)
  | error broken =>
    obtain ⟨exceeded, strays⟩ := compute_eq_error utc passed
    obtain ⟨later, stopped, _, kept⟩ := RowWrite.perform_of_broken ready isOpen passed
    rw [exceeded] at stopped
    rw [← kept] at found
    exact ⟨_, later, row, stopped, found, ⟨rfl, rfl, fun _ _ _ => rfl⟩,
      fun within => absurd strays within, fun _ => rfl⟩

end

/-- In every state that calls through views of a table lead to, each plain field of each row has a cell
that normalizing leaves as it is. Cells of a row given back as they are read are accepted, under
whichever key, and the update leaves the row's place, its creation and all its plain cells as they
were; it goes through unless a formula takes a late stamp for a date. The tables of a catalog have
distinct identifiers by `Catalog.Reached.distinct`. -/
theorem written_back_of_reached {table : Table} {db : Db}
    (distinct : (table.fields.map Field.id).Nodup) (reached : Db.Reached table.Views db) :
    ∀ row ∈ (db.rowsOf table.id).values,
      (∀ field ∈ table.fields, field.kind.isComputed = false →
        ∃ value, row.cells.find? field.id = some value ∧ field.normalize value = .ok value) ∧
      ∀ options schema, Schema.compose table options = .ok schema →
        ∀ given, (∀ cell ∈ given, (⟨schema, row⟩ : Record).OwnCell cell) →
          (∃ taken, schema.resolveCells given = .ok taken) ∧
          ∃ outcome later stored,
            Db.perform (Db.update schema row.id { cells := given }) db = (outcome, later) ∧
            (later.rowsOf table.id).find? row.id = some stored ∧ table.Unchanged row stored ∧
            (¬ schema.whole.Strays row.id row.cells → outcome = .ok ⟨schema, stored⟩) ∧
            (schema.whole.Strays row.id row.cells → outcome = .error (.fault .calendarExceeded)) := by
  intro row member
  have canonical : table.Canonical row.cells :=
    reached.holds (fun _ view => keeps_canonical distinct view) table.id row member rfl
  have utc : Cells.IsUtc row.cells :=
    reached.holds (fun schema _ => keeps_isUtc schema) table.id row member
  constructor
  · intro field inside plain
    obtain ⟨value, found, held⟩ := canonical field inside plain
    exact ⟨value, found, Field.normalize_eq_self.2 held⟩
  · intro options schema composed given own
    obtain ⟨taken, resolved, _⟩ := resolveCells_ownCells composed distinct canonical own
    have found := TableRows.find?_of_mem member
    rw [← Schema.table_eq composed] at found ⊢
    exact ⟨⟨taken, resolved⟩,
      update_ownCells composed distinct canonical utc reached.isOpen found own⟩

def ownCells (record : Record) : List (CellKey × Value) :=
  [(.field ⟨4⟩, record.valueOf ledgerSchema.columns[0]),
    (.name "field_5", record.valueOf ledgerSchema.columns[1])]

theorem ownCells_own (row : Row) :
    ∀ cell ∈ ownCells ⟨ledgerSchema, row⟩, (⟨ledgerSchema, row⟩ : Record).OwnCell cell := by
  have title : ledgerSchema.columns[0] ∈ ledgerSchema.columns := List.getElem_mem (by decide)
  have amount : ledgerSchema.columns[1] ∈ ledgerSchema.columns := List.getElem_mem (by decide)
  have named : ledgerSchema.keyOf ledgerSchema.columns[1] = "field_5" := by decide +kernel
  intro cell member
  rcases List.mem_cons.1 member with rfl | member
  · exact ⟨_, title, rfl, .inl rfl, rfl⟩
  · rw [List.mem_singleton.1 member]
    exact ⟨_, amount, rfl, .inr (congrArg CellKey.name named.symm), rfl⟩

theorem written_back_of_ledger_row : ∃ record created,
    Db.perform (Db.create amountSchema amountInput) { clock := .epoch } = (.ok record, created) ∧
      ∃ stored later,
        Db.perform (Db.update ledgerSchema record.id
          { cells := ownCells ⟨ledgerSchema, record.row⟩ }) created =
            (.ok ⟨ledgerSchema, stored⟩, later) ∧
        ledgerTable.Unchanged record.row stored := by
  obtain ⟨record, created, done, _⟩ := create_ledger amountInput resolveCells_amount
  change Db.perform _ _ = _ at done
  have started : Db.Reached ledgerTable.Views { clock := .epoch } := .start rfl
  have view : ledgerTable.Views amountSchema := fun _ => ⟨amountOptions, rfl⟩
  have reached := started.of_create view done
  obtain ⟨_, _, _, _, _, _, _, found⟩ := Db.of_create done
  have member := (TableRows.mem_of_find? found).1
  have composed : Schema.compose ledgerTable {} = .ok ledgerSchema := rfl
  have other : Schema.compose ledgerTable amountOptions = .ok amountSchema := rfl
  obtain ⟨_, back⟩ := written_back_of_reached (by decide) reached record.row member
  obtain ⟨_, outcome, later, stored, updated, _, unchanged, through, _⟩ :=
    back {} _ composed _ (ownCells_own record.row)
  have utc := reached.holds (fun schema _ => keeps_isUtc schema) ledgerTable.id record.row member
  have computed : compute ledgerSchema.whole record.row.id record.row.cells =
      .ok ⟨record.row.cells.insert ⟨6⟩ (.text "x"), 1, []⟩ := by
    rw [compute_whole (Schema.siblings composed other), compute_ledger]
  have within := (exists_compute_eq_ok utc).1 ⟨_, computed⟩
  rw [through within] at updated
  exact ⟨record, created, done, stored, later, updated, unchanged⟩

end Tabula
