import Tabula.Proofs.Cell.Keys
import Tabula.Proofs.Db.WrittenBack
import Tabula.Proofs.Formula.Literal

/-!
The keys by which stored rows are ordered under a column: of one kind in every column but a computed
date, whose cells are days and instants as the formula gives them.
-/
namespace Tabula

theorem Table.Canonical.stores_cell {table : Table} {row : Row} (canonical : table.Canonical row.cells)
    {column : Column} (member : column.field ∈ table.fields)
    (plain : column.field.kind.isComputed = false) : column.field.type.Stores (row.cell column) := by
  obtain ⟨value, found, stores⟩ := canonical column.field member plain
  have read : row.cell column = value := by
    change (row.cells.find? column.field.id).getD column.spec.initial = value
    rw [found]
    rfl
  rw [read]
  exact stores

section
variable {table : Table} {column : Column} {row other : Row} {format : DateFormat}

theorem Field.orderKey_of_date {field : Field} (type : field.type = .date format) (value : Value) :
    field.orderKey value = (CellType.date format).orderKey value := by
  unfold orderKey
  rw [type]

theorem Table.Canonical.computed_of_mixed (canonical : table.Canonical row.cells)
    (others : table.Canonical other.cells) (member : column.field ∈ table.fields)
    (type : column.field.type = .date format) (mixed : (row.cell column).Mixed (other.cell column)) :
    ∃ source format, column.field.kind = .computed source (.date format) := by
  cases kind : column.field.kind with
  | stored stores =>
    have plain : column.field.kind.isComputed = false := by rw [kind]; rfl
    have first := canonical.stores_cell member plain
    have second := others.stores_cell member plain
    rw [type] at first second
    exact absurd mixed (first.unmixed second)
  | computed source result =>
    unfold Field.type at type
    rw [kind] at type
    cases result <;> cases type
    exact ⟨source, format, rfl⟩

theorem Table.Canonical.comparable_orderKey (canonical : table.Canonical row.cells)
    (others : table.Canonical other.cells) (member : column.field ∈ table.fields) :
    (column.field.orderKey (row.cell column)).Comparable (column.field.orderKey (other.cell column)) ↔
      ¬ ((∃ source format, column.field.kind = .computed source (.date format)) ∧
        (row.cell column).Mixed (other.cell column)) := by
  cases one : column.field.type.keyRank? with
  | some rank =>
    have comparable := CellType.comparable_orderKey one (row.cell column) (other.cell column)
    refine ⟨?_, fun _ => comparable⟩
    rintro _ ⟨⟨source, format, kind⟩, _⟩
    unfold Field.type at one
    rw [kind] at one
    cases one
  | none =>
    obtain ⟨format, type⟩ := CellType.keyRank?_eq_none one
    rw [Field.orderKey_of_date type, Field.orderKey_of_date type, CellType.comparable_date, not_iff_not]
    exact ⟨fun mixed => ⟨canonical.computed_of_mixed others member type mixed, mixed⟩, And.right⟩

end

/-- The keys that two stored rows have in a column are of one kind, or one of them is null, unless the
column computes dates and has come to a day in one row and to an instant in the other. The dates of a
column stand by time as long as they are not mixed; of a day and an instant the day comes first, at
whatever time. -/
theorem keys_of_reached {table : Table} {options : ComposeOptions} {schema : Schema} {db later : Db}
    (distinct : (table.fields.map Field.id).Nodup)
    (composed : Schema.compose table options = .ok schema)
    (reached : Db.Reached table.Views db) (again : Db.Reached table.Views later)
    {column : Column} (shown : column ∈ schema.columns) {row other : Row}
    (stored : row ∈ (db.rowsOf table.id).values) (kept : other ∈ (later.rowsOf table.id).values) :
    let value := row.cell column
    let next := other.cell column
    let order := (column.field.orderKey value).compare (column.field.orderKey next)
    ((column.field.orderKey value).Comparable (column.field.orderKey next) ↔
      ¬ ((∃ source format, column.field.kind = .computed source (.date format)) ∧ value.Mixed next)) ∧
    ∀ format, column.field.type = .date format →
      (∀ start finish, value.begins? = some start → next.begins? = some finish →
        ¬ value.Mixed next → order = Ord.compare start finish) ∧
      (∀ date time, value = .day date → next = .instant time → order = .lt) := by
  intro value next order
  have keeps (schema : Schema) (view : table.Views schema) := keeps_canonical distinct view
  have canonical : table.Canonical row.cells := reached.holds keeps table.id row stored rfl
  have others : table.Canonical other.cells := again.holds keeps table.id other kept rfl
  constructor
  · exact canonical.comparable_orderKey others (Schema.field_mem composed shown)
  · intro format type
    have key (value : Value) : column.field.orderKey value = (CellType.date format).orderKey value :=
      Field.orderKey_of_date type value
    constructor
    · intro start finish first second unmixed
      change (column.field.orderKey value).compare (column.field.orderKey next) = _
      rw [key, key, CellType.compare_orderKey_date first second unmixed]
    · intro date time isDay isInstant
      change (column.field.orderKey value).compare (column.field.orderKey next) = _
      rw [key, key, isDay, isInstant]
      rfl

/-! A table whose dates are read from text, which may name a day or an instant. -/

def diaryTable : Table where
  id := ⟨3⟩
  database := ⟨2⟩
  name := "Diary"
  order := 1
  fields :=
    [⟨⟨4⟩, ⟨3⟩, "When", 1, false, .stored .longText⟩,
      ⟨⟨5⟩, ⟨3⟩, "Date", 2, false, .computed "field('When')" (.date {})⟩]

abbrev diarySchema : Schema := Schema.ofTable diaryTable {}

abbrev dateColumn : Column := diarySchema.columns[1]

theorem parse_when : Formula.parse "field('When')" = .ok (.field "When") := by
  have written : "field(" ++ Formula.literal '\'' "When" ++ ")" = "field('When')" := by decide
  rw [← written]
  exact Formula.parse_field_literal (by decide) "When"

theorem compute_diary (row : RowId) {start : Cells} {content : String} {date : Value}
    (found : start.find? ⟨4⟩ = some (.text content))
    (read : Formula.coerce (.text content) (.date {}) = .ok date) :
    compute diarySchema.whole row start = .ok ⟨start.insert ⟨5⟩ date, 1, []⟩ := by
  have named : diarySchema.whole.named? "When" = some diarySchema.columns[0] := by decide +kernel
  have scope : (formulaScope diarySchema.whole row start).field? "When" = some (.text content) := by
    simp only [formulaScope, named, Option.map_some]
    change some (formulaScalar _ ((start.find? ⟨4⟩).getD .null)) = _
    rw [found]
    rfl
  have value : formulaValue diarySchema.whole row start "field('When')" (.date {}) = .ok date := by
    rw [formulaValue_of_parse parse_when, ← read]
    unfold Formula.Expr.evaluate Formula.Expr.eval
    rw [scope]
    rfl
  have step : computeColumn diarySchema.whole row { cells := start } dateColumn =
      .ok ⟨start.insert ⟨5⟩ date, 1, []⟩ := computeColumn_of_value rfl value
  change (computeColumn diarySchema.whole row { cells := start } dateColumn >>= pure) = _
  rw [step]
  rfl

def laterDay : Day := ⟨19787, by decide, by decide⟩

def earlierTime : Instant := ⟨1709287200000000000, 0, Instant.epoch.offset_le, by decide, by decide⟩

theorem read_laterDay :
    Formula.coerce (.text "2024-03-05") (.date {}) = .ok (.day laterDay) := by decide +kernel

theorem read_earlierTime :
    Formula.coerce (.text "2024-03-01 10:00") (.date {}) = .ok (.instant earlierTime) := by decide +kernel

def diaryEntry (content : String) : RowInput where
  cells := [(.field ⟨4⟩, .text content)]

def diaryRow (id : RowId) (order : Decimal) (now : Instant) (content : String) (date : Value) : Row where
  id := id
  order := order
  createdOn := now
  updatedOn := now
  cells := (IdMap.insert default ⟨4⟩ (.text content) : Cells).insert ⟨5⟩ date

theorem create_diary {db : Db} {id : RowId} {order : Decimal} {content : String} {date : Value}
    (isOpen : db.store.isClosed = false) (named : (db.rowsOf ⟨3⟩).nextId = .ok id)
    (next : (db.rowsOf ⟨3⟩).nextOrder = .ok order)
    (read : Formula.coerce (.text content) (.date {}) = .ok date) :
    let row := diaryRow id order db.clock content date
    ∃ later, Db.perform (Db.create diarySchema (diaryEntry content)) db =
        (.ok ⟨diarySchema, row⟩, later) ∧
      later.rowsOf ⟨3⟩ = TableRows.put { db.rowsOf ⟨3⟩ with lastId := row.id.val } row ∧
      later.store.isClosed = false := by
  intro row
  have resolved : diarySchema.resolveCells (diaryEntry content).cells =
      .ok [(⟨4⟩, .text content)] := rfl
  have created : (db.rowsOf ⟨3⟩).create diarySchema.whole [(⟨4⟩, .text content)] none db.clock =
      .ok ((row, ⟨row.cells, 1, []⟩),
        TableRows.put { db.rowsOf ⟨3⟩ with lastId := row.id.val } row) := by
    rw [TableRows.create_eq, named, next]
    change (compute diarySchema.whole _ _ >>= _) = _
    rw [compute_diary _ _ read]
    · rfl
    · rfl
  obtain ⟨later, done, rows, stillOpen, _⟩ := @Db.writeRow_of_done diarySchema .create
    (fun rows => .ok (rows.create diarySchema.whole [(⟨4⟩, .text content)] none db.clock)) db _ _ _
    isOpen (congrArg Except.ok created)
  refine ⟨later, ?_, rows, stillOpen⟩
  rw [Db.perform_create, resolved]
  exact done

def laterRow (now : Instant) : Row := diaryRow ⟨1⟩ .one now "2024-03-05" (.day laterDay)

def earlierRow (now : Instant) : Row :=
  diaryRow ⟨2⟩ (.ofWord 2) now "2024-03-01 10:00" (.instant earlierTime)

theorem exists_mixed_dates : ∃ db now after, Db.Reached diaryTable.Views db ∧
    laterRow now ∈ (db.rowsOf ⟨3⟩).values ∧ earlierRow after ∈ (db.rowsOf ⟨3⟩).values := by
  have view : diaryTable.Views diarySchema := fun _ => ⟨{}, rfl⟩
  have started : Db.Reached diaryTable.Views { clock := .epoch } := .start rfl
  have first : (Db.rowsOf { clock := .epoch } ⟨3⟩).nextId = .ok ⟨1⟩ := rfl
  have empty : (Db.rowsOf { clock := .epoch } ⟨3⟩).nextOrder = .ok .one := rfl
  obtain ⟨between, done, rows, isOpen⟩ := create_diary rfl first empty read_laterDay
  have second : (between.rowsOf ⟨3⟩).nextId = .ok ⟨2⟩ := by
    rw [rows]
    rfl
  have next : (between.rowsOf ⟨3⟩).nextOrder = .ok (.ofWord 2) := by
    rw [rows]
    rfl
  obtain ⟨db, again, both, _⟩ := create_diary isOpen second next read_earlierTime
  have stored : (db.rowsOf ⟨3⟩).values = [laterRow .epoch, earlierRow between.clock] := by
    rw [both, rows]
    rfl
  refine ⟨db, .epoch, between.clock, (started.of_create view done).of_create view again, ?_⟩
  rw [stored]
  exact ⟨List.mem_cons_self, List.mem_cons_of_mem _ List.mem_cons_self⟩

/-- In a computed date column the day comes first, though it begins after the instant. -/
theorem keys_of_mixed_dates : ∃ db now after, Db.Reached diaryTable.Views db ∧
    laterRow now ∈ (db.rowsOf diaryTable.id).values ∧
    earlierRow after ∈ (db.rowsOf diaryTable.id).values ∧
    ¬ (dateColumn.field.orderKey ((laterRow now).cell dateColumn)).Comparable
      (dateColumn.field.orderKey ((earlierRow after).cell dateColumn)) ∧
    (dateColumn.field.orderKey ((laterRow now).cell dateColumn)).compare
      (dateColumn.field.orderKey ((earlierRow after).cell dateColumn)) = .lt ∧
    earlierTime.nanos < laterDay.number * Instant.nanosPerDay := by
  obtain ⟨db, now, after, reached, first, second⟩ := exists_mixed_dates
  have composed : Schema.compose diaryTable {} = .ok diarySchema := rfl
  have shown : dateColumn ∈ diarySchema.columns := List.getElem_mem (by decide)
  obtain ⟨comparable, order⟩ :=
    keys_of_reached (by decide) composed reached reached shown first second
  refine ⟨db, now, after, reached, first, second, ?_, (order {} rfl).2 _ _ rfl rfl, by decide⟩
  rw [comparable, not_not]
  exact ⟨⟨_, _, rfl⟩, .dayFirst⟩

/-- Not all keys of stored rows in one column are comparable. -/
theorem not_all_keys_comparable :
    ¬ ∀ (table : Table) (options : ComposeOptions) (schema : Schema) (db : Db) (column : Column)
      (row other : Row), (table.fields.map Field.id).Nodup →
      Schema.compose table options = .ok schema → Db.Reached table.Views db →
      column ∈ schema.columns → column.field.isOrderable = true →
      row ∈ (db.rowsOf table.id).values → other ∈ (db.rowsOf table.id).values →
      (column.field.orderKey (row.cell column)).Comparable
        (column.field.orderKey (other.cell column)) := by
  intro refuted
  obtain ⟨db, now, after, reached, first, second⟩ := exists_mixed_dates
  have shown : dateColumn ∈ diarySchema.columns := List.getElem_mem (by decide)
  have mixed := refuted diaryTable {} diarySchema db dateColumn _ _ (by decide) rfl reached shown rfl
    first second
  exact CellType.comparable_date.1 mixed .dayFirst

end Tabula
