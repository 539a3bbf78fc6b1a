import Tabula.Proofs.Cell.Ranges
import Tabula.Proofs.Db.Execute
import Tabula.Proofs.Predicate.Eval

/-!
Filters for numbers and dates above or below an argument, in the order of their column: what is above
stands last, and what is below stands right behind the rows without a key.
-/
namespace Tabula

theorem exists_cut {α : Type} {list : List α} {holds : α → Bool}
    (stays : list.Pairwise fun left right => holds left = true → holds right = true) :
    ∃ front last, list = front ++ last ∧ (∀ item ∈ front, holds item = false) ∧
      ∀ item ∈ last, holds item = true := by
  induction list with
  | nil => exact ⟨[], [], rfl, nofun, nofun⟩
  | cons head rest ih =>
    obtain ⟨here, later⟩ := List.pairwise_cons.1 stays
    cases met : holds head with
    | true =>
      exact ⟨[], head :: rest, rfl, nofun,
        List.forall_mem_cons.2 ⟨met, fun item member => here item member met⟩⟩
    | false =>
      obtain ⟨front, last, rfl, out, inside⟩ := ih later
      exact ⟨head :: front, last, rfl, List.forall_mem_cons.2 ⟨met, out⟩, inside⟩

section
variable {rows : List Row} {key : Row → SortKey} {holds : Row → Bool}

theorem exists_cut_above
    (sorted : rows.Pairwise fun left right => ((key left).compare (key right)).isLE = true)
    (upward : ∀ row ∈ rows, ∀ other ∈ rows, ((key row).compare (key other)).isLE = true →
      holds row = true → holds other = true) :
    ∃ front last, rows = front ++ last ∧ (∀ row ∈ front, holds row = false) ∧
      ∀ row ∈ last, holds row = true := by
  apply exists_cut
  apply sorted.imp_of_mem
  intro left right inside behind order met
  exact upward left inside right behind order met

theorem exists_cut_below
    (sorted : rows.Pairwise fun left right => ((key left).compare (key right)).isLE = true)
    (downward : ∀ row ∈ rows, ∀ other ∈ rows, ((key row).compare (key other)).isLE = true →
      key row ≠ .null → holds other = true → holds row = true) :
    ∃ empty met rest, rows = empty ++ met ++ rest ∧ (∀ row ∈ empty, key row = .null) ∧
      (∀ row ∈ met, key row ≠ .null ∧ holds row = true) ∧
      ∀ row ∈ rest, key row ≠ .null ∧ holds row = false := by
  -- null is least, so the rows with a key stand last
  have filledStays : rows.Pairwise fun left right =>
      decide (key left ≠ .null) = true → decide (key right ≠ .null) = true := by
    apply sorted.imp
    intro left right order filled
    exact decide_eq_true (SortKey.ne_null_of_isLE (of_decide_eq_true filled) order)
  obtain ⟨empty, filled, rfl, without, within⟩ := exists_cut filledStays
  have keyed : ∀ row ∈ filled, key row ≠ .null := fun row member => of_decide_eq_true (within row member)
  -- of these the ones that are not met stay so
  have unmetStays : filled.Pairwise fun left right => (!holds left) = true → (!holds right) = true := by
    apply (List.pairwise_append.1 sorted).2.1.imp_of_mem
    intro left right inside behind order unmet
    rw [Bool.not_eq_true'] at unmet ⊢
    rw [Bool.eq_false_iff] at unmet ⊢
    intro met
    exact unmet (downward left (List.mem_append_right _ inside) right
      (List.mem_append_right _ behind) order (keyed left inside) met)
  obtain ⟨met, rest, rfl, below, beyond⟩ := exists_cut unmetStays
  refine ⟨empty, met, rest, (List.append_assoc _ _ _).symm, ?_, ?_, ?_⟩
  · intro row member
    simpa using without row member
  · intro row member
    exact ⟨keyed row (List.mem_append_left _ member), by simpa using below row member⟩
  · intro row member
    exact ⟨keyed row (List.mem_append_right _ member), by simpa using beyond row member⟩

end

namespace Schema
variable {schema : Schema}

theorem termKey_of_column {column : Column} (found : schema.column? column.id = some column)
    (descending : Bool) (row : Row) :
    schema.termKey ⟨column.id, descending⟩ row = column.field.orderKey (row.cell column) := by
  unfold termKey
  dsimp only
  rw [found]

theorem isLE_of_precedes {id : FieldId} {terms : List OrderTerm} {left right : Row}
    (before : schema.Precedes (⟨id, false⟩ :: terms) left right) :
    ((schema.termKey ⟨id, false⟩ left).compare (schema.termKey ⟨id, false⟩ right)).isLE = true := by
  rcases before with first | ⟨tied, _⟩
  · change SortKey.compare _ _ = .lt at first
    rw [first]
    rfl
  · rw [tied]
    rfl

end Schema

section
variable {schema : Schema} {column : Column} {test : CellTest} {rows : List Row}

/-- What a test that opens up says of rows, by their keys in the column. -/
theorem CellTest.OpensUp.of_rows (opens : test.OpensUp column.field.type)
    (found : schema.column? column.id = some column)
    (current : ∀ row ∈ rows, column.field.type.Current (row.cell column)) :
    (∀ row ∈ rows, (Predicate.test (.field column.id) test).accepts schema row = true →
      schema.termKey ⟨column.id, false⟩ row ≠ .null) ∧
    ∀ row ∈ rows, ∀ other ∈ rows, ((schema.termKey ⟨column.id, false⟩ row).compare
        (schema.termKey ⟨column.id, false⟩ other)).isLE = true →
      (Predicate.test (.field column.id) test).accepts schema row = true →
      (Predicate.test (.field column.id) test).accepts schema other = true := by
  simp only [Predicate.accepts_test found, Schema.termKey_of_column found]
  constructor
  · intro row member met
    exact opens.filled (current row member) met
  · intro row member other inside order met
    exact opens.closed (current row member) (current other inside) order met

theorem CellTest.OpensDown.of_rows (opens : test.OpensDown column.field.type)
    (found : schema.column? column.id = some column)
    (current : ∀ row ∈ rows, column.field.type.Current (row.cell column)) :
    (∀ row ∈ rows, (Predicate.test (.field column.id) test).accepts schema row = true →
      schema.termKey ⟨column.id, false⟩ row ≠ .null) ∧
    ∀ row ∈ rows, ∀ other ∈ rows, ((schema.termKey ⟨column.id, false⟩ row).compare
        (schema.termKey ⟨column.id, false⟩ other)).isLE = true →
      schema.termKey ⟨column.id, false⟩ row ≠ .null →
      (Predicate.test (.field column.id) test).accepts schema other = true →
      (Predicate.test (.field column.id) test).accepts schema row = true := by
  simp only [Predicate.accepts_test found, Schema.termKey_of_column found]
  constructor
  · intro row member met
    exact opens.filled (current row member) met
  · intro row member other inside order filled met
    exact opens.closed (current row member) (current other inside) order filled met

end

theorem Query.ascending_of_execute {query : Query} {db : Db} {response : Response} {id : FieldId}
    (ascending : query.order = some [⟨id, false⟩])
    (executed : (Db.perform (Db.execute query) db).1 = .ok response) :
    (∀ row ∈ response.records.map Record.row, row ∈ (db.rowsOf query.schema.table).values) ∧
      (response.records.map Record.row).Pairwise fun left right =>
        ((query.schema.termKey ⟨id, false⟩ left).compare
          (query.schema.termKey ⟨id, false⟩ right)).isLE = true := by
  have terms : query.terms = [⟨id, false⟩] := by
    unfold terms
    rw [ascending]
    rfl
  have sorted := query.select_ascending (db.rowsOf query.schema.table).nodup_ids
  rw [terms] at sorted
  rw [Db.rows_of_execute executed]
  constructor
  · intro row member
    exact ((query.mem_select _ row).1 member).1
  · exact sorted.imp Schema.isLE_of_precedes

/-- On a column of numbers, or of dates that are stored as its format has them, tests for cells above
and below an argument agree with the order of the column: they meet no fault, accept no row without a
key, and accept with a row those behind it, or those with a key before it. In ascending order by the
column the rows above stand last, and the rows below directly follow those without a key. -/
theorem ranges_of_column {schema : Schema} {column : Column} {above below : FilterOp}
    {floor ceiling : String} {higher lower : CellTest} {db : Db}
    (found : schema.column? column.id = some column)
    (ranges : column.field.type.Ranges above below)
    (readAbove : column.field.filterTest above floor = .ok higher)
    (readBelow : column.field.filterTest below ceiling = .ok lower)
    (current : ∀ format, column.field.type = .date format → ∀ row ∈ (db.rowsOf schema.table).values,
      ∃ given, column.field.normalize given = .ok (row.cell column)) :
    let stored := (db.rowsOf schema.table).values
    let key := schema.termKey ⟨column.id, false⟩
    let isAbove := Predicate.test (.field column.id) higher
    let isBelow := Predicate.test (.field column.id) lower
    (∀ row ∈ stored, isAbove.fault? schema row = none ∧ isBelow.fault? schema row = none) ∧
    (∀ row ∈ stored, key row = .null →
      isAbove.accepts schema row = false ∧ isBelow.accepts schema row = false) ∧
    (∀ row ∈ stored, ∀ other ∈ stored, ((key row).compare (key other)).isLE = true →
      (isAbove.accepts schema row = true → isAbove.accepts schema other = true) ∧
      (key row ≠ .null → isBelow.accepts schema other = true → isBelow.accepts schema row = true)) ∧
    ∀ query response, query.schema = schema → query.order = some [⟨column.id, false⟩] →
      (Db.perform (Db.execute query) db).1 = .ok response →
      (∃ front last, response.records.map Record.row = front ++ last ∧
        (∀ row ∈ front, isAbove.accepts schema row = false) ∧
        ∀ row ∈ last, isAbove.accepts schema row = true) ∧
      ∃ empty met rest, response.records.map Record.row = empty ++ met ++ rest ∧
        (∀ row ∈ empty, key row = .null) ∧
        (∀ row ∈ met, key row ≠ .null ∧ isBelow.accepts schema row = true) ∧
        ∀ row ∈ rest, key row ≠ .null ∧ isBelow.accepts schema row = false := by
  intro stored key isAbove isBelow
  have isCurrent : ∀ row ∈ stored, column.field.type.Current (row.cell column) := by
    intro row member format type
    obtain ⟨given, done⟩ := current format type row member
    exact .of_normalize done
  obtain ⟨filledAbove, upward⟩ := (ranges.opensUp readAbove).of_rows found isCurrent
  obtain ⟨filledBelow, downward⟩ := (ranges.opensDown readBelow).of_rows found isCurrent
  refine ⟨?_, ?_, ?_, ?_⟩
  · intro row member
    rw [Predicate.fault?_test found, Predicate.fault?_test found]
    exact ⟨ranges.fault?_eq_none (.inl rfl) readAbove (isCurrent row member) _,
      ranges.fault?_eq_none (.inr rfl) readBelow (isCurrent row member) _⟩
  · intro row member null
    exact ⟨Bool.eq_false_iff.2 fun met => filledAbove row member met null,
      Bool.eq_false_iff.2 fun met => filledBelow row member met null⟩
  · intro row member other inside order
    exact ⟨upward row member other inside order, downward row member other inside order⟩
  · intro query response own ascending executed
    subst own
    obtain ⟨among, sorted⟩ := Query.ascending_of_execute ascending executed
    constructor
    · apply exists_cut_above sorted
      intro row member other inside
      exact upward row (among row member) other (among other inside)
    · apply exists_cut_below sorted
      intro row member other inside
      exact downward row (among row member) other (among other inside)

/-! A column of instants, one of which is missing. -/

def meetingTable : Table where
  id := ⟨3⟩
  database := ⟨2⟩
  name := "Meetings"
  order := 1
  fields := [⟨⟨4⟩, ⟨3⟩, "At", 1, false, .stored (.date { includeTime := true })⟩]

abbrev meetingSchema : Schema := Schema.ofTable meetingTable {}

abbrev meetingColumn : Column := meetingSchema.columns[0]

def nineOClock : Instant := ⟨1709283600000000000, 0, Instant.epoch.offset_le, by decide, by decide⟩

def elevenOClock : Instant := ⟨1709290800000000000, 0, Instant.epoch.offset_le, by decide, by decide⟩

def twelveOClock : Instant := ⟨1709294400000000000, 0, Instant.epoch.offset_le, by decide, by decide⟩

theorem read_elevenOClock : Calendar.readMoment "2024-03-01 11:00" =
    .ok (some (.point elevenOClock)) := by rfl

theorem read_twelveOClock : Calendar.readMoment "2024-03-01T13:00:00+01:00" =
    .ok (some (.point twelveOClock)) := by rfl

def meetingRow (id : RowId) (cells : Cells) : Row where
  id := id
  order := .one
  createdOn := .epoch
  updatedOn := .epoch
  cells := cells

def meetingRows : TableRows :=
  ((TableRows.put { (default : TableRows) with lastId := 3 }
    (meetingRow ⟨1⟩ (IdMap.insert default ⟨4⟩ (.instant twelveOClock)))).put
    (meetingRow ⟨2⟩ (IdMap.insert default ⟨4⟩ (.instant nineOClock)))).put (meetingRow ⟨3⟩ default)

def meetingDb : Db := .holding .epoch ⟨3⟩ meetingRows

def meetingQuery : Query where
  schema := meetingSchema
  order := some [⟨⟨4⟩, false⟩]

theorem stored_meetings : ∀ row ∈ (meetingDb.rowsOf meetingSchema.table).values,
    ∃ given, meetingColumn.field.normalize given = .ok (row.cell meetingColumn) := by
  have rows : (meetingDb.rowsOf meetingSchema.table).values =
      [meetingRow ⟨1⟩ (IdMap.insert default ⟨4⟩ (.instant twelveOClock)),
        meetingRow ⟨2⟩ (IdMap.insert default ⟨4⟩ (.instant nineOClock)), meetingRow ⟨3⟩ default] := rfl
  intro row member
  rw [rows] at member
  rcases List.mem_cons.1 member with rfl | member
  · exact ⟨.instant twelveOClock, rfl⟩
  · rcases List.mem_cons.1 member with rfl | member
    · exact ⟨.instant nineOClock, rfl⟩
    · rw [List.mem_singleton.1 member]
      exact ⟨.null, rfl⟩

theorem ranges_of_meetings :
    let after : Predicate := .test (.field ⟨4⟩) (.date .after (.point elevenOClock))
    let before : Predicate := .test (.field ⟨4⟩) (.date .before (.point twelveOClock))
    let key := meetingSchema.termKey ⟨⟨4⟩, false⟩
    ∃ response, (Db.perform (Db.execute meetingQuery) meetingDb).1 = .ok response ∧
      (∃ front last, response.records.map Record.row = front ++ last ∧
        (∀ row ∈ front, after.accepts meetingSchema row = false) ∧
        ∀ row ∈ last, after.accepts meetingSchema row = true) ∧
      ∃ empty met rest, response.records.map Record.row = empty ++ met ++ rest ∧
        (∀ row ∈ empty, key row = .null) ∧
        (∀ row ∈ met, key row ≠ .null ∧ before.accepts meetingSchema row = true) ∧
        ∀ row ∈ rest, key row ≠ .null ∧ before.accepts meetingSchema row = false := by
  intro after before key
  have found : meetingSchema.column? meetingColumn.id = some meetingColumn := rfl
  have readAfter : meetingColumn.field.filterTest .dateAfter "2024-03-01 11:00" =
      .ok (.date .after (.point elevenOClock)) := by
    change momentTest .after "2024-03-01 11:00" = _
    rw [momentTest, read_elevenOClock]
    rfl
  have readBefore : meetingColumn.field.filterTest .dateBefore "2024-03-01T13:00:00+01:00" =
      .ok (.date .before (.point twelveOClock)) := by
    change momentTest .before "2024-03-01T13:00:00+01:00" = _
    rw [momentTest, read_twelveOClock]
    rfl
  have executed : ∃ response, (Db.perform (Db.execute meetingQuery) meetingDb).1 = .ok response := by
    rw [Db.perform_execute, exists_unlessFault_eq_ok]
    rfl
  obtain ⟨response, executed⟩ := executed
  obtain ⟨_, _, _, listed⟩ :=
    ranges_of_column found .date readAfter readBefore fun _ _ => stored_meetings
  exact ⟨response, executed, listed meetingQuery response rfl rfl executed⟩

end Tabula
