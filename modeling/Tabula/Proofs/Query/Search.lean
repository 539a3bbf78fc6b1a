import Tabula.Proofs.Calendar.Civil
import Tabula.Proofs.Decimal.Next
import Tabula.Proofs.Predicate.Eval
import Tabula.Proofs.Schema.Represented
import Tabula.Proofs.Text.Fold
import Tabula.Query.Basic

/-!
What a search finds: the sought text in a searchable column, in any case of letters, or the number of the
row in its one numeral. Where the text of a cell cannot be written, the search breaks off there.
-/
namespace Tabula
open Text

theorem Id.word64?_text {entity : Entity} (id : Id entity) : word64? id.text = some id.val := by
  have spelled := id.isNumeral_text
  have unmarked (rest : List Char) : id.text.toList ≠ '+' :: rest := by
    intro same
    have digit := spelled.numeric '+' (by simp [same])
    revert digit
    decide
  have read : digits? id.text.toList = some id.val.toNat := by
    unfold digits?
    rw [spelled.value, if_pos]
    simpa [spelled.filled] using spelled.numeric
  unfold word64? unsigned?
  split
  · rename_i same
    exact absurd same (unmarked _)
  · simp [read, id.val.toNat_lt]

theorem canonicalRow?_eq_some {text : String} {id : RowId} :
    canonicalRow? text = some id ↔ IsNumeral id.val.toNat text.toList := by
  have spelled : IsNumeral id.val.toNat text.toList ↔ id.text = text := by
    rw [isNumeral_iff, ← isNumeral_iff.1 id.isNumeral_text, String.toList_inj, eq_comm]
  rw [spelled]
  unfold canonicalRow?
  constructor
  · intro found
    obtain ⟨number, read, kept⟩ := Option.bind_eq_some_iff.1 found
    dsimp only at kept
    split at kept
    · rename_i same
      cases kept
      exact same
    · cases kept
  · rintro rfl
    rw [id.word64?_text]
    simp

namespace Schema

variable {schema : Schema} {row : Row} {column : Column}

theorem column?_of_mem (distinct : (schema.columns.map Column.id).Nodup)
    (member : column ∈ schema.columns) : schema.column? column.id = some column := by
  cases found : schema.column? column.id with
  | none =>
    rw [column?_eq, List.find?_eq_none] at found
    exact absurd (found column (List.mem_reverse.2 member)) (by simp)
  | some other =>
    obtain ⟨inside, same⟩ := column?_mem found
    rw [List.inj_on_of_nodup_map distinct inside member same]

def searched (schema : Schema) : List Column := schema.columns.filter (·.field.isSearchable)

/-- The text by which a column is searched in a row holds the sought one, in any case of letters. -/
def Finds (row : Row) (text : String) (column : Column) : Prop :=
  ∃ shown, column.field.searchText (row.cell column) = some shown ∧
    (fold text).toList <:+: (fold shown).toList

def searchTest (text : String) (column : Column) : Predicate :=
  .test (.field column.id) (.contains (fold text))

def searchRows (matchRowId : Bool) (text : String) : List Predicate :=
  if matchRowId then (canonicalRow? (trim text)).toList.map Predicate.rowIs else []

theorem searchPredicate_eq (schema : Schema) (matchRowId : Bool) {text : String}
    (solid : isBlankText text = false) : schema.searchPredicate matchRowId text =
      .any (schema.searched.map (searchTest text) ++ searchRows matchRowId text) := by
  unfold searchPredicate
  rw [if_neg (by simp [solid])]
  rfl

theorem accepts_searchTest (found : schema.column? column.id = some column) (text : String) :
    (searchTest text column).accepts schema row = true ↔ Finds row text column := by
  rw [searchTest, Predicate.accepts_test found]
  unfold Field.accepts CellTest.accepts CellTest.textContains
  rw [Option.any_eq_true]
  simp only [foldContains_iff]
  rfl

theorem fault?_searchTest (found : schema.column? column.id = some column) (text : String) :
    (searchTest text column).fault? schema row = column.field.textFault? (row.cell column) :=
  Predicate.fault?_test found _

theorem exists_searchRows_accepts (matchRowId : Bool) (text : String) :
    (∃ part ∈ searchRows matchRowId text, part.accepts schema row = true) ↔
      matchRowId = true ∧ IsNumeral row.id.val.toNat (trim text).toList := by
  rw [← canonicalRow?_eq_some]
  unfold searchRows
  cases matchRowId with
  | false => simp
  | true => cases canonicalRow? (trim text) <;> simp [Predicate.accepts, @eq_comm _ row.id]

theorem fault?_searchRows (matchRowId : Bool) (text : String) :
    ∀ part ∈ searchRows matchRowId text, part.fault? schema row = none := by
  intro part member
  unfold searchRows at member
  split at member
  · obtain ⟨id, _, rfl⟩ := List.mem_map.1 member
    rfl
  · cases member

theorem accepts_searchPredicate (distinct : (schema.columns.map Column.id).Nodup) (matchRowId : Bool)
    {text : String} (solid : isBlankText text = false) :
    (schema.searchPredicate matchRowId text).accepts schema row = true ↔
      (∃ column ∈ schema.searched, Finds row text column) ∨
        matchRowId = true ∧ IsNumeral row.id.val.toNat (trim text).toList := by
  have tests : (∃ part ∈ schema.searched.map (searchTest text), part.accepts schema row = true) ↔
      ∃ column ∈ schema.searched, Finds row text column := by
    simp only [List.mem_map, exists_exists_and_eq_and]
    apply exists_congr
    intro column
    apply and_congr_right
    intro member
    exact accepts_searchTest (column?_of_mem distinct (List.mem_of_mem_filter member)) text
  rw [searchPredicate_eq _ _ solid, Predicate.accepts_any, ← tests,
    ← @exists_searchRows_accepts schema row]
  simp only [List.mem_append, or_and_right, exists_or]

theorem fault?_searchPredicate (distinct : (schema.columns.map Column.id).Nodup) (matchRowId : Bool)
    {text : String} (solid : isBlankText text = false) {fault : Fault} :
    (schema.searchPredicate matchRowId text).fault? schema row = some fault ↔
      ∃ before column after, schema.searched = before ++ column :: after ∧
        (∀ other ∈ before, other.field.textFault? (row.cell other) = none ∧ ¬ Finds row text other) ∧
        column.field.textFault? (row.cell column) = some fault := by
  rw [searchPredicate_eq _ _ solid, Predicate.fault?_any_eq,
    anyFault?_append_of_sound _ (fault?_searchRows matchRowId text), anyFault?_map_eq_some]
  apply exists_congr
  intro before
  apply exists_congr
  intro column
  apply exists_congr
  intro after
  apply and_congr_right
  intro whole
  have found {other : Column} (inside : other ∈ before ++ column :: after) :
      schema.column? other.id = some other :=
    column?_of_mem distinct (List.mem_of_mem_filter (whole ▸ inside))
  rw [fault?_searchTest (found (List.mem_append_right _ List.mem_cons_self))]
  apply and_congr_left'
  apply forall₂_congr
  intro other inside
  have known := found (List.mem_append_left _ inside)
  rw [fault?_searchTest known, ← accepts_searchTest known, Bool.not_eq_true]

end Schema

/-- A search accepts a row exactly if the sought text is blank, if a searchable column holds it, or if it is
the numeral of the row and rows are found by theirs. Evaluating it breaks off exactly at the first searchable
column whose text cannot be written, where no column before it holds the sought text. -/
theorem search_finds {schema : Schema} (distinct : (schema.columns.map Column.id).Nodup)
    (config : Config) (text : String) (row : Row) :
    let search := schema.searchPredicate config.matchRowId text
    (search.accepts schema row = true ↔
        isBlankText text = true ∨
          (∃ column ∈ schema.columns, column.field.isSearchable = true ∧
            ∃ shown, column.field.searchText (row.cell column) = some shown ∧
              (fold text).toList <:+: (fold shown).toList) ∨
          config.matchRowId = true ∧ IsNumeral row.id.val.toNat (trim text).toList) ∧
      ∀ fault, search.fault? schema row = some fault ↔
        isBlankText text = false ∧
          ∃ before column after,
            schema.columns.filter (·.field.isSearchable) = before ++ column :: after ∧
              (∀ other ∈ before, other.field.textFault? (row.cell other) = none ∧
                ¬ ∃ shown, other.field.searchText (row.cell other) = some shown ∧
                  (fold text).toList <:+: (fold shown).toList) ∧
              column.field.textFault? (row.cell column) = some fault := by
  intro search
  cases blank : isBlankText text with
  | true =>
    have all : search = .everything := if_pos blank
    rw [all]
    simp [Predicate.accepts, Predicate.fault?]
  | false =>
    constructor
    · rw [Schema.accepts_searchPredicate distinct config.matchRowId blank]
      simp [Schema.searched, Schema.Finds, and_assoc]
    · intro fault
      rw [Schema.fault?_searchPredicate distinct config.matchRowId blank]
      simp [Schema.searched, Schema.Finds]

/-! A number in front of a memo, with one digit more to show than a written number has room for. -/

def memoTable : Table where
  id := ⟨3⟩
  database := ⟨2⟩
  name := "t"
  order := 1
  fields := [
    ⟨⟨4⟩, ⟨3⟩, "n", 1, false, .stored (.number ⟨31, false⟩)⟩,
    ⟨⟨5⟩, ⟨3⟩, "s", 2, false, .stored .longText⟩]

def memoSchema : Schema := Schema.ofTable memoTable {}

def memoRow (number : Value) : Row where
  id := ⟨1⟩
  order := .one
  createdOn := .epoch
  updatedOn := .epoch
  cells := (IdMap.insert default ⟨4⟩ number).insert ⟨5⟩ (.text "Note")

def memoColumn : Column := ⟨⟨⟨5⟩, ⟨3⟩, "s", 2, false, .stored .longText⟩, "s"⟩

def longNumber : Value := .number .thousandth

theorem distinct_memoSchema : (memoSchema.columns.map Column.id).Nodup := by decide

theorem memo_held (number : Value) : ∃ column ∈ memoSchema.columns, column.field.isSearchable = true ∧
    ∃ shown, column.field.searchText ((memoRow number).cell column) = some shown ∧
      (fold "nOT").toList <:+: (fold shown).toList :=
  ⟨memoColumn, by decide, rfl, "Note", rfl, foldContains_iff.1 rfl⟩

theorem search_of_memo : (memoSchema.columns.map Column.id).Nodup ∧
    (memoSchema.searchPredicate true "nOT").accepts memoSchema (memoRow .null) = true :=
  ⟨distinct_memoSchema,
    (search_finds distinct_memoSchema {} "nOT" (memoRow .null)).1.2 (.inr (.inl (memo_held .null)))⟩

/-- A text that a column holds is not always found: the search can break off before. -/
theorem not_all_searches_answer :
    ¬ ∀ (schema : Schema) (config : Config) (text : String) (row : Row),
      (schema.columns.map Column.id).Nodup →
        (∃ column ∈ schema.columns, column.field.isSearchable = true ∧
          ∃ shown, column.field.searchText (row.cell column) = some shown ∧
            (fold text).toList <:+: (fold shown).toList) →
        (schema.searchPredicate config.matchRowId text).fault? schema row = none ∧
          (schema.searchPredicate config.matchRowId text).accepts schema row = true := by
  intro refuted
  obtain ⟨sound, _⟩ :=
    refuted memoSchema {} "nOT" (memoRow longNumber) distinct_memoSchema (memo_held longNumber)
  have broken : (memoSchema.searchPredicate true "nOT").fault? memoSchema (memoRow longNumber) =
      some .textExceeded := rfl
  rw [broken] at sound
  cases sound

end Tabula
