import Tabula.Proofs.Cell.Negated
import Tabula.Proofs.Query.Search

/-!
What stands in a text verbatim is found in it without case. The one letter that stands in the way is the
capital sigma, whose small form depends on whether it ends a word.
-/
namespace Tabula
open Text

/-- The tests for containment decide a cell whose text can be written, each the opposite of the other. -/
theorem Field.checkedAccepts_contains {field : Field} {value : Value} {shown : String}
    (written : field.checkedText value = .ok (some shown)) {needle : String}
    (held : needle.toList <:+: (fold shown).toList) :
    field.checkedAccepts (.contains needle) value = .ok true ∧
      field.checkedAccepts (.containsNot needle) value = .ok false := by
  obtain ⟨sound, text⟩ := unlessFault_eq_ok.1 written
  have found : CellTest.textContains (some shown) needle = true := foldContains_iff.2 held
  constructor
  · exact unlessFault_eq_ok.2 ⟨sound, by rw [accepts, text, CellTest.accepts, found]⟩
  · exact unlessFault_eq_ok.2 ⟨sound, by rw [accepts, text, CellTest.accepts, found]; rfl⟩

section
variable {schema : Schema} {column : Column} {row : Row} {text shown : String}

/-- A text that stands in the text of a searchable column is found by searching for it, unless it holds a
capital sigma that ends a word in it and not there, or there and not in it. The search is evaluated to the
end, or breaks off at another column. The filter for the text accepts the cell, and its negation does not. -/
theorem verbatim_text_found (distinct : (schema.columns.map Column.id).Nodup)
    (member : column ∈ schema.columns) (searchable : column.field.isSearchable = true)
    (written : column.field.checkedText (row.cell column) = .ok (some shown))
    (solid : isBlankText text = false) {before after : List Char}
    (verbatim : shown.toList = before ++ text.toList ++ after)
    (agree : SigmasAgree before text.toList after) (config : Config) :
    let search := schema.searchPredicate config.matchRowId text
    search.accepts schema row = true ∧
      (∀ fault, search.fault? schema row = some fault →
        ∃ other ∈ schema.columns, other ≠ column ∧
          other.field.textFault? (row.cell other) = some fault) ∧
      (.contains ∈ column.field.filterOps →
        ∃ test, column.field.filterTest .contains text = .ok test ∧
          column.field.checkedAccepts test (row.cell column) = .ok true) ∧
      (.containsNot ∈ column.field.filterOps →
        ∃ test, column.field.filterTest .containsNot text = .ok test ∧
          column.field.checkedAccepts test (row.cell column) = .ok false) := by
  intro search
  have held : (fold text).toList <:+: (fold shown).toList := fold_infix_fold verbatim agree
  obtain ⟨sound, same⟩ := unlessFault_eq_ok.1 written
  obtain ⟨accepts, rejects⟩ := Field.checkedAccepts_contains written held
  refine ⟨?_, ?_, ?_, ?_⟩
  · have searched : column ∈ schema.searched := List.mem_filter.2 ⟨member, searchable⟩
    rw [Schema.accepts_searchPredicate distinct config.matchRowId solid]
    exact .inl ⟨column, searched, shown, same, held⟩
  · intro fault met
    rw [Schema.fault?_searchPredicate distinct config.matchRowId solid] at met
    obtain ⟨front, other, back, whole, _, broken⟩ := met
    have searched : other ∈ schema.searched := by simp [whole]
    refine ⟨other, List.mem_of_mem_filter searched, ?_, broken⟩
    rintro rfl
    rw [sound] at broken
    cases broken
  · intro accepted
    exact ⟨_, CellType.filterTest_common accepted (by decide) text, accepts⟩
  · intro accepted
    exact ⟨_, CellType.filterTest_common accepted (by decide) text, rejects⟩

end

/-! A sigma that ends a word of its own, and stands within one. -/

def greekColumn : Column := ⟨⟨⟨4⟩, ⟨3⟩, "t", 1, true, .stored .longText⟩, "t"⟩

def greekSchema : Schema where
  table := ⟨3⟩
  database := ⟨2⟩
  tableName := "t"
  storageName := "database_table_3"
  attributeMode := false
  columns := [greekColumn]
  allowed := none
  tableColumns := [greekColumn]

def greekRow : Row where
  id := ⟨1⟩
  order := .one
  createdOn := .epoch
  updatedOn := .epoch
  cells := IdMap.insert default ⟨4⟩ (.text "ΑΣΑ")

theorem found_in_greek : greekColumn.field.checkedText (greekRow.cell greekColumn) = .ok (some "ΑΣΑ") ∧
    (greekSchema.searchPredicate true "Α").accepts greekSchema greekRow = true :=
  have free : SigmasAgree [] "Α".toList ['Σ', 'Α'] := sigmasAgree_of_not_mem (by decide)
  ⟨rfl, (verbatim_text_found (by decide) List.mem_cons_self rfl rfl (by decide) rfl free {}).1⟩

/-- Not every text is found that stands in another one. -/
theorem not_all_verbatim_texts_found :
    ¬ ∀ (schema : Schema) (column : Column) (row : Row) (text shown : String) (before after : List Char)
      (config : Config), (schema.columns.map Column.id).Nodup → column ∈ schema.columns →
        column.field.isSearchable = true →
        column.field.checkedText (row.cell column) = .ok (some shown) → isBlankText text = false →
        shown.toList = before ++ text.toList ++ after →
        (schema.searchPredicate config.matchRowId text).accepts schema row = true := by
  intro refuted
  have search := refuted greekSchema greekColumn greekRow "ΑΣ" "ΑΣΑ" [] ['Α'] {} (by decide)
    List.mem_cons_self rfl rfl (by decide) rfl
  have missed : (greekSchema.searchPredicate true "ΑΣ").accepts greekSchema greekRow = false := rfl
  rw [missed] at search
  cases search

end Tabula
