import Tabula.Proofs.Query.Named
import Tabula.Proofs.Query.Reference

/-!
A field that filters and orderings may not name. A schema that shows it reads every filter and every
ordering as the same schema without it does, down to the errors.
-/
namespace Tabula
namespace Schema

/-- In the stable view, two schemas that agree but for one field, which neither lets filters name. -/
structure Hides (hidden : FieldId) (shown pruned : Schema) : Prop where
  table : shown.table = pruned.table
  shownStable : shown.attributeMode = false
  prunedStable : pruned.attributeMode = false
  isQueryable : ∀ id, shown.isQueryable id = pruned.isQueryable id
  unqueryable : shown.isQueryable hidden = false
  column? : ∀ id, id ≠ hidden →
    (shown.column? id).map Column.field = (pruned.column? id).map Column.field

section
variable {table : Table} {options : ComposeOptions} {schema : Schema} {hidden id : FieldId}

theorem find?_eraseField (table : Table) (other : id ≠ hidden) :
    (table.eraseField hidden).fields.reverse.find? (·.id = id) =
      table.fields.reverse.find? (·.id = id) := by
  have rest (fields : List Field) :
      (fields.eraseP (·.id = hidden)).filter (·.id = id) = fields.filter (·.id = id) := by
    induction fields with
    | nil => rfl
    | cons field fields ih => grind
  rw [← List.head?_filter, ← List.head?_filter, List.filter_reverse, List.filter_reverse]
  exact congrArg (List.head? ∘ List.reverse) (rest table.fields)

theorem isQueryable_eq (composed : compose table options = .ok schema) (id : FieldId) :
    schema.isQueryable id =
      (((schema.column? id).map Column.field).isSome && options.fieldIds.all (id ∈ ·)) := by
  have allowed : schema.allowed = options.fieldIds := by rw [eq_ofTable composed, ofTable]
  unfold isQueryable column? byId
  rw [Option.isSome_map, isSome_columnAt?, allowed]

theorem exists_compose_eraseField (composed : compose table options = .ok schema)
    (hidden : FieldId) : ∃ pruned, compose (table.eraseField hidden) options = .ok pruned := by
  have sound : fault? table = none := (unlessFault_eq_ok.1 composed).1
  apply exists_unlessFault_eq_ok.2
  unfold fault? at sound ⊢
  rw [List.findSome?_eq_none_iff] at sound ⊢
  intro field member
  exact sound field (List.mem_of_mem_eraseP member)

theorem hides_of_compose {allowed : List FieldId} {pruned : Schema}
    (stable : options.attributeNames = false) (limited : options.fieldIds = some allowed)
    (omitted : hidden ∉ allowed) (composed : compose table options = .ok schema)
    (without : compose (table.eraseField hidden) options = .ok pruned) :
    Hides hidden schema pruned := by
  have columns (id : FieldId) (other : id ≠ hidden) :
      (schema.column? id).map Column.field = (pruned.column? id).map Column.field := by
    rw [map_field_column? composed, map_field_column? without, find?_eraseField table other]
  have unqueryable (schema : Schema) (table : Table) (composed : compose table options = .ok schema) :
      schema.isQueryable hidden = false := by
    rw [isQueryable_eq composed, limited]
    simp [omitted]
  refine ⟨?_, ?_, ?_, ?_, unqueryable _ _ composed, columns⟩
  · exact (table_eq composed).trans (table_eq without).symm
  · rw [eq_ofTable composed]
    exact stable
  · rw [eq_ofTable without]
    exact stable
  · intro id
    by_cases same : id = hidden
    · rw [same, unqueryable _ _ composed, unqueryable _ _ without]
    · rw [isQueryable_eq composed, isQueryable_eq without, columns id same]

end

section
variable {hidden : FieldId} {shown pruned : Schema} {only : Option (List FieldId)}

theorem Hides.ne (hides : Hides hidden shown pruned) {id : FieldId}
    (queryable : shown.isQueryable id = true) : id ≠ hidden := by
  rintro rfl
  rw [hides.unqueryable] at queryable
  cases queryable

theorem Hides.filterColumn (hides : Hides hidden shown pruned) (target : FilterTarget) :
    shown.filterColumn only target = pruned.filterColumn only target := by
  cases target with
  | noField digits => rfl
  | system column => rfl
  | field id =>
    by_cases allowed : shown.isQueryable id = true ∧ allowedBy only id = true
    · unfold Schema.filterColumn
      dsimp only
      rcases Column.cases_of_map_field (hides.column? id (hides.ne allowed.1)) with
        ⟨nothing, either⟩ | ⟨column, name, found, alike⟩
      · rw [nothing, either]
      · rw [found, alike, hides.isQueryable]
    · have excluded := allowed
      rw [hides.isQueryable] at excluded
      rw [filterColumn_of_excluded allowed, filterColumn_of_excluded excluded]

theorem Hides.keyPredicate? (hides : Hides hidden shown pruned) (key : FilterKey)
    (value : FilterValue) : shown.keyPredicate? only key value = pruned.keyPredicate? only key value := by
  unfold Schema.keyPredicate?
  rw [hides.filterColumn]

theorem Hides.keyPredicates (hides : Hides hidden shown pruned) (filters : FilterObject) :
    shown.keyPredicates only filters = pruned.keyPredicates only filters := by
  rw [keyPredicates_eq, keyPredicates_eq]
  simp only [hides.keyPredicate?]

theorem Hides.filterPredicate (hides : Hides hidden shown pruned) (filters : FilterObject)
    (mode : String) :
    shown.filterPredicate only filters mode = pruned.filterPredicate only filters mode := by
  unfold Schema.filterPredicate
  rw [hides.keyPredicates]

/-- A reference means the same field, or else it can only mean the hidden one. -/
theorem Hides.referenced? (hides : Hides hidden shown pruned) (reference : List Char) :
    (shown.referenced? reference).map Column.field = (pruned.referenced? reference).map Column.field ∨
      (∀ column, shown.referenced? reference = some column → column.id = hidden) ∧
        ∀ column, pruned.referenced? reference = some column → column.id = hidden := by
  rw [referenced?_of_stable hides.shownStable, referenced?_of_stable hides.prunedStable]
  cases stableReference? reference with
  | none => exact .inl rfl
  | some id =>
    by_cases same : id = hidden
    · rw [← same]
      exact .inr ⟨fun _ found => (column?_mem found).2, fun _ found => (column?_mem found).2⟩
    · exact .inl (hides.column? id same)

theorem readTerm_of_hidden {schema : Schema} {term : List Char}
    (unqueryable : schema.isQueryable hidden = false)
    (only_hidden : ∀ column, schema.referenced? (schema.splitTerm term).2 = some column →
      column.id = hidden) :
    schema.readTerm only term =
      .error (.orderByFieldNotFound (String.ofList (schema.splitTerm term).2)) := by
  unfold readTerm
  dsimp only
  cases found : schema.referenced? (schema.splitTerm term).2 with
  | none => rfl
  | some column =>
    dsimp only
    rw [only_hidden column found, unqueryable]
    rfl

theorem Hides.readTerm (hides : Hides hidden shown pruned) (term : List Char) :
    shown.readTerm only term = pruned.readTerm only term := by
  have split : shown.splitTerm term = pruned.splitTerm term := by
    unfold splitTerm
    rw [hides.shownStable, hides.prunedStable]
  rcases hides.referenced? (pruned.splitTerm term).2 with same | ⟨first, second⟩
  · unfold Schema.readTerm
    rw [split]
    dsimp only
    rcases Column.cases_of_map_field same with ⟨nothing, either⟩ | ⟨column, name, found, alike⟩
    · rw [nothing, either]
    · rw [found, alike]
      dsimp only
      rw [hides.isQueryable]
      rfl
  · have unqueryable := hides.unqueryable
    rw [hides.isQueryable] at unqueryable
    rw [← split] at first
    rw [readTerm_of_hidden hides.unqueryable first, readTerm_of_hidden unqueryable second, split]

theorem Hides.readOrder (hides : Hides hidden shown pruned) (order : String) :
    shown.readOrder only order = pruned.readOrder only order := by
  have read : shown.readTerm only = pruned.readTerm only := funext hides.readTerm
  unfold Schema.readOrder
  rw [read]

end
end Schema
end Tabula
