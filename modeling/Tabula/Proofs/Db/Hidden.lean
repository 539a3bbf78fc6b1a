import Tabula.Proofs.Db.Execute
import Tabula.Proofs.Query.Hidden
import Tabula.Proofs.Query.Outcome
import Tabula.Proofs.Row.Read

/-!
What queries tell of a field that they may not name: nothing. They are built alike, or refused alike,
whether the field exists or not, and answer alike whatever its cells are.
-/
namespace Tabula

/-- The rows agree but for their cells of one field. -/
structure Row.AlikeBut (hidden : FieldId) (row other : Row) : Prop where
  id : row.id = other.id
  order : row.order = other.order
  createdOn : row.createdOn = other.createdOn
  updatedOn : row.updatedOn = other.updatedOn
  cells : ∀ id, id ≠ hidden → row.cells.find? id = other.cells.find? id

/-- One step in building a query from what a caller gives. -/
inductive QueryStep
  | onlyFields (ids : List FieldId)
  | filter (filters : FilterObject) (mode : String)
  | order (text : String)

def QueryStep.apply (query : Query) : QueryStep → Except (Failure QueryError) Query
  | onlyFields ids => .ok (query.onlyFields ids)
  | filter filters mode => query.filterByObject filters mode
  | order text => (query.orderBy text).mapError .error

def Schema.build (schema : Schema) (steps : List QueryStep) : Except (Failure QueryError) Query :=
  steps.foldlM QueryStep.apply { schema }

section
variable {shown pruned : Schema} {hidden id : FieldId} {row other : Row}

theorem Schema.Hides.read? (hides : Hides hidden shown pruned) (alike : row.AlikeBut hidden other)
    (different : id ≠ hidden) : shown.read? row id = pruned.read? other id := by
  unfold Schema.read?
  rcases Column.cases_of_map_field (hides.column? id different) with
    ⟨nothing, either⟩ | ⟨column, name, found, again⟩
  · rw [nothing, either]
    rfl
  · obtain ⟨_, rfl⟩ := column?_mem found
    have cell : row.cell column = other.cell ⟨column.field, name⟩ := by
      change (row.cells.find? column.id).getD _ = (other.cells.find? column.id).getD _
      rw [alike.cells column.id different]
      rfl
    rw [found, again, Option.map_some, Option.map_some, cell]

theorem Row.AlikeBut.systemValue (alike : row.AlikeBut hidden other) (column : SystemColumn) :
    row.systemValue column = other.systemValue column := by
  cases column with
  | id => exact congrArg (fun id : RowId => Value.number (.ofWord id.val)) alike.id
  | order => exact congrArg Value.number alike.order
  | createdOn => exact congrArg Value.instant alike.createdOn
  | updatedOn => exact congrArg Value.instant alike.updatedOn

theorem readsAlike_of_ne (hides : Schema.Hides hidden shown pruned)
    (alike : row.AlikeBut hidden other) {key : ColumnKey} (different : key ≠ .field hidden) :
    key.ReadsAlike shown row pruned other := by
  cases key with
  | field id =>
    have same := hides.read? alike fun own => different (congrArg ColumnKey.field own)
    constructor
    · intro test
      rw [acceptsColumn_field, acceptsColumn_field, same]
    · intro test
      rw [columnFault?_field, columnFault?_field, same]
  | system column =>
    have same := alike.systemValue column
    constructor
    · intro test
      simp only [CellTest.acceptsColumn, same]
    · intro test
      simp only [CellTest.columnFault?, same]

end

/-- Two queries that are the same but for the field that one schema has and the other has not, and that
neither names. -/
structure Query.Twins (hidden : FieldId) (shown pruned : Schema) (left right : Query) : Prop where
  left_schema : left.schema = shown
  right_schema : right.schema = pruned
  predicate : left.predicate = right.predicate
  order : left.order = right.order
  only : left.only = right.only
  untested : .field hidden ∉ left.predicate.columns
  unordered : ∀ term ∈ left.terms, term.field ≠ hidden

section
variable {hidden : FieldId} {shown pruned : Schema} (hides : Schema.Hides hidden shown pruned)
  {left right : Query}
include hides

theorem QueryStep.apply_twins (step : QueryStep)
    (twins : Query.Twins hidden shown pruned left right) :
    SameOutcome (Query.Twins hidden shown pruned) (step.apply left) (step.apply right) := by
  obtain ⟨rfl, rfl, predicate, order, only, untested, unordered⟩ := twins
  cases step with
  | onlyFields ids => exact .ok ⟨rfl, rfl, predicate, order, rfl, untested, unordered⟩
  | filter filters mode =>
    unfold apply
    dsimp only
    rw [Query.filterByObject_eq, Query.filterByObject_eq, ← only, ← hides.filterPredicate]
    apply SameOutcome.map
    intro added built
    have unnamed : .field hidden ∉ added.columns := by
      intro named
      exact hides.ne (Schema.queryable_of_filterPredicate built named).1 rfl
    refine ⟨rfl, rfl, congrArg (·.both added) predicate, order, only, ?_, unordered⟩
    intro named
    rcases Predicate.mem_columns_both named with before | new
    · exact untested before
    · exact unnamed new
  | order text =>
    have ordered (query : Query) : query.orderBy text =
        (query.schema.readOrder query.only text).map fun terms => { query with order := some terms } := by
      unfold Query.orderBy
      cases query.schema.readOrder query.only text <;> rfl
    unfold apply
    dsimp only
    apply SameOutcome.mapError
    rw [ordered, ordered, ← only, ← hides.readOrder]
    apply SameOutcome.map
    intro terms built
    refine ⟨rfl, rfl, predicate, rfl, rfl, untested, ?_⟩
    intro term member
    exact hides.ne (Schema.queryable_of_readOrder built term member).1

theorem Schema.build_twins (steps : List QueryStep) :
    SameOutcome (Query.Twins hidden shown pruned) (shown.build steps) (pruned.build steps) := by
  apply SameOutcome.foldlM
  · intro first second step twins
    exact step.apply_twins hides twins
  · exact ⟨rfl, rfl, rfl, rfl, rfl, nofun, nofun⟩

variable {row other : Row} {stored others : List Row}

namespace Query.Twins
variable (twins : Query.Twins hidden shown pruned left right)
include twins

theorem accepts (alike : row.AlikeBut hidden other) : left.accepts row = right.accepts other := by
  unfold Query.accepts
  rw [← twins.predicate, twins.left_schema, twins.right_schema]
  apply left.predicate.accepts_congr alike.id
  intro key member
  exact readsAlike_of_ne hides alike fun same => twins.untested (same ▸ member)

theorem fault? (alike : row.AlikeBut hidden other) :
    left.predicate.fault? left.schema row = right.predicate.fault? right.schema other := by
  rw [← twins.predicate, twins.left_schema, twins.right_schema]
  apply left.predicate.fault?_congr alike.id
  intro key member
  exact readsAlike_of_ne hides alike fun same => twins.untested (same ▸ member)

omit hides in
theorem terms : left.terms = right.terms := by
  unfold Query.terms
  rw [twins.order]

theorem place (alike : row.AlikeBut hidden other) : left.place row = right.place other := by
  have keys : shown.orderKeys left.terms row = pruned.orderKeys left.terms other := by
    rw [orderKeys_eq, orderKeys_eq]
    apply List.map_congr_left
    intro term member
    rw [hides.read? alike (twins.unordered term member)]
  unfold Query.place
  rw [twins.left_schema, twins.right_schema, ← twins.terms, keys, alike.order, alike.id]

theorem ids_select (alike : List.Forall₂ (Row.AlikeBut hidden) stored others) :
    (left.select stored).map Row.id = (right.select others).map Row.id := by
  have same ⦃row other : Row⦄ (alike : row.AlikeBut hidden other) :
      left.accepts row = true ↔ right.accepts other = true := by
    rw [twins.accepts hides alike]
  have places : (stored.filter left.accepts).map left.place =
      (others.filter right.accepts).map right.place :=
    map_eq_of_forall₂ (List.rel_filter same alike) fun _ _ => twins.place hides
  rw [Query.map_id_select, Query.map_id_select, places, twins.terms]

theorem fault?_rows (alike : List.Forall₂ (Row.AlikeBut hidden) stored others) :
    left.fault? stored = right.fault? others := by
  have first (query : Query) (rows : List Row) :
      query.fault? rows = (rows.map (query.predicate.fault? query.schema)).findSome? id := by
    rw [List.findSome?_map]
    rfl
  rw [first, first, map_eq_of_forall₂ alike fun _ _ => twins.fault? hides]

/-- Over stores that are alike but for the hidden field both give the same rows in the same order. -/
theorem ids_execute {db state : Db}
    (alike : List.Forall₂ (Row.AlikeBut hidden) (db.rowsOf shown.table).values
      (state.rowsOf shown.table).values) :
    (Db.perform (Db.execute left) db).1.map Response.ids =
      (Db.perform (Db.execute right) state).1.map Response.ids := by
  have ids (query : Query) (rows : List Row) : (Db.respond query rows).ids = rows.map Row.id := by
    unfold Db.respond Response.ids
    rw [List.map_map]
    rfl
  have answer (query : Query) (db : Db) :
      (Db.perform (Db.execute query) db).1.map Response.ids =
        unlessFault (query.fault? (db.rowsOf query.schema.table).values)
          ((query.select (db.rowsOf query.schema.table).values).map Row.id) := by
    rw [Db.perform_execute]
    cases query.fault? (db.rowsOf query.schema.table).values with
    | none => exact congrArg Except.ok (ids _ _)
    | some fault => rfl
  rw [answer, answer, twins.left_schema, twins.right_schema, ← hides.table,
    twins.fault?_rows hides alike, twins.ids_select hides alike]

end Query.Twins
end

/-- In the stable view a field outside the allowed ones cannot be told from one that does not exist: any
filters, orderings and restrictions build a query over the table exactly when they do over the table
without it, with the same error if not, and both give the same rows in the same order, or meet the same
fault, on any two stores that differ in the cells of that field at most. -/
theorem hidden_from_queries {table : Table} {options : ComposeOptions} {allowed : List FieldId}
    {hidden : FieldId} {shown : Schema} (stable : options.attributeNames = false)
    (limited : options.fieldIds = some allowed) (omitted : hidden ∉ allowed)
    (composed : Schema.compose table options = .ok shown) :
    ∃ pruned, Schema.compose (table.eraseField hidden) options = .ok pruned ∧
      ∀ steps : List QueryStep,
        SameOutcome (fun query twin => ∀ db other : Db,
            List.Forall₂ (Row.AlikeBut hidden) (db.rowsOf table.id).values
              (other.rowsOf table.id).values →
            (Db.perform (Db.execute query) db).1.map Response.ids =
              (Db.perform (Db.execute twin) other).1.map Response.ids)
          (shown.build steps) (pruned.build steps) := by
  obtain ⟨pruned, without⟩ := Schema.exists_compose_eraseField composed hidden
  have hides := Schema.hides_of_compose stable limited omitted composed without
  refine ⟨pruned, without, ?_⟩
  intro steps
  apply (Schema.build_twins hides steps).imp
  intro query twin twins db other alike
  rw [← Schema.table_eq composed] at alike
  exact twins.ids_execute hides alike

/-! A shown field that may not be named, with different cells in two stores. -/

def secretTable : Table where
  id := ⟨3⟩
  database := ⟨2⟩
  name := "t"
  order := 1
  fields :=
    [⟨⟨4⟩, ⟨3⟩, "Note", 1, false, .stored .longText⟩,
      ⟨⟨5⟩, ⟨3⟩, "Secret", 2, false, .stored .longText⟩]

def secretOptions : ComposeOptions where
  fields := some [⟨5⟩]
  fieldIds := some [⟨4⟩]

abbrev secretSchema : Schema := Schema.ofTable secretTable secretOptions

def secretSteps : List QueryStep :=
  [.onlyFields [⟨4⟩, ⟨5⟩], .filter [("filter__field_4__contains", .one (.text "a"))] "AND",
    .order "-field_04"]

def secretRow (secret : String) : Row where
  id := ⟨1⟩
  order := .one
  createdOn := .epoch
  updatedOn := .epoch
  cells := (IdMap.insert default ⟨4⟩ (.text "a") : Cells).insert ⟨5⟩ (.text secret)

def secretStore (secret : String) : Store where
  tables := IdMap.insert default ⟨3⟩ (TableRows.put default (secretRow secret))

theorem secretRow_alike (secret other : String) :
    (secretRow secret).AlikeBut ⟨5⟩ (secretRow other) := by
  refine ⟨rfl, rfl, rfl, rfl, ?_⟩
  intro id different
  unfold secretRow
  rw [IdMap.find?_insert_of_ne _ _ different, IdMap.find?_insert_of_ne _ _ different]

theorem build_secretSteps : ∃ query, secretSchema.build secretSteps = .ok query := ⟨_, by rfl⟩

theorem build_secretOrder :
    secretSchema.build [.order "field_5"] = .error (.error (.orderByFieldNotFound "field_5")) := by
  rfl

theorem hidden_from_secret_queries :
    ∃ pruned, Schema.compose (secretTable.eraseField ⟨5⟩) secretOptions = .ok pruned ∧
      pruned.build [.order "field_5"] = .error (.error (.orderByFieldNotFound "field_5")) ∧
      ∃ query twin, secretSchema.build secretSteps = .ok query ∧
        pruned.build secretSteps = .ok twin ∧
        (Db.perform (Db.execute query) { clock := .epoch, store := secretStore "x" }).1.map
            Response.ids =
          (Db.perform (Db.execute twin) { clock := .epoch, store := secretStore "y" }).1.map
            Response.ids := by
  have composed : Schema.compose secretTable secretOptions = .ok secretSchema := rfl
  have omitted : (⟨5⟩ : FieldId) ∉ [(⟨4⟩ : FieldId)] := by decide
  obtain ⟨pruned, without, same⟩ := hidden_from_queries rfl rfl omitted composed
  refine ⟨pruned, without, ?_, ?_⟩
  · have refused := same [.order "field_5"]
    rw [build_secretOrder] at refused
    generalize pruned.build [.order "field_5"] = outcome at refused ⊢
    cases refused
    rfl
  · obtain ⟨query, built⟩ := build_secretSteps
    have answers := same secretSteps
    rw [built] at answers
    generalize pruned.build secretSteps = outcome at answers ⊢
    cases answers with
    | ok answers =>
      refine ⟨query, _, built, rfl, ?_⟩
      apply answers
      exact .cons (secretRow_alike _ _) .nil

end Tabula
