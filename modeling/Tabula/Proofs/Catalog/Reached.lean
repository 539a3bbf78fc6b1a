import Tabula.Proofs.Catalog.Perform

/-!
The catalogs that edits lead to from an empty one, with the log of what each edit answered. An edit that
such a catalog refuses changes nothing in it.
-/
namespace Tabula

/-- The change leaves every field where it is in its table. -/
structure Field.Stays (change : Field → Field) : Prop where
  id : ∀ field, (change field).id = field.id
  table : ∀ field, (change field).table = field.table
  order : ∀ field, (change field).order = field.order

theorem Table.mem_insertField {table : Table} {field other : Field} :
    other ∈ (table.insertField field).fields ↔ other ∈ table.fields ∨ other = field := by
  unfold Table.insertField
  rw [List.mem_mergeSort, List.mem_append, List.mem_singleton]

theorem Table.Edited.stays {table later : Table} {id : FieldId} (edited : table.Edited id later) :
    ∃ change, Field.Stays change ∧ later = table.mapFields change := by
  have modified {change : Field → Field} (stays : Field.Stays change) :
      Field.Stays fun field => if field.id = id then change field else field := by
    constructor <;>
    · intro field
      split <;> simp only [stays.id, stays.table, stays.order]
  cases edited with
  | primary =>
    exact ⟨fun field => { field with primary := field.id = id },
      ⟨fun _ => rfl, fun _ => rfl, fun _ => rfl⟩, rfl⟩
  | name name _ =>
    have stays : Field.Stays fun field => { field with name } :=
      ⟨fun _ => rfl, fun _ => rfl, fun _ => rfl⟩
    exact ⟨_, modified stays, rfl⟩
  | kind kind =>
    have stays : Field.Stays fun field => { field with kind } :=
      ⟨fun _ => rfl, fun _ => rfl, fun _ => rfl⟩
    exact ⟨_, modified stays, rfl⟩

namespace Catalog

section
variable {catalog later : Catalog}

namespace Placed

theorem put (placed : catalog.Placed) (table : Table)
    (own : ∀ field ∈ table.fields, field.table = table.id) (index : IdMap .field TableId)
    (last : UInt64) : Placed
      { catalog with
        tables := catalog.tables.insert table.id table
        fieldTables := index
        lastId := last } where
  workspace_id := placed.workspace_id
  database_id := placed.database_id
  table_id := by
    intro id other found
    rcases IdMap.of_find?_insert found with ⟨rfl, rfl⟩ | old
    · rfl
    · exact placed.table_id old
  field_table := by
    intro id other found field member
    rcases IdMap.of_find?_insert found with ⟨rfl, rfl⟩ | old
    · exact own field member
    · exact placed.field_table old field member

theorem edit (placed : catalog.Placed) {id : FieldId} {table edited : Table}
    (stored : catalog.table? table.id = some table) (by_edit : table.Edited id edited)
    (index : IdMap .field TableId) (last : UInt64) : Placed
      { catalog with
        tables := catalog.tables.insert table.id edited
        fieldTables := index
        lastId := last } := by
  obtain ⟨change, stays, rfl⟩ := by_edit.stays
  refine placed.put (table.mapFields change) ?_ index last
  intro field member
  obtain ⟨old, inside, rfl⟩ := List.mem_map.1 member
  rw [stays.table]
  exact placed.field_table stored old inside

theorem step (placed : catalog.Placed) {given : Option UInt64} (step : catalog.Step given later) :
    later.Placed := by
  cases step with
  | workspace name =>
    refine ⟨?_, placed.database_id, placed.table_id, placed.field_table⟩
    intro id workspace found
    rcases IdMap.of_find?_insert found with ⟨rfl, rfl⟩ | old
    · rfl
    · exact placed.workspace_id old
  | database known name =>
    refine ⟨placed.workspace_id, ?_, placed.table_id, placed.field_table⟩
    intro id database found
    rcases IdMap.of_find?_insert found with ⟨rfl, rfl⟩ | old
    · rfl
    · exact placed.database_id old
  | table known name order => exact placed.put ⟨_, _, name, order, []⟩ nofun _ _
  | drop stored =>
    refine ⟨placed.workspace_id, placed.database_id, ?_, ?_⟩
    · intro id other found
      exact placed.table_id (IdMap.of_find?_erase found).2
    · intro id other found
      exact placed.field_table (IdMap.of_find?_erase found).2
  | @add table stored name new kind =>
    refine placed.put (table.insertField _) ?_ _ _
    intro field member
    rcases Table.mem_insertField.1 member with old | rfl
    · exact placed.field_table stored field old
    · rfl
  | edit places edited => exact placed.edit places.stored edited _ _
  | @remove id table field holds =>
    refine placed.put (table.eraseField id) ?_ _ _
    intro field member
    exact placed.field_table holds.stored field (List.mem_of_mem_eraseP member)
  | choice holds kind => exact placed.edit holds.stored (.kind kind) _ _

end Placed
end
end Catalog

inductive CatalogEdit
  | createWorkspace (name : String)
  | createDatabase (workspace : WorkspaceId) (name : String)
  | createTableAt (database : DatabaseId) (name : String) (order : UInt32)
  | createTable (database : DatabaseId) (name : String)
  | deleteTable (id : TableId)
  | addField (table : TableId) (name : String) (kind : FieldKind)
  | setPrimary (id : FieldId)
  | renameField (id : FieldId) (name : String)
  | changeKind (id : FieldId) (kind : FieldKind)
  | removeField (id : FieldId)
  | addChoice (id : FieldId) (value color : String)

namespace CatalogEdit

def work : CatalogEdit → Edit (Option UInt64)
  | createWorkspace name => (fun id => some id.val) <$> Catalog.createWorkspace name
  | createDatabase workspace name => (fun id => some id.val) <$> Catalog.createDatabase workspace name
  | createTableAt database name order =>
    (fun id => some id.val) <$> Catalog.createTableAt database name order
  | createTable database name => (fun id => some id.val) <$> Catalog.createTable database name
  | deleteTable id => (fun _ => none) <$> Catalog.deleteTable id
  | addField table name kind => (fun id => some id.val) <$> Catalog.addField table name kind
  | setPrimary id => (fun _ => none) <$> Catalog.setPrimary id
  | renameField id name => (fun _ => none) <$> Catalog.renameField id name
  | changeKind id kind => (fun _ => none) <$> Catalog.changeKind id kind
  | removeField id => (fun _ => none) <$> Catalog.removeField id
  | addChoice id value color => (fun id => some id.val) <$> Catalog.addChoice id value color

def perform (catalog : Catalog) (edit : CatalogEdit) :
    Except CatalogError (Option UInt64) × Catalog :=
  Catalog.perform edit.work catalog

end CatalogEdit

theorem Catalog.perform_map {α β : Type} (change : α → β) (edit : Edit α) (catalog : Catalog) :
    perform (change <$> edit) catalog =
      ((perform edit catalog).1.map change, (perform edit catalog).2) := by
  rw [map_eq_pure_bind, perform_bind]
  rcases perform edit catalog with ⟨_ | _, _⟩ <;> rfl

theorem Catalog.Steps.map {α : Type} {catalog : Catalog} {edit : Edit α}
    {given : α → Option UInt64} (steps : catalog.Steps edit given) :
    (∃ error, perform (given <$> edit) catalog = (.error error, catalog)) ∨
      ∃ answer later, perform (given <$> edit) catalog = (.ok answer, later) ∧
        catalog.Step answer later := by
  rw [perform_map]
  rcases steps with ⟨error, refused⟩ | ⟨answer, later, ran, step⟩
  · exact .inl ⟨error, by rw [refused]; rfl⟩
  · exact .inr ⟨given answer, later, by rw [ran]; rfl, step⟩

/-- An edit is refused and changes nothing, or it takes a step and answers what the step gives out. -/
theorem CatalogEdit.perform_cases {catalog : Catalog} (placed : catalog.Placed) (edit : CatalogEdit) :
    (∃ error, edit.perform catalog = (.error error, catalog)) ∨
      ∃ given later, edit.perform catalog = (.ok given, later) ∧ catalog.Step given later := by
  cases edit with
  | createWorkspace name => exact (Catalog.steps_createWorkspace name).map
  | createDatabase workspace name => exact (Catalog.steps_createDatabase workspace name).map
  | createTableAt database name order => exact (Catalog.steps_createTableAt database name order).map
  | createTable database name => exact (Catalog.steps_createTable database name).map
  | deleteTable id => exact (Catalog.steps_deleteTable placed id).map
  | addField table name kind => exact (Catalog.steps_addField placed table name kind).map
  | setPrimary id => exact (Catalog.steps_setPrimary placed id).map
  | renameField id name => exact (Catalog.steps_renameField placed id name).map
  | changeKind id kind => exact (Catalog.steps_changeKind placed id kind).map
  | removeField id => exact (Catalog.steps_removeField placed id).map
  | addChoice id value color => exact (Catalog.steps_addChoice placed id value color).map

namespace Catalog

/-- Edits in the order in which they were tried, each with what it answered. -/
abbrev Log := List (CatalogEdit × Except CatalogError (Option UInt64))

/-- What edits, refused ones included, lead to from an empty catalog, with their log. -/
inductive Reached : Catalog → Log → Prop
  | start : Reached {} []
  | edit {catalog : Catalog} {log : Log} (edit : CatalogEdit) (reached : Reached catalog log) :
      Reached (edit.perform catalog).2 (log ++ [(edit, (edit.perform catalog).1)])

namespace Reached

variable {catalog : Catalog} {log : Log}

theorem placed (reached : catalog.Reached log) : catalog.Placed := by
  induction reached with
  | start => exact ⟨nofun, nofun, nofun, nofun⟩
  | @edit catalog log edit _ ih =>
    rcases edit.perform_cases ih with ⟨error, refused⟩ | ⟨given, later, ran, step⟩
    · rw [refused]
      exact ih
    · rw [ran]
      exact ih.step step

theorem step_of_ok (reached : catalog.Reached log) {edit : CatalogEdit} {given : Option UInt64}
    {later : Catalog} (ran : edit.perform catalog = (.ok given, later)) : catalog.Step given later := by
  rcases edit.perform_cases reached.placed with ⟨_, refused⟩ | ⟨_, _, same, step⟩
  · rw [refused] at ran
    cases ran
  · rw [same] at ran
    cases ran
    exact step

/-- An edit that is refused leaves the whole catalog as it was, the counter included. -/
theorem unchanged_of_refused (reached : catalog.Reached log) {edit : CatalogEdit}
    {error : CatalogError} {later : Catalog} (refused : edit.perform catalog = (.error error, later)) :
    later = catalog := by
  rcases edit.perform_cases reached.placed with ⟨_, same⟩ | ⟨_, _, ran, _⟩
  · rw [same] at refused
    exact (Prod.mk.inj refused).2.symm
  · rw [ran] at refused
    cases refused

/-- A table in a database that does not exist gets no identifier. -/
theorem unchanged_by_refused_table : ∃ (catalog : Catalog) (log : Log) (later : Catalog),
    catalog.Reached log ∧ catalog.lastId = 1 ∧
      (CatalogEdit.createTable ⟨1⟩ "orders").perform catalog =
        (.error (.databaseNotFound ⟨1⟩), later) ∧ later = catalog := by
  have reached := Reached.start |>.edit (.createWorkspace "home")
  have same := reached.unchanged_of_refused (rfl :
    (CatalogEdit.createTable ⟨1⟩ "orders").perform _ = (.error (.databaseNotFound ⟨1⟩), _))
  exact ⟨_, _, _, reached, rfl, rfl, same⟩

end Reached
end Catalog
end Tabula
