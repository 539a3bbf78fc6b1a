import Tabula.Catalog.Basic
import Tabula.Proofs.IdMap

/-!
The edits of a catalog as functions from a catalog to an outcome and a catalog. In a catalog where
everything stands under its own identifier an edit is refused, and changes nothing, or it takes one of a
few steps.
-/
namespace Tabula
namespace Catalog

/-- What an edit gives for a catalog, and the catalog that it leaves. -/
def perform {α : Type} (edit : Edit α) (catalog : Catalog) : Except CatalogError α × Catalog :=
  (edit.run.run catalog).run

def Refuses {α : Type} (catalog : Catalog) (edit : Edit α) : Prop :=
  ∃ error, perform edit catalog = (.error error, catalog)

section
variable {α β : Type}

theorem perform_bind (first : Edit α) (next : α → Edit β) (catalog : Catalog) :
    perform (first >>= next) catalog =
      match perform first catalog with
      | (.ok value, later) => perform (next value) later
      | (.error error, later) => (.error error, later) := by
  unfold perform
  rw [ExceptT.run_bind, StateT.run_bind, Id.run_bind]
  rcases (first.run.run catalog).run with ⟨_ | _, _⟩ <;> rfl

theorem perform_get (next : Catalog → Edit α) (catalog : Catalog) :
    perform (get >>= next) catalog = perform (next catalog) catalog := rfl

theorem perform_orThrow (error : CatalogError) (value : Option α) (next : α → Edit β)
    (catalog : Catalog) :
    perform (orThrow error value >>= next) catalog =
      match value with
      | some given => perform (next given) catalog
      | none => (.error error, catalog) := by
  cases value <;> rfl

theorem perform_requireTable (id : TableId) (next : Table → Edit β) (catalog : Catalog) :
    perform (requireTable id >>= next) catalog =
      match catalog.table? id with
      | some table => perform (next table) catalog
      | none => (.error (.tableNotFound id), catalog) := by
  unfold requireTable
  rw [bind_assoc, perform_get, perform_orThrow]
  cases catalog.table? id <;> rfl

theorem perform_tableOfField (id : FieldId) (next : TableId → Edit β) (catalog : Catalog) :
    perform (tableOfField id >>= next) catalog =
      match catalog.fieldTables.find? id with
      | some place => perform (next place) catalog
      | none => (.error (.fieldNotFound id), catalog) := by
  unfold tableOfField
  rw [bind_assoc, perform_get, perform_orThrow]
  cases catalog.fieldTables.find? id <;> rfl

end

/-- Everything stands under its own identifier, and fields know the table that they are in. -/
structure Placed (catalog : Catalog) : Prop where
  workspace_id : ∀ {id workspace}, catalog.workspace? id = some workspace → workspace.id = id
  database_id : ∀ {id database}, catalog.database? id = some database → database.id = id
  table_id : ∀ {id table}, catalog.table? id = some table → table.id = id
  field_table : ∀ {id table}, catalog.table? id = some table → ∀ field ∈ table.fields, field.table = id

/-- The index sends the field to the table, which exists. -/
structure Places (catalog : Catalog) (id : FieldId) (table : Table) : Prop where
  indexed : catalog.fieldTables.find? id = some table.id
  stored : catalog.table? table.id = some table

structure Holds (catalog : Catalog) (id : FieldId) (table : Table) (field : Field) : Prop
    extends catalog.Places id table where
  found : table.field? id = some field

section
variable {β : Type} {catalog : Catalog}

theorem tableOfField_cases (placed : catalog.Placed) (id : FieldId) (next : Table → Edit β) :
    catalog.Refuses (tableOfField id >>= fun place => requireTable place >>= next) ∨
      ∃ table, catalog.Places id table ∧
        perform (tableOfField id >>= fun place => requireTable place >>= next) catalog =
          perform (next table) catalog := by
  unfold Refuses
  rw [perform_tableOfField]
  cases indexed : catalog.fieldTables.find? id with
  | none => exact .inl ⟨_, rfl⟩
  | some place =>
    dsimp only
    rw [perform_requireTable]
    cases stored : catalog.table? place with
    | none => exact .inl ⟨_, rfl⟩
    | some table =>
      have own := placed.table_id stored
      subst own
      exact .inr ⟨table, ⟨indexed, stored⟩, rfl⟩

theorem requireField_cases (placed : catalog.Placed) (id : FieldId) (next : Field → Edit β) :
    catalog.Refuses (requireField id >>= next) ∨ ∃ table field, catalog.Holds id table field ∧
      perform (requireField id >>= next) catalog = perform (next field) catalog := by
  have steps : requireField id >>= next = tableOfField id >>= fun place => requireTable place >>=
      fun table => orThrow (.fieldNotFound id) (table.field? id) >>= next := by
    unfold requireField
    rw [bind_assoc]
    congr 1
    funext place
    rw [bind_assoc]
  rw [steps]
  rcases tableOfField_cases placed id
    (fun table => orThrow (.fieldNotFound id) (table.field? id) >>= next) with
    refused | ⟨table, places, ran⟩
  · exact .inl refused
  · unfold Refuses
    rw [ran, perform_orThrow]
    cases found : table.field? id with
    | none => exact .inl ⟨_, rfl⟩
    | some field => exact .inr ⟨table, field, ⟨places, found⟩, rfl⟩

theorem perform_requireField_of_holds {id : FieldId} {table : Table} {field : Field}
    (holds : catalog.Holds id table field) (next : Field → Edit β) :
    perform (requireField id >>= next) catalog = perform (next field) catalog := by
  unfold requireField
  rw [bind_assoc, perform_tableOfField, holds.indexed]
  dsimp only
  rw [bind_assoc, perform_requireTable, holds.stored]
  dsimp only
  rw [perform_orThrow, holds.found]

end
end Catalog

/-- What an edit of the fields of a table makes of it. -/
inductive Table.Edited (table : Table) (id : FieldId) : Table → Prop
  | primary : Edited table id (table.mapFields fun field => { field with primary := field.id = id })
  | name (name : String) (free : ∀ other, table.fieldNamed? name = some other → other.id = id) :
      Edited table id (table.modifyField id fun field => { field with name })
  | kind (kind : FieldKind) : Edited table id (table.modifyField id fun field => { field with kind })

namespace Catalog

def newField (catalog : Catalog) (table : Table) (name : String) (kind : FieldKind) : Field where
  id := ⟨catalog.nextId⟩
  table := table.id
  name := name
  order := table.nextFieldOrder
  primary := false
  kind := kind

/-- What an edit that is not refused can make of a catalog, with the identifier that it gives out. -/
inductive Step (catalog : Catalog) : Option UInt64 → Catalog → Prop
  | workspace (name : String) : Step catalog (some catalog.nextId)
      { catalog with
        workspaces := catalog.workspaces.insert ⟨catalog.nextId⟩ ⟨⟨catalog.nextId⟩, name⟩
        lastId := catalog.nextId }
  | database {workspace : WorkspaceId} (known : (catalog.workspace? workspace).isSome = true)
      (name : String) : Step catalog (some catalog.nextId)
      { catalog with
        databases := catalog.databases.insert ⟨catalog.nextId⟩ ⟨⟨catalog.nextId⟩, workspace, name⟩
        lastId := catalog.nextId }
  | table {database : DatabaseId} (known : (catalog.database? database).isSome = true)
      (name : String) (order : UInt32) : Step catalog (some catalog.nextId)
      { catalog with
        tables := catalog.tables.insert ⟨catalog.nextId⟩ ⟨⟨catalog.nextId⟩, database, name, order, []⟩
        lastId := catalog.nextId }
  | drop {table : Table} (stored : catalog.table? table.id = some table) : Step catalog none
      { catalog with
        tables := catalog.tables.erase table.id
        fieldTables := catalog.fieldTables.filter (·.2 ≠ table.id) }
  | add {table : Table} (stored : catalog.table? table.id = some table) {name : String}
      (new : table.fieldNamed? name = none) (kind : FieldKind) : Step catalog (some catalog.nextId)
      { catalog with
        tables := catalog.tables.insert table.id
          (table.insertField (catalog.newField table name kind))
        fieldTables := catalog.fieldTables.insert ⟨catalog.nextId⟩ table.id
        lastId := catalog.nextId }
  | edit {id : FieldId} {table later : Table} (places : catalog.Places id table)
      (edited : table.Edited id later) : Step catalog none
      { catalog with tables := catalog.tables.insert table.id later }
  | remove {id : FieldId} {table : Table} {field : Field} (holds : catalog.Holds id table field) :
      Step catalog none
      { catalog with
        tables := catalog.tables.insert table.id (table.eraseField id)
        fieldTables := catalog.fieldTables.erase id }
  | choice {id : FieldId} {table : Table} {field : Field} (holds : catalog.Holds id table field)
      (kind : FieldKind) : Step catalog (some catalog.nextId)
      { catalog with
        tables := catalog.tables.insert table.id (table.modifyField id fun field => { field with kind })
        lastId := catalog.nextId }

/-- The edit is refused, or it takes a step and answers what the step gives out. -/
def Steps {α : Type} (catalog : Catalog) (edit : Edit α) (given : α → Option UInt64) : Prop :=
  catalog.Refuses edit ∨
    ∃ answer later, perform edit catalog = (.ok answer, later) ∧ catalog.Step (given answer) later

section
variable {catalog : Catalog}

theorem steps_createWorkspace (name : String) :
    catalog.Steps (createWorkspace name) fun id => some id.val :=
  .inr ⟨⟨catalog.nextId⟩, _, rfl, .workspace name⟩

theorem steps_createDatabase (workspace : WorkspaceId) (name : String) :
    catalog.Steps (createDatabase workspace name) fun id => some id.val := by
  unfold Steps Refuses createDatabase
  rw [perform_get, perform_orThrow]
  cases found : catalog.workspace? workspace with
  | none => exact .inl ⟨_, rfl⟩
  | some _ => exact .inr ⟨⟨catalog.nextId⟩, _, rfl, .database (by rw [found]; rfl) name⟩

theorem perform_createTableAt (database : DatabaseId) (name : String) (order : UInt32) :
    perform (createTableAt database name order) catalog =
      match catalog.database? database with
      | some _ => (.ok ⟨catalog.nextId⟩,
          { catalog with
            tables := catalog.tables.insert ⟨catalog.nextId⟩ ⟨⟨catalog.nextId⟩, database, name, order, []⟩
            lastId := catalog.nextId })
      | none => (.error (.databaseNotFound database), catalog) := by
  unfold createTableAt
  rw [perform_get, perform_orThrow]
  cases catalog.database? database <;> rfl

theorem steps_createTableAt (database : DatabaseId) (name : String) (order : UInt32) :
    catalog.Steps (createTableAt database name order) fun id => some id.val := by
  unfold Steps Refuses
  rw [perform_createTableAt]
  cases found : catalog.database? database with
  | none => exact .inl ⟨_, rfl⟩
  | some _ => exact .inr ⟨⟨catalog.nextId⟩, _, rfl, .table (by rw [found]; rfl) name order⟩

theorem perform_createTable (database : DatabaseId) (name : String) :
    perform (createTable database name) catalog =
      perform (createTableAt database name (catalog.nextTableOrder database)) catalog := by
  unfold createTable
  rw [perform_get]

theorem steps_createTable (database : DatabaseId) (name : String) :
    catalog.Steps (createTable database name) fun id => some id.val := by
  unfold Steps Refuses
  rw [perform_createTable]
  exact steps_createTableAt database name (catalog.nextTableOrder database)

theorem perform_deleteTable (id : TableId) :
    perform (deleteTable id) catalog =
      match catalog.table? id with
      | some table => (.ok table,
          { catalog with
            tables := catalog.tables.erase id
            fieldTables := catalog.fieldTables.filter (·.2 ≠ id) })
      | none => (.error (.tableNotFound id), catalog) := by
  unfold deleteTable
  rw [perform_requireTable]
  cases catalog.table? id <;> rfl

theorem steps_deleteTable (placed : catalog.Placed) (id : TableId) :
    catalog.Steps (deleteTable id) fun _ => none := by
  unfold Steps Refuses
  rw [perform_deleteTable]
  cases stored : catalog.table? id with
  | none => exact .inl ⟨_, rfl⟩
  | some table =>
    have own := placed.table_id stored
    subst own
    exact .inr ⟨table, _, rfl, .drop stored⟩

theorem perform_addField (placed : catalog.Placed) (id : TableId) (name : String) (kind : FieldKind) :
    perform (addField id name kind) catalog =
      match catalog.table? id with
      | some table =>
        match table.fieldNamed? name with
        | some _ => (.error (.duplicateFieldName id name), catalog)
        | none => (.ok ⟨catalog.nextId⟩,
            { catalog with
              tables := catalog.tables.insert table.id
                (table.insertField (catalog.newField table name kind))
              fieldTables := catalog.fieldTables.insert ⟨catalog.nextId⟩ table.id
              lastId := catalog.nextId })
      | none => (.error (.tableNotFound id), catalog) := by
  unfold addField
  rw [perform_requireTable]
  cases stored : catalog.table? id with
  | none => rfl
  | some table =>
    have own := placed.table_id stored
    subst own
    dsimp only
    cases table.fieldNamed? name <;> rfl

theorem steps_addField (placed : catalog.Placed) (id : TableId) (name : String) (kind : FieldKind) :
    catalog.Steps (addField id name kind) fun id => some id.val := by
  unfold Steps Refuses
  rw [perform_addField placed]
  cases stored : catalog.table? id with
  | none => exact .inl ⟨_, rfl⟩
  | some table =>
    have own := placed.table_id stored
    subst own
    dsimp only
    cases new : table.fieldNamed? name with
    | some _ => exact .inl ⟨_, rfl⟩
    | none => exact .inr ⟨⟨catalog.nextId⟩, _, rfl, .add stored new kind⟩

theorem steps_setPrimary (placed : catalog.Placed) (id : FieldId) :
    catalog.Steps (setPrimary id) fun _ => none := by
  unfold setPrimary
  rcases tableOfField_cases placed id _ with refused | ⟨table, places, ran⟩
  · exact .inl refused
  · exact .inr ⟨(), _, ran, @Step.edit catalog id table _ places .primary⟩

theorem steps_renameField (placed : catalog.Placed) (id : FieldId) (name : String) :
    catalog.Steps (renameField id name) fun _ => none := by
  unfold renameField
  rcases tableOfField_cases placed id _ with refused | ⟨table, places, ran⟩
  · exact .inl refused
  · unfold Steps Refuses
    rw [ran]
    split
    · exact .inl ⟨_, rfl⟩
    · rename_i free
      rcases requireField_cases placed id _ with refused | ⟨_, _, _, ran⟩
      · exact .inl refused
      · refine .inr ⟨(), _, ran, @Step.edit catalog id table _ places (.name name ?_)⟩
        intro other found
        simpa [found] using free

theorem perform_changeKind_of_holds {id : FieldId} {table : Table} {field : Field}
    (placed : catalog.Placed) (holds : catalog.Holds id table field) (kind : FieldKind) :
    perform (changeKind id kind) catalog =
      (.ok (), { catalog with
        tables := catalog.tables.insert table.id
          (table.modifyField id fun field => { field with kind }) }) := by
  have place : field.table = table.id :=
    placed.field_table holds.stored field (List.mem_of_find?_eq_some holds.found)
  unfold changeKind
  rw [perform_requireField_of_holds holds, place, perform_requireTable, holds.stored]
  rfl

theorem steps_changeKind (placed : catalog.Placed) (id : FieldId) (kind : FieldKind) :
    catalog.Steps (changeKind id kind) fun _ => none := by
  rcases requireField_cases placed id fun field =>
    (requireTable field.table >>= fun table =>
      setTable (table.modifyField id fun field => { field with kind })) with
    refused | ⟨table, field, holds, _⟩
  · exact .inl refused
  · exact .inr ⟨(), _, perform_changeKind_of_holds placed holds kind, .edit holds.toPlaces (.kind kind)⟩

theorem steps_removeField (placed : catalog.Placed) (id : FieldId) :
    catalog.Steps (removeField id) fun _ => none := by
  unfold removeField
  rcases requireField_cases placed id _ with refused | ⟨table, field, holds, ran⟩
  · exact .inl refused
  · have place : field.table = table.id :=
      placed.field_table holds.stored field (List.mem_of_find?_eq_some holds.found)
    unfold Steps Refuses
    rw [ran, place, perform_requireTable, holds.stored]
    exact .inr ⟨field, _, rfl, .remove holds⟩

theorem steps_addChoice (placed : catalog.Placed) (id : FieldId) (value color : String) :
    catalog.Steps (addChoice id value color) fun id => some id.val := by
  unfold addChoice
  rcases requireField_cases placed id _ with refused | ⟨table, field, holds, ran⟩
  · exact .inl refused
  · unfold Steps Refuses
    rw [ran, perform_get, perform_orThrow]
    cases field.kind.withChoice? ⟨⟨catalog.nextId⟩, value, color⟩ with
    | none => exact .inl ⟨_, rfl⟩
    | some kind =>
      let taken : Catalog := { catalog with lastId := catalog.nextId }
      have still : taken.Placed := ⟨placed.1, placed.2, placed.3, placed.4⟩
      have here : taken.Holds id table field := ⟨⟨holds.indexed, holds.stored⟩, holds.found⟩
      have changed := perform_changeKind_of_holds still here kind
      refine .inr ⟨⟨catalog.nextId⟩, _, ?_, .choice holds kind⟩
      change perform (changeKind id kind >>= fun _ => pure _) taken = _
      rw [perform_bind, changed]
      rfl

end
end Catalog
end Tabula
