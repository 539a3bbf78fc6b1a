import Tabula.Catalog.Table
import Tabula.IdMap

/-! The catalog of workspaces, databases, tables, fields and choices, and the edits it accepts. -/
namespace Tabula

structure Workspace where
  id : WorkspaceId
  name : String
  deriving DecidableEq, Repr

structure Database where
  id : DatabaseId
  workspace : WorkspaceId
  name : String
  deriving DecidableEq, Repr

/-- All identifiers come from one counter, whatever they name. -/
structure Catalog where
  workspaces : IdMap .workspace Workspace := {}
  databases : IdMap .database Database := {}
  tables : IdMap .table Table := {}
  fieldTables : IdMap .field TableId := {}
  lastId : UInt64 := 0
  deriving Repr

inductive CatalogError
  | workspaceNotFound (id : WorkspaceId)
  | databaseNotFound (id : DatabaseId)
  | tableNotFound (id : TableId)
  | fieldNotFound (id : FieldId)
  | duplicateFieldName (table : TableId) (name : String)
  | notASelectField (id : FieldId)
  deriving DecidableEq, Repr

def CatalogError.message : CatalogError → String
  | workspaceNotFound id => s!"workspace {id.text} does not exist"
  | databaseNotFound id => s!"database {id.text} does not exist"
  | tableNotFound id => s!"table {id.text} does not exist"
  | fieldNotFound id => s!"field {id.text} does not exist"
  | duplicateFieldName table name => s!"a field named '{name}' already exists in table {table.text}"
  | notASelectField id => s!"field {id.text} does not hold select options"

abbrev Edit := ExceptT CatalogError (StateM Catalog)

def Workspace.json (workspace : Workspace) : Json :=
  .object [("id", workspace.id.json), ("name", .text workspace.name)]

def Database.json (database : Database) : Json :=
  .object [("id", database.id.json), ("workspace_id", database.workspace.json),
    ("name", .text database.name)]

namespace Catalog

def nextId (catalog : Catalog) : UInt64 :=
  if catalog.lastId + 1 = 0 then catalog.lastId else catalog.lastId + 1

def workspace? (catalog : Catalog) (id : WorkspaceId) : Option Workspace := catalog.workspaces.find? id

def database? (catalog : Catalog) (id : DatabaseId) : Option Database := catalog.databases.find? id

def table? (catalog : Catalog) (id : TableId) : Option Table := catalog.tables.find? id

def tablesOf (catalog : Catalog) (database : DatabaseId) : List Table :=
  catalog.tables.values.filter (·.database = database)

def tablesInOrder (catalog : Catalog) (database : DatabaseId) : List Table :=
  (catalog.tablesOf database).mergeSort fun left right =>
    left.order < right.order || (left.order == right.order && left.id.val ≤ right.id.val)

def nextTableOrder (catalog : Catalog) (database : DatabaseId) : UInt32 :=
  match ((catalog.tablesOf database).map (·.order)).max? with
  | some order => nextOrder order
  | none => 1

def field? (catalog : Catalog) (id : FieldId) : Option Field := do
  (← catalog.table? (← catalog.fieldTables.find? id)).field? id

def parent? (catalog : Catalog) : Node → Option Node
  | .workspace _ => none
  | .database id => (catalog.database? id).map fun database => .workspace database.workspace
  | .table id => (catalog.table? id).map Table.parent
  | .row table _ => (catalog.table? table).map fun _ => .table table

def climb (catalog : Catalog) : Nat → Node → Node
  | 0, node => node
  | steps + 1, node =>
    match catalog.parent? node with
    | some parent => climb catalog steps parent
    | none => node

/-- The workspace above a node; the hierarchy has four levels. -/
def root? (catalog : Catalog) (node : Node) : Option Node :=
  match catalog.climb 3 node with
  | .workspace id => (catalog.workspace? id).map fun _ => .workspace id
  | _ => none

def newId {entity : Entity} : Edit (Id entity) := do
  let catalog ← get
  set { catalog with lastId := catalog.nextId }
  return ⟨catalog.nextId⟩

def orThrow {α : Type} (error : CatalogError) : Option α → Edit α
  | some value => pure value
  | none => throw error

def requireTable (id : TableId) : Edit Table := do
  orThrow (.tableNotFound id) ((← get).table? id)

def tableOfField (id : FieldId) : Edit TableId := do
  orThrow (.fieldNotFound id) ((← get).fieldTables.find? id)

def requireField (id : FieldId) : Edit Field := do
  let table ← requireTable (← tableOfField id)
  orThrow (.fieldNotFound id) (table.field? id)

def setTable (table : Table) : Edit Unit :=
  modify fun catalog => { catalog with tables := catalog.tables.insert table.id table }

def createWorkspace (name : String) : Edit WorkspaceId := do
  let id ← newId
  modify fun catalog => { catalog with workspaces := catalog.workspaces.insert id { id, name } }
  return id

def createDatabase (workspace : WorkspaceId) (name : String) : Edit DatabaseId := do
  let _ ← orThrow (.workspaceNotFound workspace) ((← get).workspace? workspace)
  let id ← newId
  modify fun catalog =>
    { catalog with databases := catalog.databases.insert id { id, workspace, name } }
  return id

def createTableAt (database : DatabaseId) (name : String) (order : UInt32) : Edit TableId := do
  let _ ← orThrow (.databaseNotFound database) ((← get).database? database)
  let id ← newId
  setTable { id, database, name, order }
  return id

def createTable (database : DatabaseId) (name : String) : Edit TableId := do
  createTableAt database name ((← get).nextTableOrder database)

def deleteTable (id : TableId) : Edit Table := do
  let table ← requireTable id
  modify fun catalog =>
    { catalog with
      tables := catalog.tables.erase id
      fieldTables := catalog.fieldTables.filter (·.2 ≠ id) }
  return table

def addField (tableId : TableId) (name : String) (kind : FieldKind) : Edit FieldId := do
  let table ← requireTable tableId
  if (table.fieldNamed? name).isSome then throw (.duplicateFieldName tableId name)
  let id ← newId
  setTable (table.insertField
    { id, table := tableId, name, order := table.nextFieldOrder, primary := false, kind })
  modify fun catalog => { catalog with fieldTables := catalog.fieldTables.insert id tableId }
  return id

def setPrimary (id : FieldId) : Edit Unit := do
  let table ← requireTable (← tableOfField id)
  setTable (table.mapFields fun field => { field with primary := field.id = id })

def renameField (id : FieldId) (name : String) : Edit Unit := do
  let table ← requireTable (← tableOfField id)
  if (table.fieldNamed? name).any (·.id ≠ id) then throw (.duplicateFieldName table.id name)
  let _ ← requireField id
  setTable (table.modifyField id fun field => { field with name })

def changeKind (id : FieldId) (kind : FieldKind) : Edit Unit := do
  let field ← requireField id
  setTable ((← requireTable field.table).modifyField id fun field => { field with kind })

def removeField (id : FieldId) : Edit Field := do
  let field ← requireField id
  setTable ((← requireTable field.table).eraseField id)
  modify fun catalog => { catalog with fieldTables := catalog.fieldTables.erase id }
  return field

def addChoice (id : FieldId) (value color : String) : Edit OptionId := do
  let field ← requireField id
  let choice : SelectOption := { id := ⟨(← get).nextId⟩, value, color }
  let kind ← orThrow (.notASelectField id) (field.kind.withChoice? choice)
  let choiceId ← newId
  changeKind id kind
  return choiceId

end Catalog
end Tabula
