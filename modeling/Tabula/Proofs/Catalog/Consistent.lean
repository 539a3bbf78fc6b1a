import Tabula.Proofs.Catalog.Fields

/-!
What every catalog that edits lead to keeps in order, as long as the identifiers last: its index of
fields, its hierarchy, the fields of its tables and the identifiers that it gave out.
-/
namespace Tabula
namespace Catalog

def HasField (catalog : Catalog) (place : TableId) (id : FieldId) : Prop :=
  ∃ table, catalog.table? place = some table ∧ id ∈ table.fields.map Field.id

/-- The index sends a field to the table that has it, and to none if no table has it. -/
def Indexed (catalog : Catalog) : Prop :=
  ∀ id place, catalog.fieldTables.find? id = some place ↔ catalog.HasField place id

/-- Databases are in workspaces that exist and tables in databases that exist. -/
structure Rooted (catalog : Catalog) : Prop where
  workspace : ∀ {id database}, catalog.database? id = some database →
    (catalog.workspace? database.workspace).isSome = true
  database : ∀ {id table}, catalog.table? id = some table →
    (catalog.database? table.database).isSome = true

def Arranged (catalog : Catalog) : Prop :=
  ∀ id table, catalog.table? id = some table → table.Arranged

section
variable {catalog later : Catalog} {given : Option UInt64}

theorem hasField_insert {home : TableId} {table : Table} {index : IdMap .field TableId}
    {last : UInt64} {place : TableId} {id : FieldId} :
    HasField
        { catalog with
          tables := catalog.tables.insert home table
          fieldTables := index
          lastId := last } place id ↔
      if place = home then id ∈ table.fields.map Field.id else catalog.HasField place id := by
  unfold HasField table?
  dsimp only
  rw [IdMap.find?_insert]
  split
  · constructor
    · rintro ⟨_, ⟨⟩, member⟩
      exact member
    · intro member
      exact ⟨table, rfl, member⟩
  · rfl

theorem hasField_of_stored {table : Table} (stored : catalog.table? table.id = some table)
    (id : FieldId) : catalog.HasField table.id id ↔ id ∈ table.fields.map Field.id := by
  constructor
  · rintro ⟨other, found, member⟩
    rw [stored] at found
    cases found
    exact member
  · intro member
    exact ⟨table, stored, member⟩

theorem Numbered.not_hasField (numbered : catalog.Numbered) (room : catalog.HasRoom)
    (place : TableId) : ¬ catalog.HasField place ⟨catalog.nextId⟩ := by
  rintro ⟨table, found, member⟩
  obtain ⟨field, inside, same⟩ := List.mem_map.1 member
  have below := (numbered.fields found).le_last field inside
  rw [same] at below
  exact UInt64.not_le.2 (lt_nextId room) below

theorem Numbered.table?_nextId (numbered : catalog.Numbered) (room : catalog.HasRoom) :
    catalog.table? ⟨catalog.nextId⟩ = none := by
  rw [Option.eq_none_iff_forall_ne_some]
  intro table found
  exact UInt64.not_le.2 (lt_nextId room) (numbered.le_last found)

namespace Indexed

theorem edit (indexed : catalog.Indexed) {id : FieldId} {table edited : Table}
    (stored : catalog.table? table.id = some table) (by_edit : table.Edited id edited)
    (last : UInt64) : Indexed
      { catalog with
        tables := catalog.tables.insert table.id edited
        lastId := last } := by
  have ids : edited.fields.map Field.id = table.fields.map Field.id := by
    obtain ⟨change, stays, rfl⟩ := by_edit.stays
    have same : Field.id ∘ change = Field.id := funext stays.id
    unfold Table.mapFields
    rw [List.map_map, same]
  intro id place
  rw [hasField_insert, ids]
  split
  · rename_i here
    subst here
    rw [← hasField_of_stored stored]
    exact indexed id table.id
  · exact indexed id place

theorem table (indexed : catalog.Indexed) (numbered : catalog.Numbered) (room : catalog.HasRoom)
    (database : DatabaseId) (name : String) (order : UInt32) : Indexed
      { catalog with
        tables := catalog.tables.insert ⟨catalog.nextId⟩ ⟨⟨catalog.nextId⟩, database, name, order, []⟩
        lastId := catalog.nextId } := by
  intro id place
  rw [hasField_insert]
  split
  · rename_i here
    subst here
    refine ⟨fun sent => ?_, nofun⟩
    obtain ⟨table, found, _⟩ := (indexed id _).1 sent
    rw [numbered.table?_nextId room] at found
    cases found
  · exact indexed id place

theorem drop (indexed : catalog.Indexed) (dropped : TableId) : Indexed
    { catalog with
      tables := catalog.tables.erase dropped
      fieldTables := catalog.fieldTables.filter (·.2 ≠ dropped) } := by
  intro id place
  rw [IdMap.find?_filter_eq_some_iff, indexed id place]
  constructor
  · rintro ⟨⟨table, found, member⟩, other⟩
    have kept : (catalog.tables.erase dropped).find? place = catalog.table? place := by
      rw [IdMap.find?_erase, if_neg (by simpa using other)]
      rfl
    exact ⟨table, kept.trans found, member⟩
  · rintro ⟨table, found, member⟩
    obtain ⟨other, before⟩ := IdMap.of_find?_erase found
    exact ⟨⟨table, before, member⟩, by simpa using other⟩

theorem add (indexed : catalog.Indexed) (numbered : catalog.Numbered) (room : catalog.HasRoom)
    {table : Table} (stored : catalog.table? table.id = some table) (name : String)
    (kind : FieldKind) : Indexed
      { catalog with
        tables := catalog.tables.insert table.id (table.insertField (catalog.newField table name kind))
        fieldTables := catalog.fieldTables.insert ⟨catalog.nextId⟩ table.id
        lastId := catalog.nextId } := by
  intro id place
  have ids : id ∈ (table.insertField (catalog.newField table name kind)).fields.map Field.id ↔
      id ∈ table.fields.map Field.id ∨ id = ⟨catalog.nextId⟩ := by
    have same : (table.insertField (catalog.newField table name kind)).fields.Perm
        (table.fields ++ [catalog.newField table name kind]) := List.mergeSort_perm _ _
    rw [(same.map Field.id).mem_iff, List.map_append, List.mem_append]
    exact or_congr_right List.mem_singleton
  rw [IdMap.find?_insert, hasField_insert, ids]
  by_cases new : id = ⟨catalog.nextId⟩
  · subst new
    have absent := numbered.not_hasField room place
    grind
  · have before := indexed id place
    have here := hasField_of_stored stored id
    grind

theorem remove (indexed : catalog.Indexed) (numbered : catalog.Numbered) {id : FieldId}
    {table : Table} (places : catalog.Places id table) : Indexed
      { catalog with
        tables := catalog.tables.insert table.id (table.eraseField id)
        fieldTables := catalog.fieldTables.erase id } := by
  intro other place
  have ids : other ∈ (table.eraseField id).fields.map Field.id ↔
      other ∈ table.fields.map Field.id ∧ other ≠ id := by
    simp only [List.mem_map, (numbered.fields places.stored).mem_eraseField]
    grind
  have before := indexed other place
  rw [IdMap.find?_erase, hasField_insert, ids]
  by_cases removed : other = id
  · -- The index sends the field to this table alone, so no other table has it.
    subst removed
    rw [places.indexed] at before
    grind
  · have here := hasField_of_stored places.stored other
    grind

theorem step (indexed : catalog.Indexed) (numbered : catalog.Numbered) (room : catalog.HasRoom)
    (step : catalog.Step given later) : later.Indexed := by
  cases step with
  | workspace | database => exact indexed
  | table known name order => exact indexed.table numbered room _ name order
  | drop stored => exact indexed.drop _
  | add stored new kind => exact indexed.add numbered room stored _ kind
  | edit places edited => exact indexed.edit places.stored edited _
  | remove holds => exact indexed.remove numbered holds.toPlaces
  | choice holds kind => exact indexed.edit holds.stored (.kind kind) _

end Indexed
namespace Rooted

theorem put (rooted : catalog.Rooted) {database : DatabaseId}
    (known : (catalog.database? database).isSome = true) {table : Table}
    (parent : table.database = database) (home : TableId) (index : IdMap .field TableId)
    (last : UInt64) : Rooted
      { catalog with
        tables := catalog.tables.insert home table
        fieldTables := index
        lastId := last } where
  workspace := rooted.workspace
  database := by
    intro id other found
    rcases IdMap.of_find?_insert found with ⟨_, rfl⟩ | old
    · rw [parent]
      exact known
    · exact rooted.database old

theorem step (rooted : catalog.Rooted) (step : catalog.Step given later) : later.Rooted := by
  cases step with
  | workspace name =>
    refine ⟨?_, rooted.database⟩
    intro id database found
    have before := rooted.workspace found
    unfold workspace? at before ⊢
    grind [IdMap.find?_insert]
  | database known name =>
    constructor
    · intro id database found
      rcases IdMap.of_find?_insert found with ⟨_, rfl⟩ | old
      · exact known
      · exact rooted.workspace old
    · intro id table found
      have before := rooted.database found
      unfold database? at before ⊢
      grind [IdMap.find?_insert]
  | table known name order => exact rooted.put known rfl _ _ _
  | drop stored =>
    refine ⟨rooted.workspace, ?_⟩
    intro id table found
    exact rooted.database (IdMap.of_find?_erase found).2
  | add stored new kind =>
    apply rooted.put (rooted.database stored)
    rfl
  | edit places edited =>
    obtain ⟨_, _, rfl⟩ := edited.stays
    apply rooted.put (rooted.database places.stored)
    rfl
  | remove holds =>
    apply rooted.put (rooted.database holds.stored)
    rfl
  | choice holds kind =>
    apply rooted.put (rooted.database holds.stored)
    rfl

end Rooted

namespace Arranged

theorem put (arranged : catalog.Arranged) {table : Table} (new : table.Arranged) (home : TableId)
    (index : IdMap .field TableId) (last : UInt64) : Arranged
      { catalog with
        tables := catalog.tables.insert home table
        fieldTables := index
        lastId := last } := by
  intro id other found
  rcases IdMap.of_find?_insert found with ⟨_, rfl⟩ | old
  · exact new
  · exact arranged id other old

theorem step (arranged : catalog.Arranged) (numbered : catalog.Numbered) (room : catalog.HasRoom)
    (step : catalog.Step given later) : later.Arranged := by
  cases step with
  | workspace | database => exact arranged
  | @table database known name order =>
    have none : Table.Arranged ⟨⟨catalog.nextId⟩, database, name, order, []⟩ :=
      ⟨List.Pairwise.nil, List.nodup_nil, Nat.zero_le 1⟩
    exact arranged.put none _ _ _
  | drop stored =>
    intro id table found
    exact arranged id table (IdMap.of_find?_erase found).2
  | add stored new kind =>
    exact arranged.put
      ((arranged _ _ stored).insertField (Table.before_newField room (numbered.fields stored) _ kind)
        (Table.name_ne_of_fieldNamed? new) rfl) _ _ _
  | edit places edited =>
    exact arranged.put ((arranged _ _ places.stored).edited (numbered.fields places.stored) edited) _ _ _
  | remove holds => exact arranged.put ((arranged _ _ holds.stored).eraseField _) _ _ _
  | choice holds kind =>
    exact arranged.put
      ((arranged _ _ holds.stored).edited (numbered.fields holds.stored) (.kind kind)) _ _ _

end Arranged

/-- Everything stands under its own identifier, in what it belongs to, where the index says, and in
order. -/
structure Consistent (catalog : Catalog) : Prop where
  placed : catalog.Placed
  numbered : catalog.Numbered
  indexed : catalog.Indexed
  rooted : catalog.Rooted
  arranged : catalog.Arranged

theorem Consistent.step (consistent : catalog.Consistent) (room : catalog.HasRoom)
    (step : catalog.Step given later) : later.Consistent where
  placed := consistent.placed.step step
  numbered := consistent.numbered.step room step
  indexed := consistent.indexed.step consistent.numbered room step
  rooted := consistent.rooted.step step
  arranged := consistent.arranged.step consistent.numbered room step

theorem consistent_empty : Consistent {} where
  placed := ⟨nofun, nofun, nofun, nofun⟩
  numbered := ⟨nofun, nofun⟩
  indexed := by
    intro id place
    refine ⟨nofun, ?_⟩
    rintro ⟨_, ⟨⟩, _⟩
  rooted := ⟨nofun, nofun⟩
  arranged := nofun

theorem Reached.consistent {log : Log} (reached : catalog.Reached log) (room : catalog.HasRoom) :
    catalog.Consistent :=
  reached.induct_room (fun catalog _ => catalog.Consistent) consistent_empty (fun _ _ same => same)
    (fun _ room _ step before => before.step room step) room

/-- A database, a table or a workspace that is stored, or any row of a table that is. -/
def Exists (catalog : Catalog) : Node → Prop
  | .workspace id => (catalog.workspace? id).isSome = true
  | .database id => (catalog.database? id).isSome = true
  | .table id => (catalog.table? id).isSome = true
  | .row table _ => (catalog.table? table).isSome = true

theorem Rooted.root?_of_exists (rooted : catalog.Rooted) {node : Node} (known : catalog.Exists node) :
    ∃ workspace, catalog.root? node = some (.workspace workspace) ∧
      catalog.Exists (.workspace workspace) := by
  have top {id : WorkspaceId} (known : (catalog.workspace? id).isSome = true) :
      (catalog.workspace? id).map (fun _ => Node.workspace id) = some (.workspace id) := by
    obtain ⟨workspace, found⟩ := Option.isSome_iff_exists.1 known
    rw [found]
    rfl
  cases node with
  | workspace id => exact ⟨id, top known, known⟩
  | database id =>
    obtain ⟨database, found⟩ := Option.isSome_iff_exists.1 known
    have above := rooted.workspace found
    refine ⟨database.workspace, ?_, above⟩
    simp only [root?, climb, parent?, found, Option.map_some]
    exact top above
  | table id | row id _ =>
    obtain ⟨table, found⟩ := Option.isSome_iff_exists.1 known
    obtain ⟨database, parent⟩ := Option.isSome_iff_exists.1 (rooted.database found)
    have above := rooted.workspace parent
    refine ⟨database.workspace, ?_, above⟩
    simp only [root?, climb, parent?, found, Option.map_some, Table.parent, parent]
    exact top above

theorem root?_of_not_exists {node : Node} (unknown : ¬ catalog.Exists node) :
    catalog.root? node = none := by
  cases node with
  | workspace id | database id | table id | row id row =>
    have none := Option.not_isSome_iff_eq_none.1 unknown
    simp [root?, climb, parent?, none]

end
end Catalog
end Tabula
