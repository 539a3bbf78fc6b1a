import Tabula.Proofs.Catalog.Reached

/-!
The identifiers in a catalog that edits lead to: as long as the counter has not run out, those given out
rise, and no two fields of a table share one.
-/
namespace Tabula

/-- The fields of the table have identifiers of their own, none above the last that was given out. -/
structure Table.NumberedTo (last : UInt64) (table : Table) : Prop where
  distinct : (table.fields.map Field.id).Nodup
  le_last : ∀ field ∈ table.fields, field.id.val ≤ last

namespace Table.NumberedTo

variable {last : UInt64} {table : Table}

theorem insertField (numbered : table.NumberedTo last) {field : Field} {next : UInt64}
    (new : field.id.val = next) (above : last < next) : (table.insertField field).NumberedTo next := by
  subst new
  have same : (table.insertField field).fields.Perm (table.fields ++ [field]) :=
    List.mergeSort_perm _ _
  constructor
  · rw [(same.map Field.id).nodup_iff, List.map_append, List.nodup_append]
    refine ⟨numbered.distinct, List.nodup_singleton _, ?_⟩
    intro id earlier other new equal
    obtain ⟨old, member, rfl⟩ := List.mem_map.1 earlier
    rw [List.mem_singleton.1 new] at equal
    have below := numbered.le_last old member
    rw [equal] at below
    exact UInt64.not_le.2 above below
  · intro other member
    rcases Table.mem_insertField.1 member with old | rfl
    · exact UInt64.le_trans (numbered.le_last other old) (UInt64.le_of_lt above)
    · exact UInt64.le_refl _

theorem eraseField (numbered : table.NumberedTo last) (id : FieldId) :
    (table.eraseField id).NumberedTo last where
  distinct := numbered.distinct.sublist (List.eraseP_sublist.map _)
  le_last field member := numbered.le_last field (List.mem_of_mem_eraseP member)

theorem mem_eraseField (numbered : table.NumberedTo last) {id : FieldId} {field : Field} :
    field ∈ (table.eraseField id).fields ↔ field ∈ table.fields ∧ field.id ≠ id := by
  obtain ⟨_, _, _, _, fields⟩ := table
  have distinct := numbered.distinct
  change field ∈ fields.eraseP (·.id = id) ↔ field ∈ fields ∧ field.id ≠ id
  clear numbered
  induction fields with
  | nil => simp
  | cons first rest ih =>
    obtain ⟨apart, later⟩ := List.nodup_cons.1 distinct
    by_cases here : first.id = id
    · subst here
      rw [List.eraseP_cons_of_pos (by simp)]
      constructor
      · intro member
        refine ⟨List.mem_cons_of_mem _ member, fun same => apart ?_⟩
        exact same ▸ List.mem_map_of_mem member
      · rintro ⟨member, other⟩
        exact (List.mem_cons.1 member).resolve_left fun same => other (congrArg Field.id same)
    · rw [List.eraseP_cons_of_neg (by simpa using here), List.mem_cons, List.mem_cons, ih later]
      grind

theorem edited (numbered : table.NumberedTo last) {id : FieldId} {later : Table}
    (edited : table.Edited id later) : later.NumberedTo last := by
  obtain ⟨change, stays, rfl⟩ := edited.stays
  unfold Table.mapFields
  constructor
  · have same : Field.id ∘ change = Field.id := funext stays.id
    rw [List.map_map, same]
    exact numbered.distinct
  · intro field member
    obtain ⟨old, inside, rfl⟩ := List.mem_map.1 member
    rw [stays.id]
    exact numbered.le_last old inside

theorem mono (numbered : table.NumberedTo last) {next : UInt64} (above : last ≤ next) :
    table.NumberedTo next where
  distinct := numbered.distinct
  le_last field member := UInt64.le_trans (numbered.le_last field member) above

end Table.NumberedTo

namespace Catalog

/-- There are more identifiers to give out. -/
def HasRoom (catalog : Catalog) : Prop := catalog.lastId + 1 ≠ 0

section
variable {catalog later : Catalog} {given : Option UInt64}

theorem lt_nextId (room : catalog.HasRoom) : catalog.lastId < catalog.nextId := by
  unfold nextId
  rw [if_neg room]
  unfold HasRoom at room
  grind

theorem le_nextId (catalog : Catalog) : catalog.lastId ≤ catalog.nextId := by
  unfold nextId
  split
  · exact UInt64.le_refl _
  · grind

namespace Step

theorem given_cases (step : catalog.Step given later) :
    (given = none ∧ later.lastId = catalog.lastId) ∨
      (given = some catalog.nextId ∧ later.lastId = catalog.nextId) := by
  cases step with
  | workspace | database | table | add | choice => exact .inr ⟨rfl, rfl⟩
  | drop | edit | remove => exact .inl ⟨rfl, rfl⟩

theorem le_lastId (step : catalog.Step given later) : catalog.lastId ≤ later.lastId := by
  rcases step.given_cases with ⟨_, last⟩ | ⟨_, last⟩
  · rw [last]
    exact UInt64.le_refl _
  · rw [last]
    exact catalog.le_nextId

theorem hasRoom (step : catalog.Step given later) (room : later.HasRoom) : catalog.HasRoom := by
  have below := step.le_lastId
  unfold HasRoom at room ⊢
  grind

end Step

/-- What holds at the start and is kept by every refusal, and by every step while there is room, holds as
long as there is room. -/
theorem Reached.induct_room (Holds : Catalog → Log → Prop) (start : Holds {} [])
    (refusal : ∀ {catalog : Catalog} {log : Log} (edit : CatalogEdit) (error : CatalogError),
      Holds catalog log → Holds catalog (log ++ [(edit, .error error)]))
    (step : ∀ {catalog later : Catalog} {log : Log} {edit : CatalogEdit} {given : Option UInt64},
      catalog.Reached log → catalog.HasRoom → edit.perform catalog = (.ok given, later) →
      catalog.Step given later → Holds catalog log → Holds later (log ++ [(edit, .ok given)]))
    {log : Log} (reached : catalog.Reached log) (room : catalog.HasRoom) : Holds catalog log := by
  induction reached with
  | start => exact start
  | @edit catalog log edit reached ih =>
    rcases edit.perform_cases reached.placed with ⟨error, refused⟩ | ⟨given, later, ran, taken⟩
    · rw [refused] at room ⊢
      exact refusal edit error (ih room)
    · rw [ran] at room ⊢
      have before := taken.hasRoom room
      exact step reached before ran taken (ih before)

/-- No identifier of a table or a field is above the last that was given out. -/
structure Numbered (catalog : Catalog) : Prop where
  le_last : ∀ {id table}, catalog.table? id = some table → id.val ≤ catalog.lastId
  fields : ∀ {id table}, catalog.table? id = some table → table.NumberedTo catalog.lastId

namespace Numbered

theorem put (numbered : catalog.Numbered) (table : Table) {last : UInt64}
    (above : catalog.lastId ≤ last) (here : table.id.val ≤ last) (new : table.NumberedTo last)
    (index : IdMap .field TableId) : Numbered
      { catalog with
        tables := catalog.tables.insert table.id table
        fieldTables := index
        lastId := last } where
  le_last := by
    intro id other found
    rcases IdMap.of_find?_insert found with ⟨rfl, rfl⟩ | old
    · exact here
    · exact UInt64.le_trans (numbered.le_last old) above
  fields := by
    intro id other found
    rcases IdMap.of_find?_insert found with ⟨rfl, rfl⟩ | old
    · exact new
    · exact (numbered.fields old).mono above

theorem mono (numbered : catalog.Numbered) (tables : later.tables = catalog.tables)
    (above : catalog.lastId ≤ later.lastId) : later.Numbered := by
  have same (id : TableId) : later.table? id = catalog.table? id := by
    unfold table?
    rw [tables]
  constructor
  · intro id table found
    rw [same] at found
    exact UInt64.le_trans (numbered.le_last found) above
  · intro id table found
    rw [same] at found
    exact (numbered.fields found).mono above

theorem step (numbered : catalog.Numbered) (room : catalog.HasRoom)
    (step : catalog.Step given later) : later.Numbered := by
  have above := UInt64.le_of_lt (lt_nextId room)
  cases step with
  | workspace name => exact numbered.mono rfl above
  | database known name => exact numbered.mono rfl above
  | table known name order =>
    exact numbered.put ⟨_, _, name, order, []⟩ above (UInt64.le_refl _)
      ⟨List.nodup_nil, nofun⟩ _
  | drop stored =>
    constructor
    · intro id other found
      exact numbered.le_last (IdMap.of_find?_erase found).2
    · intro id other found
      exact numbered.fields (IdMap.of_find?_erase found).2
  | @add table stored name new kind =>
    exact numbered.put (table.insertField _) above
      (UInt64.le_trans (numbered.le_last stored) above)
      ((numbered.fields stored).insertField rfl (lt_nextId room)) _
  | @edit id table edited places change =>
    have here : edited.id = table.id := by
      obtain ⟨_, _, rfl⟩ := change.stays
      rfl
    have put := numbered.put edited (UInt64.le_refl _)
      (by rw [here]; exact numbered.le_last places.stored) ((numbered.fields places.stored).edited change)
    rw [here] at put
    exact put _
  | @remove id table field holds =>
    exact numbered.put (table.eraseField id) (UInt64.le_refl _)
      (numbered.le_last holds.stored) ((numbered.fields holds.stored).eraseField id) _
  | @choice id table field holds kind =>
    exact numbered.put (table.modifyField id _) above
      (UInt64.le_trans (numbered.le_last holds.stored) above)
      (((numbered.fields holds.stored).edited (.kind kind)).mono above) _

end Numbered
end

namespace Reached

variable {catalog : Catalog} {log : Log}

theorem numbered (reached : catalog.Reached log) (room : catalog.HasRoom) : catalog.Numbered :=
  reached.induct_room (fun catalog _ => catalog.Numbered) ⟨nofun, nofun⟩ (fun _ _ same => same)
    (fun _ room _ step numbered => numbered.step room step) room

/-- The fields of every table of a catalog have identifiers of their own. -/
theorem distinct (reached : catalog.Reached log) (room : catalog.HasRoom) {id : TableId}
    {table : Table} (found : catalog.table? id = some table) : (table.fields.map Field.id).Nodup :=
  ((reached.numbered room).fields found).distinct

end Reached
end Catalog
end Tabula
