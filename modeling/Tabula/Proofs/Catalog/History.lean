import Tabula.Proofs.Catalog.Consistent

/-!
What the log of a catalog says about it: identifiers rise, deleted tables do not come back, and what was
added last comes last. With the consistency of the catalog this holds after every run of edits.
-/
namespace Tabula

theorem getLast?_mergeSort {α : Type} {le : α → α → Bool}
    (trans : ∀ first second third, le first second = true → le second third = true →
      le first third = true)
    (total : ∀ first second, (le first second || le second first) = true)
    {list : List α} {last : α} (member : last ∈ list)
    (top : ∀ other ∈ list, le last other = true → other = last) :
    (list.mergeSort le).getLast? = some last := by
  have sorted := List.pairwise_mergeSort trans total list
  have inside (other : α) : other ∈ list.mergeSort le ↔ other ∈ list := List.mem_mergeSort
  generalize list.mergeSort le = result at sorted inside ⊢
  have among := (inside last).2 member
  rcases List.eq_nil_or_concat result with rfl | ⟨front, final, rfl⟩
  · cases among
  · rw [List.concat_eq_append] at sorted inside among ⊢
    rw [List.getLast?_concat]
    rcases List.mem_append.1 among with earlier | alone
    · have below := (List.pairwise_append.1 sorted).2.2 last earlier final (List.mem_singleton_self _)
      have final_mem := (inside final).1 (List.mem_append_right _ (List.mem_singleton_self _))
      rw [top final final_mem below]
    · rw [List.mem_singleton.1 alone]

namespace Catalog

namespace Log

/-- The identifiers given out, in order. -/
def given (log : Log) : List UInt64 := log.filterMap fun entry => entry.2.toOption.join

def deleted (log : Log) : List TableId :=
  log.filterMap fun
    | (.deleteTable id, .ok _) => some id
    | _ => none

theorem given_concat_error (log : Log) (edit : CatalogEdit) (error : CatalogError) :
    given (log ++ [(edit, .error error)]) = log.given := by
  unfold given
  rw [List.filterMap_append]
  exact List.append_nil _

theorem given_concat_ok (log : Log) (edit : CatalogEdit) (answer : Option UInt64) :
    given (log ++ [(edit, .ok answer)]) = log.given ++ answer.toList := by
  unfold given
  rw [List.filterMap_append]
  cases answer <;> rfl

theorem mem_deleted_concat {log : Log} {edit : CatalogEdit}
    {answer : Except CatalogError (Option UInt64)} {id : TableId} :
    id ∈ deleted (log ++ [(edit, answer)]) ↔
      id ∈ log.deleted ∨ (edit = .deleteTable id ∧ ∃ given, answer = .ok given) := by
  unfold deleted
  rw [List.filterMap_append, List.mem_append]
  refine or_congr_right ?_
  cases edit <;> cases answer <;> simp [eq_comm]

end Log

section
variable {catalog later : Catalog} {given : Option UInt64}

theorem toNat_nextId_le (catalog : Catalog) : catalog.nextId.toNat ≤ catalog.lastId.toNat + 1 := by
  unfold nextId
  split
  · exact Nat.le_succ _
  · rw [UInt64.toNat_add]
    exact Nat.mod_le _ _

theorem Step.exists_or_new (step : catalog.Step given later) {id : TableId} {table : Table}
    (found : later.table? id = some table) :
    (catalog.table? id).isSome = true ∨ id = ⟨catalog.nextId⟩ := by
  have replaced {home : TableId} (known : (catalog.table? home).isSome = true) {other : Table}
      (found : (catalog.tables.insert home other).find? id = some table) :
      (catalog.table? id).isSome = true := by
    rcases IdMap.of_find?_insert found with ⟨rfl, _⟩ | old
    · exact known
    · exact Option.isSome_iff_exists.2 ⟨table, old⟩
  cases step with
  | workspace | database => exact .inl (Option.isSome_iff_exists.2 ⟨table, found⟩)
  | table known name order =>
    rcases IdMap.of_find?_insert found with ⟨rfl, _⟩ | old
    · exact .inr rfl
    · exact .inl (Option.isSome_iff_exists.2 ⟨table, old⟩)
  | drop stored =>
    exact .inl (Option.isSome_iff_exists.2 ⟨table, (IdMap.of_find?_erase found).2⟩)
  | add stored new kind => exact .inl (replaced (by rw [stored]; rfl) found)
  | edit places edited => exact .inl (replaced (by rw [places.stored]; rfl) found)
  | remove holds => exact .inl (replaced (by rw [holds.stored]; rfl) found)
  | choice holds kind => exact .inl (replaced (by rw [holds.stored]; rfl) found)

end

section
variable {catalog later : Catalog}

theorem of_deleteTable {id : TableId} {given : Option UInt64}
    (ran : (CatalogEdit.deleteTable id).perform catalog = (.ok given, later)) :
    (catalog.table? id).isSome = true ∧ later.table? id = none := by
  unfold CatalogEdit.perform CatalogEdit.work at ran
  rw [perform_map, perform_deleteTable] at ran
  cases found : catalog.table? id with
  | none =>
    rw [found] at ran
    cases (Prod.mk.inj ran).1
  | some table =>
    rw [found] at ran
    obtain ⟨_, rfl⟩ := Prod.mk.inj ran
    refine ⟨rfl, ?_⟩
    change (catalog.tables.erase id).find? id = none
    rw [IdMap.find?_erase, if_pos rfl]

theorem of_createTable {database : DatabaseId} {name : String} {id : UInt64}
    (ran : (CatalogEdit.createTable database name).perform catalog = (.ok (some id), later)) :
    id = catalog.nextId ∧ later =
      { catalog with
        tables := catalog.tables.insert ⟨id⟩
          ⟨⟨id⟩, database, name, catalog.nextTableOrder database, []⟩
        lastId := id } := by
  unfold CatalogEdit.perform CatalogEdit.work at ran
  rw [perform_map, perform_createTable, perform_createTableAt] at ran
  cases found : catalog.database? database with
  | none =>
    rw [found] at ran
    cases (Prod.mk.inj ran).1
  | some _ =>
    rw [found] at ran
    obtain ⟨given, rfl⟩ := Prod.mk.inj ran
    cases given
    exact ⟨rfl, rfl⟩

theorem of_addField (placed : catalog.Placed) {place : TableId} {name : String} {kind : FieldKind}
    {id : UInt64}
    (ran : (CatalogEdit.addField place name kind).perform catalog = (.ok (some id), later)) :
    ∃ table, catalog.table? place = some table ∧ id = catalog.nextId ∧
      later.table? place = some (table.insertField (catalog.newField table name kind)) := by
  unfold CatalogEdit.perform CatalogEdit.work at ran
  rw [perform_map, perform_addField placed] at ran
  cases stored : catalog.table? place with
  | none =>
    rw [stored] at ran
    cases (Prod.mk.inj ran).1
  | some table =>
    have own := placed.table_id stored
    subst own
    rw [stored] at ran
    cases new : table.fieldNamed? name with
    | some _ =>
      simp only [new] at ran
      cases (Prod.mk.inj ran).1
    | none =>
      simp only [new] at ran
      obtain ⟨given, rfl⟩ := Prod.mk.inj ran
      cases given
      exact ⟨table, rfl, rfl, IdMap.find?_insert_self _ _ _⟩

theorem mem_tablesOf {database : DatabaseId} {table : Table} :
    table ∈ catalog.tablesOf database ↔
      (∃ id, catalog.table? id = some table) ∧ table.database = database := by
  unfold tablesOf
  rw [List.mem_filter, decide_eq_true_eq, IdMap.mem_values_iff]
  rfl

theorem order_le_nextTableOrder {database : DatabaseId} {table : Table}
    (member : table ∈ catalog.tablesOf database) : table.order ≤ catalog.nextTableOrder database := by
  have among : table.order ∈ (catalog.tablesOf database).map (·.order) := List.mem_map_of_mem member
  obtain ⟨top, found, below⟩ := exists_max?_of_mem among
  unfold nextTableOrder
  rw [found]
  exact UInt32.le_trans below (le_nextOrder top)

def inOrder (left right : Table) : Bool :=
  left.order < right.order || (left.order == right.order && left.id.val ≤ right.id.val)

theorem inOrder_iff {left right : Table} : inOrder left right = true ↔
    left.order < right.order ∨ (left.order = right.order ∧ left.id.val ≤ right.id.val) := by
  unfold inOrder
  simp only [Bool.or_eq_true, decide_eq_true_eq, Bool.and_eq_true, beq_iff_eq]

theorem inOrder_trans (first second third : Table) (before : inOrder first second = true)
    (behind : inOrder second third = true) : inOrder first third = true := by
  rw [inOrder_iff] at before behind ⊢
  grind

theorem inOrder_total (first second : Table) :
    (inOrder first second || inOrder second first) = true := by
  rw [Bool.or_eq_true, inOrder_iff, inOrder_iff]
  grind

theorem last_of_createTable (numbered : catalog.Numbered) (placed : catalog.Placed)
    (room : catalog.HasRoom) {database : DatabaseId} {name : String} {id : UInt64}
    (ran : (CatalogEdit.createTable database name).perform catalog = (.ok (some id), later)) :
    (later.tablesInOrder database).getLast?.map Table.id = some ⟨id⟩ := by
  obtain ⟨rfl, made⟩ := of_createTable ran
  have stored : later.table? ⟨catalog.nextId⟩ =
      some ⟨⟨catalog.nextId⟩, database, name, catalog.nextTableOrder database, []⟩ := by
    rw [made]
    exact IdMap.find?_insert_self _ _ _
  refine congrArg (Option.map Table.id) (getLast?_mergeSort inOrder_trans inOrder_total
    (mem_tablesOf.2 ⟨⟨_, stored⟩, rfl⟩) ?_)
  intro other member behind
  obtain ⟨⟨key, found⟩, same⟩ := mem_tablesOf.1 member
  rw [made] at found
  rcases IdMap.of_find?_insert found with ⟨_, new⟩ | old
  · exact new
  · -- An older table has no larger order and a smaller identifier.
    have order := order_le_nextTableOrder (mem_tablesOf.2 ⟨⟨key, old⟩, same⟩)
    have below := UInt64.lt_of_le_of_lt (numbered.le_last old) (lt_nextId room)
    have own := placed.table_id old
    subst own
    rw [inOrder_iff] at behind
    grind

theorem last_of_addField (consistent : catalog.Consistent) (room : catalog.HasRoom) {place : TableId}
    {name : String} {kind : FieldKind} {id : UInt64}
    (ran : (CatalogEdit.addField place name kind).perform catalog = (.ok (some id), later)) :
    ∃ table, later.table? place = some table ∧ table.fields.getLast?.map Field.id = some ⟨id⟩ := by
  obtain ⟨table, stored, rfl, found⟩ := of_addField consistent.placed ran
  refine ⟨_, found, ?_⟩
  rw [Table.insertField_fields (consistent.arranged _ _ stored).sorted
    (Table.before_newField room (consistent.numbered.fields stored) name kind), List.getLast?_concat]
  rfl

end

namespace Reached

variable {catalog : Catalog} {log : Log}

theorem lastId_le (reached : catalog.Reached log) : catalog.lastId.toNat ≤ log.given.length := by
  induction reached with
  | start => exact Nat.zero_le _
  | @edit catalog log edit reached ih =>
    rcases edit.perform_cases reached.placed with ⟨error, refused⟩ | ⟨given, later, ran, step⟩
    · rw [refused, Log.given_concat_error]
      exact ih
    · rw [ran, Log.given_concat_ok, List.length_append]
      rcases step.given_cases with ⟨rfl, last⟩ | ⟨rfl, last⟩
      · rw [last]
        exact ih
      · rw [last]
        exact Nat.le_trans catalog.toNat_nextId_le (Nat.succ_le_succ ih)

theorem hasRoom (reached : catalog.Reached log) (few : log.given.length + 1 < UInt64.size) :
    catalog.HasRoom := by
  have counted := reached.lastId_le
  intro full
  have same := congrArg UInt64.toNat full
  rw [UInt64.toNat_add, Nat.mod_eq_of_lt] at same
  · simp at same
  · simp only [UInt64.size, UInt64.toNat_one] at few ⊢
    omega

/-- The identifiers given out rise, whatever they are for. -/
theorem given_rising (reached : catalog.Reached log) (room : catalog.HasRoom) :
    log.given.Pairwise (· < ·) ∧ ∀ id ∈ log.given, id ≤ catalog.lastId := by
  refine reached.induct_room (fun catalog log =>
    log.given.Pairwise (· < ·) ∧ ∀ id ∈ log.given, id ≤ catalog.lastId) ?_ ?_ ?_ room
  · exact ⟨List.Pairwise.nil, nofun⟩
  · intro catalog log edit error held
    rw [Log.given_concat_error]
    exact held
  · intro catalog later log edit given _ room _ step held
    obtain ⟨rising, below⟩ := held
    rw [Log.given_concat_ok]
    rcases step.given_cases with ⟨rfl, last⟩ | ⟨rfl, last⟩
    · rw [last, Option.toList_none, List.append_nil]
      exact ⟨rising, below⟩
    · have above := lt_nextId room
      rw [Option.toList_some]
      constructor
      · rw [List.pairwise_append]
        refine ⟨rising, List.pairwise_singleton _ _, ?_⟩
        intro id earlier next alone
        rw [List.mem_singleton.1 alone]
        exact UInt64.lt_of_le_of_lt (below id earlier) above
      · intro id member
        rw [last]
        rcases List.mem_append.1 member with earlier | alone
        · exact UInt64.le_trans (below id earlier) (UInt64.le_of_lt above)
        · rw [List.mem_singleton.1 alone]
          exact UInt64.le_refl _

theorem table?_of_deleted (reached : catalog.Reached log) (room : catalog.HasRoom) :
    ∀ id ∈ log.deleted, id.val ≤ catalog.lastId ∧ catalog.table? id = none := by
  refine reached.induct_room (fun catalog log =>
    ∀ id ∈ log.deleted, id.val ≤ catalog.lastId ∧ catalog.table? id = none) ?_ ?_ ?_ room
  · intro id deleted
    cases deleted
  · intro catalog log edit error held id deleted
    rcases Log.mem_deleted_concat.1 deleted with earlier | ⟨_, _, ⟨⟩⟩
    exact held id earlier
  · intro catalog later log edit given reached room ran step held id deleted
    have above := step.le_lastId
    rcases Log.mem_deleted_concat.1 deleted with earlier | ⟨rfl, _⟩
    · obtain ⟨below, absent⟩ := held id earlier
      refine ⟨UInt64.le_trans below above, ?_⟩
      rw [Option.eq_none_iff_forall_ne_some]
      intro table found
      -- A table that is new has an identifier above all that were given out before.
      rcases step.exists_or_new found with old | rfl
      · rw [absent] at old
        cases old
      · exact UInt64.not_le.2 (lt_nextId room) below
    · obtain ⟨known, absent⟩ := of_deleteTable ran
      obtain ⟨table, found⟩ := Option.isSome_iff_exists.1 known
      exact ⟨UInt64.le_trans ((reached.numbered room).le_last found) above, absent⟩

theorem of_concat {edit : CatalogEdit} {answer : Except CatalogError (Option UInt64)}
    (reached : catalog.Reached (log ++ [(edit, answer)])) :
    ∃ earlier : Catalog, earlier.Reached log ∧ edit.perform earlier = (answer, catalog) := by
  generalize whole : log ++ [(edit, answer)] = entries at reached
  cases reached with
  | start => simp at whole
  | @edit earlier entries tried reached =>
    obtain ⟨rfl, last⟩ := List.append_inj' whole rfl
    simp only [List.cons.injEq, Prod.mk.injEq, and_true] at last
    obtain ⟨rfl, rfl⟩ := last
    exact ⟨earlier, reached, rfl⟩

end Reached

/-- The catalog is consistent, what exists in it is under a workspace, and its log is right about it. -/
structure Sound (catalog : Catalog) (log : Log) : Prop where
  consistent : catalog.Consistent
  root_of_exists : ∀ node, catalog.Exists node → ∃ workspace,
    catalog.root? node = some (.workspace workspace) ∧ catalog.Exists (.workspace workspace)
  root_of_not_exists : ∀ node, ¬ catalog.Exists node → catalog.root? node = none
  deleted : ∀ table ∈ log.deleted, catalog.table? table = none ∧
    catalog.root? (.table table) = none ∧ ∀ row, catalog.root? (.row table row) = none
  given_rising : log.given.Pairwise (· < ·)
  added_last : ∀ earlier place name kind id,
    log = earlier ++ [(.addField place name kind, .ok (some id))] →
      ∃ table, catalog.table? place = some table ∧ table.fields.getLast?.map Field.id = some ⟨id⟩
  created_last : ∀ earlier database name id,
    log = earlier ++ [(.createTable database name, .ok (some id))] →
      (catalog.tablesInOrder database).getLast?.map Table.id = some ⟨id⟩

/-- Every catalog that edits lead to is sound, as long as the identifiers last. -/
theorem sound_of_reached {catalog : Catalog} {log : Log} (reached : catalog.Reached log)
    (few : log.given.length + 1 < UInt64.size) : catalog.Sound log := by
  have room := reached.hasRoom few
  have consistent := reached.consistent room
  refine ⟨consistent, ?_, ?_, ?_, (reached.given_rising room).1, ?_, ?_⟩
  · intro node known
    exact consistent.rooted.root?_of_exists known
  · intro node unknown
    exact root?_of_not_exists unknown
  · intro table deleted
    have gone := (reached.table?_of_deleted room table deleted).2
    have unknown : ¬ (catalog.table? table).isSome = true := by
      rw [gone]
      exact Bool.false_ne_true
    exact ⟨gone, root?_of_not_exists unknown, fun _ => root?_of_not_exists unknown⟩
  · rintro earlier place name kind id rfl
    obtain ⟨before, reached, ran⟩ := reached.of_concat
    have had := (reached.step_of_ok ran).hasRoom room
    exact last_of_addField (reached.consistent had) had ran
  · rintro earlier database name id rfl
    obtain ⟨before, reached, ran⟩ := reached.of_concat
    have had := (reached.step_of_ok ran).hasRoom room
    have consistent := reached.consistent had
    exact last_of_createTable consistent.numbered consistent.placed had ran

/-- A table with a field, a table that is deleted again and a database that is not there. -/
theorem sound_of_edits : ∃ (catalog : Catalog) (log : Log), catalog.Reached log ∧
    log.given = [1, 2, 3, 4, 5] ∧ log.deleted = [⟨5⟩] ∧ catalog.lastId = 5 ∧ catalog.Sound log := by
  have reached := Reached.start
    |>.edit (.createWorkspace "home")
    |>.edit (.createDatabase ⟨1⟩ "shop")
    |>.edit (.createTable ⟨2⟩ "orders")
    |>.edit (.createTable ⟨1⟩ "orders")
    |>.edit (.addField ⟨3⟩ "paid" (.stored .boolean))
    |>.edit (.createTable ⟨2⟩ "scratch")
    |>.edit (.deleteTable ⟨5⟩)
    |>.edit (.setPrimary ⟨4⟩)
  exact ⟨_, _, reached, rfl, rfl, rfl, sound_of_reached reached (by decide)⟩

end Catalog
end Tabula
