import Tabula.Proofs.Catalog.Distinct

/-!
The fields of a table stand in order, have names of their own, and at most one of them is primary. Edits
keep it so, and a field that is added comes last.
-/
namespace Tabula

theorem le_nextOrder (order : UInt32) : order ≤ nextOrder order := by
  unfold nextOrder
  split
  · exact UInt32.le_refl _
  · grind

instance uint32LawfulOrderMax : Std.LawfulOrderMax UInt32 := by
  have max_def (left right : UInt32) : max left right = if left ≤ right then right else left := rfl
  apply Std.LawfulOrderMax.of_max_le_iff
  · intro left right bound
    rw [max_def]
    grind
  · intro left right
    rw [max_def]
    grind

theorem exists_max?_of_mem {orders : List UInt32} {order : UInt32} (member : order ∈ orders) :
    ∃ top, orders.max? = some top ∧ order ≤ top := by
  cases found : orders.max? with
  | none =>
    rw [List.max?_eq_none_iff.1 found] at member
    cases member
  | some top => exact ⟨top, rfl, (List.max?_eq_some_iff.1 found).2 order member⟩

namespace Field

def Before (left right : Field) : Prop :=
  left.order < right.order ∨ (left.order = right.order ∧ left.id.val < right.id.val)

theorem Before.notAfter {left right : Field} (before : left.Before right) :
    left.notAfter right = true := by
  unfold Field.notAfter
  rcases before with order | ⟨same, id⟩
  · simp [order]
  · simp [same, UInt64.le_of_lt id]

theorem before_of_le {left right : Field} (order : left.order ≤ right.order)
    (id : left.id.val < right.id.val) : left.Before right := by
  by_cases same : left.order = right.order
  · exact .inr ⟨same, id⟩
  · exact .inl (UInt32.lt_of_le_of_ne order same)

theorem Stays.before {change : Field → Field} (stays : Stays change) {left right : Field}
    (before : left.Before right) : (change left).Before (change right) := by
  unfold Before at before ⊢
  simpa only [stays.id, stays.order] using before

end Field

namespace Table

variable {table : Table}

theorem order_le_nextFieldOrder {field : Field} (member : field ∈ table.fields) :
    field.order ≤ table.nextFieldOrder := by
  have among : nextOrder field.order ∈ table.fields.map fun field => nextOrder field.order :=
    List.mem_map_of_mem member
  obtain ⟨top, found, below⟩ := exists_max?_of_mem among
  unfold nextFieldOrder
  rw [found]
  exact UInt32.le_trans (le_nextOrder _) below

/-- The fields stand in order, under names of their own, and at most one is primary. -/
structure Arranged (table : Table) : Prop where
  sorted : table.fields.Pairwise Field.Before
  named : (table.fields.map Field.name).Nodup
  primary : table.fields.countP (·.primary) ≤ 1

theorem insertField_fields (sorted : table.fields.Pairwise Field.Before) {field : Field}
    (behind : ∀ other ∈ table.fields, other.Before field) :
    (table.insertField field).fields = table.fields ++ [field] := by
  unfold insertField
  apply List.mergeSort_of_pairwise
  rw [List.pairwise_append]
  refine ⟨sorted.imp Field.Before.notAfter, List.pairwise_singleton _ _, ?_⟩
  intro other member last alone
  rw [List.mem_singleton.1 alone]
  exact (behind other member).notAfter

theorem before_newField {catalog : Catalog} (room : catalog.HasRoom)
    (numbered : table.NumberedTo catalog.lastId) (name : String) (kind : FieldKind) :
    ∀ other ∈ table.fields, other.Before (catalog.newField table name kind) := by
  intro other member
  exact Field.before_of_le (order_le_nextFieldOrder member)
    (UInt64.lt_of_le_of_lt (numbered.le_last other member) (Catalog.lt_nextId room))

theorem name_ne_of_fieldNamed? {name : String} (new : table.fieldNamed? name = none) :
    ∀ field ∈ table.fields, field.name ≠ name := by
  intro field member
  simpa using List.find?_eq_none.1 new field member

namespace Arranged

theorem insertField (arranged : table.Arranged) {field : Field}
    (behind : ∀ other ∈ table.fields, other.Before field)
    (new : ∀ other ∈ table.fields, other.name ≠ field.name) (plain : field.primary = false) :
    (table.insertField field).Arranged := by
  have last := insertField_fields arranged.sorted behind
  constructor
  · rw [last, List.pairwise_append]
    refine ⟨arranged.sorted, List.pairwise_singleton _ _, ?_⟩
    intro other member alone one
    rw [List.mem_singleton.1 one]
    exact behind other member
  · rw [last, List.map_append, List.nodup_append]
    refine ⟨arranged.named, List.nodup_singleton _, ?_⟩
    intro name earlier other one
    obtain ⟨old, member, rfl⟩ := List.mem_map.1 earlier
    rw [List.mem_singleton.1 one]
    exact new old member
  · rw [last, List.countP_append, List.countP_singleton, plain]
    exact arranged.primary

theorem eraseField (arranged : table.Arranged) (id : FieldId) : (table.eraseField id).Arranged where
  sorted := arranged.sorted.sublist List.eraseP_sublist
  named := arranged.named.sublist (List.eraseP_sublist.map _)
  primary := Nat.le_trans List.eraseP_sublist.countP_le arranged.primary

theorem sorted_mapFields (arranged : table.Arranged) {change : Field → Field}
    (stays : Field.Stays change) : (table.mapFields change).fields.Pairwise Field.Before :=
  List.pairwise_map.2 (arranged.sorted.imp stays.before)

theorem countP_id_le {last : UInt64} (numbered : table.NumberedTo last) (id : FieldId) :
    table.fields.countP (fun field => decide (field.id = id)) ≤ 1 := by
  have counted := List.nodup_iff_count_le_one.1 numbered.distinct id
  rw [List.count_eq_countP, List.countP_map] at counted
  exact counted

theorem named_rename (arranged : table.Arranged) {last : UInt64} (numbered : table.NumberedTo last)
    {id : FieldId} {name : String}
    (free : ∀ other, table.fieldNamed? name = some other → other.id = id) :
    ((table.modifyField id fun field => { field with name }).fields.map Field.name).Nodup := by
  have other_name : ∀ field ∈ table.fields, field.id ≠ id → field.name ≠ name := by
    intro field member different same
    have taken : (table.fieldNamed? name).isSome = true :=
      List.find?_isSome.2 ⟨field, member, decide_eq_true same⟩
    obtain ⟨first, found⟩ := Option.isSome_iff_exists.1 taken
    have first_name : first.name = field.name := by
      rw [same]
      simpa using List.find?_some found
    have one : first = field :=
      List.inj_on_of_nodup_map arranged.named (List.mem_of_find?_eq_some found) member first_name
    exact different (by rw [← one]; exact free first found)
  have apart := (List.pairwise_map.1 arranged.named).and (List.pairwise_map.1 numbered.distinct)
  unfold modifyField mapFields
  rw [List.map_map]
  refine List.pairwise_map.2 (apart.imp_of_mem ?_)
  intro left right before behind different
  have left_name := other_name left before
  have right_name := other_name right behind
  dsimp only [Function.comp_apply]
  grind

theorem primary_modifyField (arranged : table.Arranged) (id : FieldId) {change : Field → Field}
    (keeps : ∀ field, (change field).primary = field.primary) :
    (table.modifyField id change).fields.countP (·.primary) ≤ 1 := by
  have same : (fun field : Field => field.primary) ∘
      (fun field => if field.id = id then change field else field) = fun field => field.primary := by
    funext field
    dsimp only [Function.comp_apply]
    split
    · exact keeps field
    · rfl
  unfold modifyField mapFields
  rw [List.countP_map, same]
  exact arranged.primary

theorem named_rekind (arranged : table.Arranged) (id : FieldId) (kind : FieldKind) :
    ((table.modifyField id fun field => { field with kind }).fields.map Field.name).Nodup := by
  have same : (Field.name ∘ fun field => if field.id = id then { field with kind } else field) =
      Field.name := by
    funext field
    dsimp only [Function.comp_apply]
    split <;> rfl
  unfold modifyField mapFields
  rw [List.map_map, same]
  exact arranged.named

theorem edited (arranged : table.Arranged) {last : UInt64} (numbered : table.NumberedTo last)
    {id : FieldId} {later : Table} (edited : table.Edited id later) : later.Arranged := by
  have sorted : later.fields.Pairwise Field.Before := by
    obtain ⟨change, stays, rfl⟩ := edited.stays
    exact arranged.sorted_mapFields stays
  cases edited with
  | primary =>
    refine ⟨sorted, ?_, ?_⟩
    · unfold mapFields
      rw [List.map_map]
      exact arranged.named
    · unfold mapFields
      rw [List.countP_map]
      exact countP_id_le numbered id
  | name name free =>
    exact ⟨sorted, arranged.named_rename numbered free, arranged.primary_modifyField id fun _ => rfl⟩
  | kind kind =>
    exact ⟨sorted, arranged.named_rekind id kind, arranged.primary_modifyField id fun _ => rfl⟩

end Arranged
end Table
end Tabula
