import Tabula.Proofs.Db.Reached

/-!
What is written to the rows of one table, told apart from their cells: which rows were created and
deleted, and when and in which place each was written. A table records the changes that were made to it.
-/
namespace Tabula

structure Stamp where
  order : Decimal
  createdOn : Instant
  updatedOn : Instant

def Row.stamp (row : Row) : Stamp := ⟨row.order, row.createdOn, row.updatedOn⟩

/-- A row that was written or deleted, with the time and with the order that it was given, if it was. -/
inductive RowChange
  | create (id : RowId) (order : Option Decimal) (now : Instant)
  | update (id : RowId) (order : Option Decimal) (now : Instant)
  | delete (id : RowId)

namespace RowChange

def row : RowChange → RowId
  | create id _ _ => id
  | update id _ _ => id
  | delete id => id

def createdId? : RowChange → Option RowId
  | create id _ _ => some id
  | _ => none

def deletedId? : RowChange → Option RowId
  | delete id => some id
  | _ => none

def createdOn? (row : RowId) : RowChange → Option Instant
  | create id _ now => if id = row then some now else none
  | _ => none

def updatedOn? (row : RowId) : RowChange → Option Instant
  | create id _ now => if id = row then some now else none
  | update id _ now => if id = row then some now else none
  | delete _ => none

def order? (row : RowId) : RowChange → Option Decimal
  | create id order _ => if id = row then order else none
  | update id order _ => if id = row then order else none
  | delete _ => none

def created (changes : List RowChange) : List RowId := changes.filterMap createdId?

def deleted (changes : List RowChange) : List RowId := changes.filterMap deletedId?

/-- What the latest change says that says anything. -/
def latest {α : Type} (read : RowChange → Option α) (changes : List RowChange) : Option α :=
  (changes.filterMap read).getLast?

section
variable (changes : List RowChange) (change : RowChange)

theorem created_concat :
    created (changes ++ [change]) = created changes ++ change.createdId?.toList := by
  unfold created
  rw [List.filterMap_append]
  cases h : change.createdId? <;> simp [h]

theorem deleted_concat :
    deleted (changes ++ [change]) = deleted changes ++ change.deletedId?.toList := by
  unfold deleted
  rw [List.filterMap_append]
  cases h : change.deletedId? <;> simp [h]

theorem latest_concat {α : Type} (read : RowChange → Option α) :
    latest read (changes ++ [change]) = (read change).or (latest read changes) := by
  unfold latest
  rw [List.filterMap_append, List.getLast?_append]
  cases h : read change <;> simp [h]

end
end RowChange

namespace TableRows

def stamp? (rows : TableRows) (id : RowId) : Option Stamp := (rows.find? id).map Row.stamp

structure SameStamps (rows later : TableRows) : Prop where
  lastId : later.lastId = rows.lastId
  stamp? : ∀ id, later.stamp? id = rows.stamp? id

inductive Makes (rows later : TableRows) : RowChange → Prop
  | create {id : RowId} {order : Decimal} {now : Instant} (next : id = ⟨rows.lastId + 1⟩)
      (lastId : later.lastId = id.val)
      (stamps : ∀ key, later.stamp? key = if key = id then some ⟨order, now, now⟩ else rows.stamp? key) :
      Makes rows later (.create id (some order) now)
  | update {id : RowId} {old : Stamp} {order : Option Decimal} {now : Instant}
      (stored : rows.stamp? id = some old) (lastId : later.lastId = rows.lastId)
      (stamps : ∀ key, later.stamp? key =
        if key = id then some ⟨order.getD old.order, old.createdOn, now⟩ else rows.stamp? key) :
      Makes rows later (.update id order now)
  | delete {id : RowId} {old : Stamp} (stored : rows.stamp? id = some old)
      (lastId : later.lastId = rows.lastId)
      (stamps : ∀ key, later.stamp? key = if key = id then none else rows.stamp? key) :
      Makes rows later (.delete id)

section
variable {rows later : TableRows}

theorem SameStamps.refl (rows : TableRows) : rows.SameStamps rows := ⟨rfl, fun _ => rfl⟩

theorem stamp?_put (rows : TableRows) (row : Row) (id : RowId) :
    (rows.put row).stamp? id = if id = row.id then some row.stamp else rows.stamp? id := by
  unfold stamp?
  change ((rows.rows.insert row.id row).find? id).map _ = _
  rw [IdMap.find?_insert]
  split <;> rfl

theorem stamp?_delete (rows : TableRows) (deleted id : RowId) :
    (rows.delete deleted).stamp? id = if id = deleted then none else rows.stamp? id := by
  unfold stamp?
  change ((rows.rows.erase deleted).find? id).map _ = _
  rw [IdMap.find?_erase]
  split <;> rfl

theorem makes_create {whole : Schema} {cells : List (FieldId × Value)} {order : Option Decimal}
    {now : Instant} {row : Row} {computation : Computation}
    (done : rows.create whole cells order now = .ok ((row, computation), later)) :
    rows.Makes later (.create row.id (order.or rows.nextOrder.toOption) now) := by
  obtain ⟨_, _, next, _, rfl⟩ := of_create done
  rw [create_eq] at done
  obtain ⟨_, _, done⟩ := bind_eq_ok.1 done
  obtain ⟨place, placed, done⟩ := bind_eq_ok.1 done
  obtain ⟨_, _, done⟩ := bind_eq_ok.1 done
  have given : order.or rows.nextOrder.toOption = some place := by
    cases order with
    | some given =>
      cases placed
      rfl
    | none =>
      have computed : rows.nextOrder = .ok place := mapError_eq_ok.1 placed
      rw [computed]
      rfl
  have stamp : row.stamp = ⟨place, now, now⟩ := by
    cases done
    rfl
  rw [given]
  refine .create next rfl ?_
  intro key
  rw [stamp?_put, stamp]
  rfl

theorem makes_update {whole : Schema} {cells : List (FieldId × Value)} {order : Option Decimal}
    {now : Instant} {id : RowId} {old row : Row} {computation : Computation}
    (found : rows.find? id = some old)
    (done : rows.update whole old cells order now = .ok ((row, computation), later)) :
    rows.Makes later (.update id order now) := by
  obtain ⟨_, rfl, rfl⟩ := of_update done
  obtain ⟨_, rfl⟩ := mem_of_find? found
  have stored : rows.stamp? old.id = some old.stamp := by
    unfold stamp?
    rw [found]
    rfl
  refine .update stored rfl ?_
  intro key
  rw [stamp?_put]
  rfl

theorem makes_delete {id : RowId} {old : Row} (found : rows.find? id = some old) :
    rows.Makes (rows.delete id) (.delete id) := by
  have stored : rows.stamp? id = some old.stamp := by
    unfold stamp?
    rw [found]
    rfl
  exact .delete stored rfl (stamp?_delete rows id)

theorem sameStamps_putAll {changed : List (Row × Computation)}
    (same : ∀ entry ∈ changed, rows.stamp? entry.1.id = some entry.1.stamp) :
    rows.SameStamps (changed.foldl (fun table (row, _) => table.put row) rows) := by
  induction changed generalizing rows with
  | nil => exact .refl rows
  | cons entry rest ih =>
    obtain ⟨here, others⟩ := List.forall_mem_cons.1 same
    have put (id : RowId) : (rows.put entry.1).stamp? id = rows.stamp? id := by
      rw [stamp?_put]
      split
      · rename_i own
        rw [own, here]
      · rfl
    have later : ∀ other ∈ rest, (rows.put entry.1).stamp? other.1.id = some other.1.stamp := by
      intro other member
      rw [put]
      exact others other member
    obtain ⟨lastId, stamps⟩ := ih later
    exact ⟨lastId, fun id => (stamps id).trans (put id)⟩

theorem of_reconciled {whole : Schema} {row next : Row} {computation : Computation}
    (done : reconciled whole row = .ok (next, computation)) :
    next = { row with cells := computation.cells } := by
  obtain ⟨_, _, same⟩ := bind_eq_ok.1 done
  cases same
  rfl

theorem sameStamps_reconcile {whole : Schema} {changed : List (Row × Computation)}
    {warnings : List Warning} (done : rows.reconcile whole = .ok (changed, warnings, later)) :
    rows.SameStamps later := by
  unfold reconcile at done
  obtain ⟨results, run, same⟩ := bind_eq_ok.1 done
  cases same
  apply sameStamps_putAll
  intro entry member
  obtain ⟨result, among, rfl⟩ := List.mem_map.1 member
  obtain ⟨stored, kept, _, reconciled⟩ :=
    exists_of_mem_of_forall₂ (of_reconcileRows run) (List.mem_filter.1 among).1
  unfold stamp?
  rw [of_reconciled reconciled, find?_of_mem kept]
  rfl

end
end TableRows

/-- The place and the times are those that the latest changes gave to the row. -/
structure Stamp.IsFrom (stamp : Stamp) (changes : List RowChange) (id : RowId) : Prop where
  createdOn : RowChange.latest (RowChange.createdOn? id) changes = some stamp.createdOn
  updatedOn : RowChange.latest (RowChange.updatedOn? id) changes = some stamp.updatedOn
  order : RowChange.latest (RowChange.order? id) changes = some stamp.order

namespace Stamp.IsFrom
variable {changes : List RowChange} {id : RowId}

theorem of_create (changes : List RowChange) (id : RowId) (order : Decimal) (now : Instant) :
    (⟨order, now, now⟩ : Stamp).IsFrom (changes ++ [.create id (some order) now]) id := by
  constructor <;>
  · rw [RowChange.latest_concat]
    simp [RowChange.createdOn?, RowChange.updatedOn?, RowChange.order?]

theorem of_update {old : Stamp} (before : old.IsFrom changes id) (order : Option Decimal)
    (now : Instant) :
    (⟨order.getD old.order, old.createdOn, now⟩ : Stamp).IsFrom
      (changes ++ [.update id order now]) id := by
  constructor
  · rw [RowChange.latest_concat]
    exact before.createdOn
  · rw [RowChange.latest_concat]
    simp [RowChange.updatedOn?]
  · rw [RowChange.latest_concat, before.order]
    cases order <;> simp [RowChange.order?]

theorem of_other {stamp : Stamp} (before : stamp.IsFrom changes id) {change : RowChange}
    (other : change.row ≠ id) : stamp.IsFrom (changes ++ [change]) id := by
  have silent : change.createdOn? id = none ∧ change.updatedOn? id = none ∧ change.order? id = none := by
    unfold RowChange.row at other
    cases change <;> simp_all [RowChange.createdOn?, RowChange.updatedOn?, RowChange.order?]
  obtain ⟨createdOn, updatedOn, order⟩ := silent
  constructor
  · rw [RowChange.latest_concat, createdOn]
    exact before.createdOn
  · rw [RowChange.latest_concat, updatedOn]
    exact before.updatedOn
  · rw [RowChange.latest_concat, order]
    exact before.order

end Stamp.IsFrom

namespace TableRows

/-- The rows are those that the changes created and did not delete, numbered from one in the order of
their creation, each with the place and the times that the latest changes gave it. -/
structure Records (rows : TableRows) (changes : List RowChange) : Prop where
  count : rows.lastId.toNat = (RowChange.created changes).length
  numbered : ∀ index id, (RowChange.created changes)[index]? = some id → id.val.toNat = index + 1
  deleted_created : ∀ id ∈ RowChange.deleted changes, id ∈ RowChange.created changes
  stored_iff : ∀ id, (rows.stamp? id).isSome = true ↔
    id ∈ RowChange.created changes ∧ id ∉ RowChange.deleted changes
  stamped : ∀ id stamp, rows.stamp? id = some stamp → stamp.IsFrom changes id

namespace Records
variable {rows later : TableRows} {changes : List RowChange}

theorem empty : Records default [] := by
  have nothing (id : RowId) : stamp? default id = none := rfl
  constructor
  · rfl
  · intro index id created
    cases created
  · intro id deleted
    cases deleted
  · intro id
    rw [nothing]
    exact ⟨nofun, fun created => absurd created.1 List.not_mem_nil⟩
  · intro id stamp stored
    rw [nothing] at stored
    cases stored

theorem of_sameStamps (records : rows.Records changes) (same : rows.SameStamps later) :
    later.Records changes where
  count := by
    rw [same.lastId]
    exact records.count
  numbered := records.numbered
  deleted_created := records.deleted_created
  stored_iff id := by
    rw [same.stamp?]
    exact records.stored_iff id
  stamped id stamp stored := records.stamped id stamp (by rw [← same.stamp?, stored])

theorem toNat_le (records : rows.Records changes) {id : RowId}
    (member : id ∈ RowChange.created changes) :
    id.val.toNat ≤ (RowChange.created changes).length := by
  obtain ⟨index, found⟩ := List.mem_iff_getElem?.1 member
  have below : index < (RowChange.created changes).length := (List.getElem?_eq_some_iff.1 found).1
  rw [records.numbered index id found]
  exact below

/-- A new row gets the number after all that were created, those deleted since included. -/
theorem of_create (records : rows.Records changes) {id : RowId} {order : Option Decimal}
    {now : Instant} (makes : rows.Makes later (.create id order now))
    (few : (RowChange.created changes).length + 1 < UInt64.size) :
    later.Records (changes ++ [.create id order now]) := by
  cases makes with
  | @create id order now next lastId stamps =>
    -- The count has not come round to zero, so that the number is above all that were given before.
    have number : id.val.toNat = (RowChange.created changes).length + 1 := by
      rw [next, UInt64.toNat_add, records.count]
      exact Nat.mod_eq_of_lt few
    have new : id ∉ RowChange.created changes := by
      intro member
      have below := records.toNat_le member
      omega
    have created : RowChange.created (changes ++ [.create id order now]) =
        RowChange.created changes ++ [id] := RowChange.created_concat _ _
    have deleted : RowChange.deleted (changes ++ [.create id order now]) =
        RowChange.deleted changes :=
      (RowChange.deleted_concat _ _).trans (List.append_nil _)
    constructor
    · rw [created, lastId, number, List.length_append, List.length_singleton]
    · intro index other found
      rw [created, List.getElem?_append] at found
      split at found
      · exact records.numbered index other found
      · have last : index = (RowChange.created changes).length := by
          have bound := (List.getElem?_eq_some_iff.1 found).1
          rw [List.length_singleton] at bound
          omega
        subst last
        rw [Nat.sub_self] at found
        cases found
        exact number
    · intro other gone
      rw [deleted] at gone
      rw [created]
      exact List.mem_append_left _ (records.deleted_created other gone)
    · intro key
      have before := records.stored_iff key
      have gone := records.deleted_created key
      rw [created, deleted, stamps, List.mem_append, List.mem_singleton]
      grind
    · intro key stamp stored
      rw [stamps] at stored
      split at stored
      · rename_i same
        subst same
        cases stored
        exact .of_create changes key order now
      · rename_i different
        exact (records.stamped key stamp stored).of_other (Ne.symm different)

theorem of_update (records : rows.Records changes) {id : RowId} {order : Option Decimal}
    {now : Instant} (makes : rows.Makes later (.update id order now)) :
    later.Records (changes ++ [.update id order now]) := by
  cases makes with
  | @update id old order now here lastId stamps =>
    have created : RowChange.created (changes ++ [.update id order now]) =
        RowChange.created changes :=
      (RowChange.created_concat _ _).trans (List.append_nil _)
    have deleted : RowChange.deleted (changes ++ [.update id order now]) =
        RowChange.deleted changes :=
      (RowChange.deleted_concat _ _).trans (List.append_nil _)
    constructor
    · rw [created, lastId]
      exact records.count
    · rw [created]
      exact records.numbered
    · rw [created, deleted]
      exact records.deleted_created
    · intro key
      rw [created, deleted, stamps, ← records.stored_iff]
      split
      · rename_i same
        rw [same, here]
        exact Iff.rfl
      · exact Iff.rfl
    · intro key stamp stored
      rw [stamps] at stored
      split at stored
      · rename_i same
        subst same
        cases stored
        exact (records.stamped key old here).of_update order now
      · rename_i different
        exact (records.stamped key stamp stored).of_other (Ne.symm different)

theorem of_delete (records : rows.Records changes) {id : RowId}
    (makes : rows.Makes later (.delete id)) :
    later.Records (changes ++ [.delete id]) := by
  cases makes with
  | @delete id old here lastId stamps =>
    have created : RowChange.created (changes ++ [.delete id]) = RowChange.created changes :=
      (RowChange.created_concat _ _).trans (List.append_nil _)
    have deleted : RowChange.deleted (changes ++ [.delete id]) = RowChange.deleted changes ++ [id] :=
      RowChange.deleted_concat _ _
    have known : id ∈ RowChange.created changes ∧ id ∉ RowChange.deleted changes :=
      (records.stored_iff id).1 (by rw [here]; rfl)
    constructor
    · rw [created, lastId]
      exact records.count
    · rw [created]
      exact records.numbered
    · intro other gone
      rw [deleted] at gone
      rw [created]
      rcases List.mem_append.1 gone with before | now
      · exact records.deleted_created other before
      · rw [List.mem_singleton.1 now]
        exact known.1
    · intro key
      have before := records.stored_iff key
      rw [created, deleted, stamps, List.mem_append, List.mem_singleton]
      grind
    · intro key stamp stored
      rw [stamps] at stored
      split at stored
      · cases stored
      · rename_i different
        exact (records.stamped key stamp stored).of_other (Ne.symm different)

/-- Each change that is made to the rows adds to their record. -/
theorem of_makes (records : rows.Records changes) {change : RowChange}
    (makes : rows.Makes later change)
    (few : (RowChange.created (changes ++ [change])).length < UInt64.size) :
    later.Records (changes ++ [change]) := by
  cases change with
  | create id order now =>
    rw [RowChange.created_concat, List.length_append] at few
    exact records.of_create makes few
  | update id order now => exact records.of_update makes
  | delete id => exact records.of_delete makes

end Records
end TableRows
end Tabula
