import Tabula.Id

/-! Finite maps from identifiers, kept in ascending order. -/
namespace Tabula

namespace IdMap

variable {entity : Entity} {α : Type}

def Ascending (entries : List (Id entity × α)) : Prop :=
  entries.Pairwise fun left right => left.1.val < right.1.val

def insertEntry (id : Id entity) (value : α) : List (Id entity × α) → List (Id entity × α)
  | [] => [(id, value)]
  | entry :: rest =>
    if id.val < entry.1.val then (id, value) :: entry :: rest
    else if id = entry.1 then (id, value) :: rest
    else entry :: insertEntry id value rest

theorem mem_of_mem_insertEntry {id : Id entity} {value : α} {entries : List (Id entity × α)}
    {entry : Id entity × α} (member : entry ∈ insertEntry id value entries) :
    entry = (id, value) ∨ entry ∈ entries := by
  induction entries with
  | nil => simp_all [insertEntry]
  | cons head rest ih =>
    unfold insertEntry at member
    split at member
    · grind
    · split at member <;> grind

theorem fst_of_mem_insertEntry {id : Id entity} {value : α} {entries : List (Id entity × α)}
    {entry : Id entity × α} (member : entry ∈ insertEntry id value entries) :
    entry.1 = id ∨ entry ∈ entries :=
  (mem_of_mem_insertEntry member).imp_left (congrArg Prod.fst)

theorem ascending_insertEntry (id : Id entity) (value : α) {entries : List (Id entity × α)}
    (ascending : Ascending entries) : Ascending (insertEntry id value entries) := by
  induction entries with
  | nil => simp [insertEntry, Ascending]
  | cons head rest ih =>
    have ⟨above, ascendingRest⟩ := List.pairwise_cons.1 ascending
    unfold insertEntry
    split
    · rename_i before
      refine List.pairwise_cons.2 ⟨fun entry member => ?_, ascending⟩
      rcases List.mem_cons.1 member with rfl | member
      · exact before
      · exact UInt64.lt_trans before (above entry member)
    · split
      · rename_i same
        exact List.pairwise_cons.2 ⟨fun entry member => same ▸ above entry member, ascendingRest⟩
      · rename_i notBefore different
        refine List.pairwise_cons.2 ⟨fun entry member => ?_, ih ascendingRest⟩
        rcases fst_of_mem_insertEntry member with same | member
        · have : id.val ≠ head.1.val := fun equal => different (by cases id; simp_all)
          rw [same]
          exact UInt64.lt_of_le_of_ne (UInt64.not_lt.1 notBefore) this.symm
        · exact above entry member

end IdMap

structure IdMap (entity : Entity) (α : Type) where
  entries : List (Id entity × α) := []
  ascending : IdMap.Ascending entries := by exact List.Pairwise.nil
  deriving Repr

namespace IdMap

variable {entity : Entity} {α β : Type}

instance : Inhabited (IdMap entity α) := ⟨{}⟩

def find? (map : IdMap entity α) (id : Id entity) : Option α :=
  (map.entries.find? (·.1 = id)).map (·.2)

def contains (map : IdMap entity α) (id : Id entity) : Bool := (map.find? id).isSome

def insert (map : IdMap entity α) (id : Id entity) (value : α) : IdMap entity α where
  entries := insertEntry id value map.entries
  ascending := ascending_insertEntry id value map.ascending

def filter (map : IdMap entity α) (keep : Id entity × α → Bool) : IdMap entity α where
  entries := map.entries.filter keep
  ascending := map.ascending.filter keep

def erase (map : IdMap entity α) (id : Id entity) : IdMap entity α := map.filter (·.1 ≠ id)

def values (map : IdMap entity α) : List α := map.entries.map (·.2)

def size (map : IdMap entity α) : Nat := map.entries.length

def insertAll (map : IdMap entity α) (entries : List (Id entity × α)) : IdMap entity α :=
  entries.foldl (fun map entry => map.insert entry.1 entry.2) map

def modify (map : IdMap entity α) (id : Id entity) (change : α → α) : IdMap entity α :=
  match map.find? id with
  | some value => map.insert id (change value)
  | none => map

/-- The same identifiers with pairwise equal values, for a given equality of values. -/
def sameBy (equal : α → α → Bool) (left right : IdMap entity α) : Bool :=
  left.size == right.size &&
    (left.entries.zip right.entries).all fun (a, b) => a.1 == b.1 && equal a.2 b.2

end IdMap
end Tabula
