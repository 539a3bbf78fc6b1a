import Mathlib.Data.List.Induction
import Mathlib.Data.List.Nodup
import Tabula.IdMap

/-! What a map holds after entries were put in or taken out. -/
namespace Tabula.IdMap

variable {entity : Entity} {α : Type}

theorem find?_insertEntry (id key : Id entity) (value : α) (entries : List (Id entity × α)) :
    (insertEntry id value entries).find? (·.1 = key) =
      if key = id then some (id, value) else entries.find? (·.1 = key) := by
  induction entries with
  | nil => grind [insertEntry]
  | cons entry rest ih =>
    unfold insertEntry
    split
    · grind
    · split
      · grind
      · rw [List.find?_cons, ih]
        grind

@[simp] theorem find?_insert (map : IdMap entity α) (id key : Id entity) (value : α) :
    (map.insert id value).find? key = if key = id then some value else map.find? key := by
  unfold find? insert
  rw [find?_insertEntry]
  split <;> rfl

theorem find?_insert_self (map : IdMap entity α) (id : Id entity) (value : α) :
    (map.insert id value).find? id = some value := by
  rw [find?_insert, if_pos rfl]

theorem find?_insert_of_ne (map : IdMap entity α) {id key : Id entity} (value : α)
    (different : key ≠ id) : (map.insert id value).find? key = map.find? key := by
  rw [find?_insert, if_neg different]

theorem of_find?_insert {map : IdMap entity α} {id key : Id entity} {value given : α}
    (found : (map.insert id value).find? key = some given) :
    (key = id ∧ given = value) ∨ map.find? key = some given := by
  rw [find?_insert] at found
  split at found
  · cases found
    exact .inl ⟨‹_›, rfl⟩
  · exact .inr found

@[simp] theorem find?_empty (key : Id entity) : ({} : IdMap entity α).find? key = none := rfl

theorem find?_filter (map : IdMap entity α) (keep : Id entity → Bool) (key : Id entity) :
    (map.filter fun entry => keep entry.1).find? key = if keep key then map.find? key else none := by
  unfold filter find?
  rw [List.find?_filter]
  split
  · rename_i kept
    congr 2
    funext entry
    grind
  · rename_i dropped
    rw [Option.map_eq_none_iff, List.find?_eq_none]
    intro entry _
    grind

theorem find?_erase (map : IdMap entity α) (id key : Id entity) :
    (map.erase id).find? key = if key = id then none else map.find? key := by
  have filtered := find?_filter map (fun other => decide (other ≠ id)) key
  unfold erase
  rw [filtered]
  grind

theorem of_find?_erase {map : IdMap entity α} {id key : Id entity} {given : α}
    (found : (map.erase id).find? key = some given) : key ≠ id ∧ map.find? key = some given := by
  rw [find?_erase] at found
  split at found
  · cases found
  · exact ⟨‹_›, found⟩

/-- Of the entries for an identifier the last is found. -/
theorem find?_insertAll (map : IdMap entity α) (entries : List (Id entity × α)) (key : Id entity) :
    (map.insertAll entries).find? key =
      ((entries.filter (·.1 = key)).getLast?.map Prod.snd).or (map.find? key) := by
  induction entries using List.reverseRecOn with
  | nil => rfl
  | append_singleton front last ih =>
    have pushed : map.insertAll (front ++ [last]) = (map.insertAll front).insert last.1 last.2 := by
      simp [insertAll]
    rw [pushed, find?_insert, List.filter_append]
    split
    · rename_i same
      simp [same]
    · rename_i different
      simp [Ne.symm different, ih]

theorem of_find?_insertAll {map : IdMap entity α} {entries : List (Id entity × α)}
    {key : Id entity} {value : α} (found : (map.insertAll entries).find? key = some value) :
    (key, value) ∈ entries ∨ map.find? key = some value := by
  rw [find?_insertAll, Option.or_eq_some_iff] at found
  rcases found with given | ⟨_, earlier⟩
  · obtain ⟨⟨id, _⟩, last, rfl⟩ := Option.map_eq_some_iff.1 given
    obtain ⟨member, same⟩ := List.mem_filter.1 (List.mem_of_getLast? last)
    have own : id = key := by simpa using same
    subst own
    exact .inl member
  · exact .inr earlier

theorem find?_insertAll_of_not_mem (map : IdMap entity α) {entries : List (Id entity × α)}
    {key : Id entity} (absent : key ∉ entries.map Prod.fst) :
    (map.insertAll entries).find? key = map.find? key := by
  have none : entries.filter (·.1 = key) = [] := by
    rw [List.filter_eq_nil_iff]
    intro entry member same
    exact absent (List.mem_map.2 ⟨entry, member, by simpa using same⟩)
  rw [find?_insertAll, none]
  rfl

theorem isSome_find?_insertAll (map : IdMap entity α) (entries : List (Id entity × α))
    (key : Id entity) :
    ((map.insertAll entries).find? key).isSome = true ↔
      key ∈ entries.map Prod.fst ∨ (map.find? key).isSome = true := by
  rw [find?_insertAll]
  simp

theorem find?_insertAll_of_mem {entries : List (Id entity × α)} {entry : Id entity × α}
    (map : IdMap entity α) (distinct : (entries.map Prod.fst).Nodup) (member : entry ∈ entries) :
    (map.insertAll entries).find? entry.1 = some entry.2 := by
  have inside : entry ∈ entries.filter (·.1 = entry.1) := List.mem_filter.2 ⟨member, by simp⟩
  obtain ⟨last, found⟩ := Option.isSome_iff_exists.1
    (List.getLast?_isSome.2 (List.ne_nil_of_mem inside))
  obtain ⟨among, same⟩ := List.mem_filter.1 (List.mem_of_getLast? found)
  have one : last = entry :=
    List.inj_on_of_nodup_map distinct among member (by simpa using same)
  rw [find?_insertAll, found, one]
  rfl

theorem find?_of_mem {map : IdMap entity α} {entry : Id entity × α} (member : entry ∈ map.entries) :
    (map.find? entry.1).isSome = true := by
  unfold find?
  rw [Option.isSome_map, List.find?_isSome]
  exact ⟨entry, member, by simp⟩

theorem mem_ids_iff {map : IdMap entity α} {key : Id entity} :
    key ∈ map.entries.map Prod.fst ↔ (map.find? key).isSome = true := by
  constructor
  · intro member
    obtain ⟨entry, inside, rfl⟩ := List.mem_map.1 member
    exact find?_of_mem inside
  · intro found
    unfold find? at found
    rw [Option.isSome_map, List.find?_isSome] at found
    obtain ⟨entry, inside, same⟩ := found
    exact List.mem_map.2 ⟨entry, inside, by simpa using same⟩

theorem nodup_ids (map : IdMap entity α) : (map.entries.map Prod.fst).Nodup := by
  rw [List.Nodup, List.pairwise_map]
  refine map.ascending.imp ?_
  intro left right below same
  rw [same] at below
  exact UInt64.lt_irrefl _ below

theorem mem_entries_iff {map : IdMap entity α} {key : Id entity} {value : α} :
    (key, value) ∈ map.entries ↔ map.find? key = some value := by
  unfold find?
  rw [Option.map_eq_some_iff]
  constructor
  · intro member
    have found := find?_of_mem member
    unfold find? at found
    rw [Option.isSome_map, Option.isSome_iff_exists] at found
    obtain ⟨entry, first⟩ := found
    have same : entry.1 = key := by simpa using List.find?_some first
    have one : entry = (key, value) :=
      List.inj_on_of_nodup_map map.nodup_ids (List.mem_of_find?_eq_some first) member same
    exact ⟨entry, first, by rw [one]⟩
  · intro found
    obtain ⟨⟨id, _⟩, first, rfl⟩ := found
    have same : id = key := by simpa using List.find?_some first
    subst same
    exact List.mem_of_find?_eq_some first

/-- A map is what is found in it. -/
theorem ext_find? {left right : IdMap entity α} (same : ∀ key, left.find? key = right.find? key) :
    left = right := by
  have nodup (map : IdMap entity α) : map.entries.Nodup := map.nodup_ids.of_map _
  have perm : left.entries.Perm right.entries := by
    rw [List.perm_ext_iff_of_nodup (nodup left) (nodup right)]
    intro entry
    obtain ⟨key, value⟩ := entry
    rw [mem_entries_iff, mem_entries_iff, same]
  have equal : left.entries = right.entries := by
    refine perm.eq_of_pairwise ?_ left.ascending right.ascending
    intro first second _ _ before behind
    exact absurd (UInt64.lt_trans before behind) (UInt64.lt_irrefl _)
  obtain ⟨entries, _⟩ := left
  obtain ⟨others, _⟩ := right
  cases equal
  rfl

theorem find?_filter_eq_some_iff {map : IdMap entity α} {keep : Id entity × α → Bool}
    {key : Id entity} {value : α} :
    (map.filter keep).find? key = some value ↔ map.find? key = some value ∧ keep (key, value) = true := by
  rw [← mem_entries_iff, ← mem_entries_iff]
  exact List.mem_filter

theorem mem_values_iff {map : IdMap entity α} {value : α} :
    value ∈ map.values ↔ ∃ key, map.find? key = some value := by
  unfold values
  rw [List.mem_map]
  constructor
  · rintro ⟨⟨key, _⟩, member, rfl⟩
    exact ⟨key, mem_entries_iff.1 member⟩
  · rintro ⟨key, found⟩
    exact ⟨(key, value), mem_entries_iff.2 found, rfl⟩

theorem map_values {β : Type} (map : IdMap entity α) (absent : α) (read : α → β) :
    map.values.map read = (map.entries.map Prod.fst).map fun id => read ((map.find? id).getD absent) := by
  unfold values
  rw [List.map_map, List.map_map]
  apply List.map_congr_left
  intro entry member
  have found : map.find? entry.1 = some entry.2 := mem_entries_iff.1 member
  simp [found]

theorem insertEntry_of_find? {id : Id entity} {value : α} {entries : List (Id entity × α)}
    (ascending : Ascending entries) (found : entries.find? (·.1 = id) = some (id, value)) :
    insertEntry id value entries = entries := by
  induction entries with
  | nil => cases found
  | cons entry rest ih =>
    obtain ⟨above, ascendingRest⟩ := List.pairwise_cons.1 ascending
    have member := List.mem_of_find?_eq_some found
    unfold insertEntry
    split
    · rename_i before
      rcases List.mem_cons.1 member with rfl | later
      · exact absurd before (UInt64.lt_irrefl _)
      · exact absurd (UInt64.lt_trans before (above _ later)) (UInt64.lt_irrefl _)
    · split
      · rename_i same
        rw [List.find?_cons_of_pos (by simpa using same.symm)] at found
        cases found
        rfl
      · rename_i different
        rw [List.find?_cons_of_neg (by simpa using Ne.symm different)] at found
        rw [ih ascendingRest found]

theorem insert_of_find? {map : IdMap entity α} {id : Id entity} {value : α}
    (found : map.find? id = some value) : map.insert id value = map := by
  obtain ⟨entries, ascending⟩ := map
  obtain ⟨⟨other, _⟩, first, rfl⟩ := Option.map_eq_some_iff.1 found
  have same : other = id := by simpa using List.find?_some first
  subst same
  unfold insert
  simp only [insertEntry_of_find? ascending first]

theorem insertAll_of_find? {map : IdMap entity α} {entries : List (Id entity × α)}
    (found : ∀ entry ∈ entries, map.find? entry.1 = some entry.2) : map.insertAll entries = map := by
  induction entries with
  | nil => rfl
  | cons entry rest ih =>
    obtain ⟨here, later⟩ := List.forall_mem_cons.1 found
    change (map.insert entry.1 entry.2).insertAll rest = map
    rw [insert_of_find? here, ih later]

theorem filter_of_all {map : IdMap entity α} {keep : Id entity × α → Bool}
    (all : ∀ entry ∈ map.entries, keep entry = true) : map.filter keep = map := by
  obtain ⟨entries, ascending⟩ := map
  unfold filter
  simp only [List.filter_eq_self.2 all]

theorem sameBy_self {equal : α → α → Bool} (reflexive : ∀ value, equal value value = true)
    (map : IdMap entity α) : map.sameBy equal map = true := by
  unfold sameBy
  generalize map.entries = entries
  simp only [beq_self_eq_true, Bool.true_and]
  induction entries with
  | nil => rfl
  | cons entry rest ih => simp [reflexive, ih]

theorem map_fst_of_zip {equal : α → α → Bool} {left right : List (Id entity × α)}
    (length : left.length = right.length)
    (same : (left.zip right).all (fun (a, b) => a.1 == b.1 && equal a.2 b.2) = true) :
    left.map Prod.fst = right.map Prod.fst := by
  induction left generalizing right with
  | nil => rw [List.eq_nil_of_length_eq_zero length.symm]
  | cons entry rest ih =>
    cases right with
    | nil => cases length
    | cons other others =>
      rw [List.zip_cons_cons, List.all_cons, Bool.and_eq_true, Bool.and_eq_true, beq_iff_eq] at same
      obtain ⟨⟨first, _⟩, later⟩ := same
      rw [List.map_cons, List.map_cons, first, ih (Nat.succ.inj length) later]

theorem isSome_of_sameBy {equal : α → α → Bool} {left right : IdMap entity α}
    (same : left.sameBy equal right = true) (key : Id entity) :
    (left.find? key).isSome = true ↔ (right.find? key).isSome = true := by
  unfold sameBy at same
  rw [Bool.and_eq_true, beq_iff_eq] at same
  rw [← mem_ids_iff, ← mem_ids_iff, map_fst_of_zip same.1 same.2]

/-- Gives an identifier the value that it had in an earlier map, or none. -/
def restore (earlier map : IdMap entity α) (id : Id entity) : IdMap entity α :=
  match earlier.find? id with
  | some value => map.insert id value
  | none => map.erase id

def restoreAll (earlier map : IdMap entity α) (ids : List (Id entity)) : IdMap entity α :=
  ids.foldl (restore earlier) map

theorem find?_restore (earlier map : IdMap entity α) (id key : Id entity) :
    (restore earlier map id).find? key = if key = id then earlier.find? key else map.find? key := by
  unfold restore
  split
  · rw [find?_insert]
    grind
  · rw [find?_erase]
    grind

theorem find?_restoreAll (earlier map : IdMap entity α) (ids : List (Id entity)) (key : Id entity) :
    (restoreAll earlier map ids).find? key =
      if key ∈ ids then earlier.find? key else map.find? key := by
  induction ids generalizing map with
  | nil => rfl
  | cons id rest ih =>
    have later := ih (restore earlier map id)
    rw [find?_restore] at later
    rw [restoreAll, List.foldl_cons, ← restoreAll, later]
    grind

end Tabula.IdMap
