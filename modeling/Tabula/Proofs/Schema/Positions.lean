import Mathlib.Data.List.Induction
import Tabula.Schema.Basic

/-! Columns looked up by the positions at which they stand. -/
namespace Tabula

/-- At the position stands a column with the key. -/
def Column.StandsAt {κ : Type} (key : Column → κ) (columns : List Column) (wanted : κ)
    (position : Nat) : Prop :=
  ∃ column, columns[position]? = some column ∧ key column = wanted

theorem mem_of_lookup {κ α : Type} [BEq κ] [LawfulBEq κ] {entries : List (κ × α)} {key : κ}
    {value : α} (found : entries.lookup key = some value) : (key, value) ∈ entries := by
  obtain ⟨before, after, rfl, _⟩ := List.lookup_eq_some_iff.1 found
  simp

section
variable {κ : Type} {key : Column → κ} {columns : List Column} {wanted : κ} {position : Nat}

theorem Column.StandsAt.lt_length (stands : Column.StandsAt key columns wanted position) :
    position < columns.length := by
  obtain ⟨column, found, _⟩ := stands
  exact (List.getElem?_eq_some_iff.1 found).1

theorem Column.standsAt_append_singleton {last : Column} :
    Column.StandsAt key (columns ++ [last]) wanted position ↔
      (wanted, position) = (key last, columns.length) ∨
        Column.StandsAt key columns wanted position := by
  constructor
  · intro stands
    obtain ⟨column, found, same⟩ := stands
    rcases Nat.lt_or_ge position columns.length with before | behind
    · rw [List.getElem?_append_left before] at found
      exact .inr ⟨column, found, same⟩
    · rw [List.getElem?_append_right behind, List.getElem?_singleton] at found
      split at found
      · cases found
        have behindAll : position = columns.length := by omega
        exact .inl (Prod.ext same.symm behindAll)
      · cases found
  · intro given
    rcases given with new | stands
    · cases new
      exact ⟨last, List.getElem?_concat_length, rfl⟩
    · have kept : (columns ++ [last])[position]? = columns[position]? :=
        List.getElem?_append_left stands.lt_length
      obtain ⟨column, found, same⟩ := stands
      exact ⟨column, kept.trans found, same⟩

theorem lastPositions_append_singleton (key : Column → κ) (columns : List Column) (last : Column) :
    lastPositions key (columns ++ [last]) =
      (key last, columns.length) :: lastPositions key columns := by
  simp [lastPositions, List.zipIdx_append]

theorem mem_lastPositions :
    (wanted, position) ∈ lastPositions key columns ↔ Column.StandsAt key columns wanted position := by
  -- from behind, as the positions grow at the head while the columns grow at the end
  induction columns using List.reverseRecOn with
  | nil => simp [lastPositions, Column.StandsAt]
  | append_singleton front last ih =>
    rw [lastPositions_append_singleton, List.mem_cons, ih, Column.standsAt_append_singleton]

/-- The position that is found for a key is that of the last column with it. -/
theorem getElem?_lastPositions [BEq κ] [LawfulBEq κ] (key : Column → κ) (columns : List Column)
    (wanted : κ) :
    ((lastPositions key columns).lookup wanted).bind (columns[·]?) =
      columns.reverse.find? (key · == wanted) := by
  induction columns using List.reverseRecOn with
  | nil => rfl
  | append_singleton front last ih =>
    rw [lastPositions_append_singleton, List.lookup_cons, List.reverse_append]
    by_cases same : key last = wanted
    · simp [same]
    · have unlike : (wanted == key last) = false := by simpa using Ne.symm same
      rw [unlike]
      dsimp only
      rw [List.reverse_singleton, List.singleton_append, List.find?_cons_of_neg (by simpa using same),
        ← ih]
      -- what is found stands before the last column
      cases found : (lastPositions key front).lookup wanted with
      | none => rfl
      | some position =>
        have stands := mem_lastPositions.1 (mem_of_lookup found)
        exact List.getElem?_append_left stands.lt_length

section
variable [BEq κ]

theorem firstPositions_append_singleton (key : Column → κ) (columns : List Column) (last : Column) :
    firstPositions key (columns ++ [last]) =
      if ((firstPositions key columns).lookup (key last)).isSome then firstPositions key columns
      else (key last, columns.length) :: firstPositions key columns := by
  unfold firstPositions
  rw [List.zipIdx_append, List.foldl_append, Nat.zero_add]
  rfl

theorem standsAt_of_mem_firstPositions (member : (wanted, position) ∈ firstPositions key columns) :
    Column.StandsAt key columns wanted position := by
  induction columns using List.reverseRecOn with
  | nil => cases member
  | append_singleton front last ih =>
    rw [firstPositions_append_singleton] at member
    rw [Column.standsAt_append_singleton]
    split at member
    · exact .inr (ih member)
    · rcases List.mem_cons.1 member with new | earlier
      · exact .inl new
      · exact .inr (ih earlier)

variable [LawfulBEq κ]

theorem lookup_firstPositions_append_singleton (key : Column → κ) (columns : List Column)
    (last : Column) (wanted : κ) :
    (firstPositions key (columns ++ [last])).lookup wanted =
      ((firstPositions key columns).lookup wanted).or
        (if key last == wanted then some columns.length else none) := by
  rw [firstPositions_append_singleton]
  by_cases same : key last = wanted
  · subst same
    cases earlier : (firstPositions key columns).lookup (key last) with
    | some position => simp [earlier]
    | none => simp
  · have unlike : (wanted == key last) = false := by simpa using Ne.symm same
    split <;> simp [List.lookup_cons, unlike, same]

theorem getElem?_firstPositions (key : Column → κ) (columns : List Column) (wanted : κ) :
    ((firstPositions key columns).lookup wanted).bind (columns[·]?) =
      columns.find? (key · == wanted) := by
  induction columns using List.reverseRecOn with
  | nil => rfl
  | append_singleton front last ih =>
    rw [List.find?_append, ← ih, lookup_firstPositions_append_singleton]
    cases found : (firstPositions key front).lookup wanted with
    | some position =>
      have stands := standsAt_of_mem_firstPositions (mem_of_lookup found)
      have kept : (front ++ [last])[position]? = front[position]? :=
        List.getElem?_append_left stands.lt_length
      obtain ⟨column, here, _⟩ := stands
      simp [kept, here]
    | none =>
      by_cases same : key last = wanted <;> simp [same]

end
end

/-- Look-ups that come to one field find no column, or two that differ in their names at most. -/
theorem Column.cases_of_map_field {left right : Option Column}
    (same : left.map Column.field = right.map Column.field) :
    (left = none ∧ right = none) ∨
      ∃ column name, left = some column ∧ right = some ⟨column.field, name⟩ := by
  cases left with
  | none => exact .inl ⟨rfl, Option.map_eq_none_iff.1 same.symm⟩
  | some column =>
    obtain ⟨⟨field, name⟩, found, rfl⟩ := Option.map_eq_some_iff.1 same.symm
    exact .inr ⟨column, name, rfl, found⟩

namespace Schema

variable {schema : Schema} {column : Column}

theorem named?_eq (schema : Schema) (name : String) :
    schema.named? name = schema.columns.find? (·.field.name = name) :=
  getElem?_firstPositions _ _ _

theorem column?_eq (schema : Schema) (id : FieldId) :
    schema.column? id = schema.columns.reverse.find? (·.id = id) :=
  getElem?_lastPositions _ _ _

section
variable {κ : Type} [BEq κ] [LawfulBEq κ] {key : Column → κ} {wanted : κ}

theorem of_columnAt? (found : schema.columnAt? ((lastPositions key schema.columns).lookup wanted) =
    some column) : column ∈ schema.columns ∧ key column = wanted := by
  obtain ⟨position, known, here⟩ := Option.bind_eq_some_iff.1 found
  obtain ⟨other, stands, same⟩ := mem_lastPositions.1 (mem_of_lookup known)
  rw [here] at stands
  cases stands
  exact ⟨List.mem_of_getElem? here, same⟩

theorem isSome_columnAt? (key : Column → κ) (wanted : κ) :
    (schema.columnAt? ((lastPositions key schema.columns).lookup wanted)).isSome =
      ((lastPositions key schema.columns).lookup wanted).isSome := by
  cases known : (lastPositions key schema.columns).lookup wanted with
  | none => rfl
  | some position =>
    obtain ⟨other, stands, _⟩ := mem_lastPositions.1 (mem_of_lookup known)
    simp [columnAt?, stands]

end
end Schema
end Tabula
