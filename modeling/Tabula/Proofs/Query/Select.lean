import Mathlib.Data.List.Perm.Basic
import Tabula.Proofs.Query.Order
import Tabula.Query.Basic

/-! The rows that a query gives of a store: one list and no other. -/
namespace Tabula.Query

variable {query : Query} {stored : List Row}

/-- A list of the stored rows that a query accepts, each once, in the strict order of the query. -/
structure Lists (query : Query) (stored answer : List Row) : Prop where
  mem_iff : ∀ row, row ∈ answer ↔ row ∈ stored ∧ query.accepts row = true
  ascending : answer.Pairwise (query.schema.Precedes query.terms)

theorem Lists.nodup {answer : List Row} (lists : query.Lists stored answer) : answer.Nodup := by
  refine lists.ascending.imp ?_
  intro left right before same
  rw [same] at before
  exact Schema.precedes_irrefl _ _ before

theorem Lists.unique {left right : List Row} (first : query.Lists stored left)
    (second : query.Lists stored right) : left = right := by
  have permuted : left.Perm right := by
    rw [List.perm_ext_iff_of_nodup first.nodup second.nodup]
    intro row
    rw [first.mem_iff, second.mem_iff]
  refine permuted.eq_of_pairwise ?_ first.ascending second.ascending
  intro one other _ _ before behind
  exact absurd (Schema.precedes_trans before behind) (Schema.precedes_irrefl _ _)

theorem select_eq (query : Query) (stored : List Row) :
    query.select stored = (stored.filter query.accepts).mergeSort fun left right =>
      (query.schema.compareRows query.terms left right).isLE := by
  have carried : ((stored.filter query.accepts).mergeSort fun left right =>
      (query.schema.compareRows query.terms left right).isLE).map query.keyed =
        ((stored.filter query.accepts).map query.keyed).mergeSort fun left right =>
          (compareKeyed query.terms left right).isLE :=
    List.map_mergeSort fun _ _ _ _ => rfl
  unfold select
  rw [← carried, List.map_map]
  exact List.map_id _

theorem mem_select (query : Query) (stored : List Row) (row : Row) :
    row ∈ query.select stored ↔ row ∈ stored ∧ query.accepts row = true := by
  rw [select_eq, List.mem_mergeSort, List.mem_filter]

theorem length_select (query : Query) (stored : List Row) :
    (query.select stored).length = query.count stored := by
  rw [select_eq, List.length_mergeSort, ← List.countP_eq_length_filter]
  rfl

theorem select_ascending (query : Query) (distinct : (stored.map Row.id).Nodup) :
    (query.select stored).Pairwise (query.schema.Precedes query.terms) := by
  have sorted : (query.select stored).Pairwise fun left right =>
      (query.schema.compareRows query.terms left right).isLE = true := by
    rw [select_eq]
    apply List.pairwise_mergeSort
    · intro first second third
      exact Std.TransCmp.isLE_trans
    · intro left right
      cases found : query.schema.compareRows query.terms left right with
      | lt => rfl
      | eq => rfl
      | gt =>
        rw [Std.OrientedCmp.lt_of_gt found]
        rfl
  have apart : (query.select stored).Pairwise fun left right => left.id ≠ right.id := by
    rw [select_eq, (List.mergeSort_perm _ _).pairwise_iff fun different => different.symm]
    exact (List.pairwise_map.1 distinct).filter _
  refine (sorted.and apart).imp ?_
  intro left right given
  obtain ⟨notAfter, different⟩ := given
  rw [Schema.precedes_iff]
  cases found : query.schema.compareRows query.terms left right with
  | lt => rfl
  | eq => exact absurd (Schema.id_of_compareRows_eq found) different
  | gt => rw [found] at notAfter; cases notAfter

theorem lists_select (query : Query) (distinct : (stored.map Row.id).Nodup) :
    query.Lists stored (query.select stored) where
  mem_iff := mem_select query stored
  ascending := select_ascending query distinct

/-- What decides where a row stands in a result, and the row's identifier. -/
abbrev Place := List SortKey × Decimal × RowId

def place (query : Query) (row : Row) : Place :=
  (query.schema.orderKeys query.terms row, row.order, row.id)

def comparePlaces (terms : List OrderTerm) (left right : Place) : Ordering :=
  (compareKeys terms left.1 right.1).then
    ((left.2.1.compare right.2.1).then (left.2.2.compare right.2.2))

/-- Which rows are given, and in which order, depends on the places of the accepted rows alone. -/
theorem map_id_select (query : Query) (stored : List Row) :
    (query.select stored).map Row.id =
      ((((stored.filter query.accepts).map query.place).mergeSort fun left right =>
        (comparePlaces query.terms left right).isLE).map (·.2.2)) := by
  have placed : ((stored.filter query.accepts).mergeSort fun left right =>
      (query.schema.compareRows query.terms left right).isLE).map query.place =
        ((stored.filter query.accepts).map query.place).mergeSort fun left right =>
          (comparePlaces query.terms left right).isLE :=
    List.map_mergeSort fun _ _ _ _ => rfl
  rw [← placed, List.map_map, select_eq]
  rfl

end Tabula.Query
