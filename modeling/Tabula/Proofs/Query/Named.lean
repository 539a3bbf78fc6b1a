import Tabula.Proofs.Predicate.Columns
import Tabula.Proofs.Query.Filter

/-! The fields that filters and orderings name once they are built: only those that may be named. -/
namespace Tabula.Schema

variable {schema : Schema} {only : Option (List FieldId)} {id : FieldId}

theorem columns_of_keyPredicate? {key : FilterKey} {value : FilterValue} {part : Predicate}
    (done : schema.keyPredicate? only key value = .ok (some part)) {named : ColumnKey}
    (member : named ∈ part.columns) :
    ∃ target column, schema.Addresses only target column ∧ column.key = named := by
  unfold keyPredicate? at done
  obtain ⟨column, found, done⟩ := bind_eq_ok.1 done
  obtain ⟨op, _, done⟩ := bind_eq_ok.1 done
  obtain ⟨tests, _, done⟩ := bind_eq_ok.1 done
  split at done
  · cases done
  · cases done
    obtain ⟨part, inside, tested⟩ := Predicate.mem_columns_any member
    obtain ⟨test, _, rfl⟩ := List.mem_map.1 inside
    have addresses := filterColumn_eq_ok.1 (mapError_eq_ok.1 found)
    exact ⟨key.target, column, addresses, (List.mem_singleton.1 tested).symm⟩

theorem mem_columns_combine {parts : List Predicate} {mode : FilterMode} {named : ColumnKey}
    (member : named ∈ (combine parts mode).columns) : ∃ part ∈ parts, named ∈ part.columns := by
  cases mode with
  | and => exact Predicate.mem_columns_all member
  | or =>
    unfold combine at member
    dsimp only at member
    split at member
    · cases member
    · exact Predicate.mem_columns_any member

/-- A restriction tests fields that the schema lets filters name, and no others. -/
theorem queryable_of_filterPredicate {filters : FilterObject} {mode : String} {predicate : Predicate}
    (done : schema.filterPredicate only filters mode = .ok predicate)
    (member : .field id ∈ predicate.columns) :
    schema.isQueryable id = true ∧ allowedBy only id = true := by
  have started := done
  unfold filterPredicate at started
  obtain ⟨read, known, _⟩ := bind_eq_ok.1 started
  rw [filterPredicate_eq (mapError_eq_ok.1 known), map_eq_ok] at done
  obtain ⟨parts, made, rfl⟩ := done
  obtain ⟨part, inside, named⟩ := mem_columns_combine member
  obtain ⟨_, among, rfl⟩ := List.mem_filterMap.1 inside
  obtain ⟨entry, _, built⟩ := (mem_of_mapM_eq_ok made).1 among
  obtain ⟨target, column, addresses, same⟩ := columns_of_keyPredicate? built named
  cases addresses with
  | field found queryable allowed =>
    cases same
    exact ⟨queryable, allowed⟩
  | system column => cases same

theorem queryable_of_readTerm {term : List Char} {read : OrderTerm}
    (done : schema.readTerm only term = .ok read) :
    schema.isQueryable read.field = true ∧ allowedBy only read.field = true := by
  unfold readTerm at done
  dsimp only at done
  split at done
  · cases done
  · split at done
    · cases done
    · rename_i allowed
      split at done
      · cases done
      · cases done
        simpa using allowed

theorem queryable_of_readOrder {order : String} {terms : List OrderTerm}
    (done : schema.readOrder only order = .ok terms) :
    ∀ term ∈ terms, schema.isQueryable term.field = true ∧ allowedBy only term.field = true := by
  intro term member
  unfold readOrder at done
  split at done
  · cases done
  · obtain ⟨_, _, read⟩ := (mem_of_mapM_eq_ok done).1 member
    exact queryable_of_readTerm read

end Tabula.Schema
