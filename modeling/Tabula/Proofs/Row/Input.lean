import Tabula.Proofs.Schema.Compose
import Tabula.Row.Input

/-! Which cells a write can be given. -/
namespace Tabula.Schema

variable {schema : Schema}

theorem keyed?_mem {key : CellKey} {column : Column} (found : schema.keyed? key = some column) :
    column ∈ schema.columns := by
  cases key with
  | name written => exact resolve?_mem found
  | field id => exact (column?_mem found).1

/-- A cell is taken if its key names a column without a formula and the value has a canonical form. -/
theorem resolveCell_eq_ok {key : CellKey} {content value : Value} {id : FieldId} :
    schema.resolveCell (key, content) = .ok (id, value) ↔
      ∃ column, schema.keyed? key = some column ∧ column.field.kind.isComputed = false ∧
        column.field.normalize content = .ok value ∧ column.id = id := by
  unfold resolveCell
  dsimp only
  rw [bind_eq_ok]
  constructor
  · intro given
    obtain ⟨column, found, taken⟩ := given
    have known : schema.keyed? key = some column := by
      cases keyed : schema.keyed? key with
      | none => simp [keyed, orError] at found
      | some other => simpa [keyed, orError] using found
    cases computed : column.field.kind.isComputed with
    | true =>
      rw [if_pos computed] at taken
      cases taken
    | false =>
      rw [if_neg (by rw [computed]; decide)] at taken
      split at taken
      · rename_i canonical normal
        cases taken
        exact ⟨column, known, computed, normal, rfl⟩
      · cases taken
      · cases taken
  · intro given
    obtain ⟨column, known, stored, normal, rfl⟩ := given
    refine ⟨column, by rw [known]; rfl, ?_⟩
    rw [if_neg (by rw [stored]; decide), normal]
    rfl

theorem stored_of_resolveCells {given : List (CellKey × Value)} {taken : List (FieldId × Value)}
    (done : schema.resolveCells given = .ok taken) {id : FieldId}
    (member : id ∈ taken.map Prod.fst) :
    ∃ column ∈ schema.columns, column.id = id ∧ column.field.kind.isComputed = false := by
  obtain ⟨⟨_, value⟩, inside, rfl⟩ := List.mem_map.1 member
  obtain ⟨cell, _, here⟩ := exists_of_mem_of_forall₂ (mapM_eq_ok.1 done) inside
  obtain ⟨column, found, stored, _, same⟩ := resolveCell_eq_ok.1 here
  exact ⟨column, keyed?_mem found, same, stored⟩

end Tabula.Schema
