import Tabula.Proofs.Except
import Tabula.Proofs.Formula.Reads
import Tabula.Proofs.IdMap
import Tabula.Row.Computed

/-!
The pass that computes the formula cells of a row: one column after the other, where each formula
meets the results of those before it.
-/
namespace Tabula

/-- The cell that a formula leaves over a row: null where its source or its evaluation fails. -/
def formulaCell (schema : Schema) (row : RowId) (cells : Cells) (source : String)
    (result : ResultType) : Except Fault Value :=
  match formulaValue schema row cells source result with
  | .ok value => .ok value
  | .error (.error _) => .ok .null
  | .error (.fault fault) => .error fault

def formulaIds (columns : List Column) : List FieldId :=
  (columns.filter (·.field.kind.isComputed)).map Column.id

theorem not_mem_formulaIds_cons {column : Column} {rest : List Column} {id : FieldId} :
    id ∉ formulaIds (column :: rest) ↔
      (column.field.kind.isComputed = true → id ≠ column.id) ∧ id ∉ formulaIds rest := by
  unfold formulaIds
  rw [List.filter_cons]
  split
  · rename_i computed
    simp [computed]
  · rename_i stored
    simp [stored]

theorem mem_ids_of_mem_formulaIds {columns : List Column} {id : FieldId}
    (member : id ∈ formulaIds columns) : id ∈ columns.map Column.id := by
  obtain ⟨column, inside, same⟩ := List.mem_map.1 member
  exact List.mem_map.2 ⟨column, (List.mem_filter.1 inside).1, same⟩

theorem mem_formulaIds_append_right {front behind : List Column} {id : FieldId}
    (member : id ∈ formulaIds behind) : id ∈ formulaIds (front ++ behind) := by
  unfold formulaIds at member ⊢
  rw [List.filter_append, List.map_append]
  exact List.mem_append_right _ member

variable {schema : Schema} {row : RowId}

theorem formulaValue_of_parse {source : String} {expr : Formula.Expr}
    (parsed : Formula.parse source = .ok expr) (schema : Schema) (row : RowId) (cells : Cells)
    (result : ResultType) :
    formulaValue schema row cells source result =
      expr.evaluate (formulaScope schema row cells) result := by
  unfold formulaValue
  rw [parsed]
  rfl

theorem formulaValue_congr {left right : Cells} {source : String} (result : ResultType)
    (fields : ∀ expr, Formula.parse source = .ok expr → ∀ name ∈ expr.fieldNames,
      ∀ column, schema.named? name = some column → left.find? column.id = right.find? column.id) :
    formulaValue schema row left source result = formulaValue schema row right source result := by
  unfold formulaValue
  cases parsed : Formula.parse source with
  | error error => rfl
  | ok expr =>
    change expr.evaluate _ result = expr.evaluate _ result
    refine Formula.evaluate_congr expr result (fun _ => rfl) ?_
    intro name used
    cases found : schema.named? name with
    | none => simp only [formulaScope, found, Option.map_none]
    | some column =>
      have same := fields expr parsed name used column found
      simp only [formulaScope, found, cellOf, same, Option.map_some]

theorem formulaCell_congr {left right : Cells} {source : String} (result : ResultType)
    (fields : ∀ expr, Formula.parse source = .ok expr → ∀ name ∈ expr.fieldNames,
      ∀ column, schema.named? name = some column → left.find? column.id = right.find? column.id) :
    formulaCell schema row left source result = formulaCell schema row right source result := by
  unfold formulaCell
  rw [formulaValue_congr result fields]

theorem computeColumn_of_stored {so : Computation} {column : Column}
    (stored : column.field.kind.isComputed = false) :
    computeColumn schema row so column = .ok so := by
  unfold computeColumn
  cases kind : column.field.kind with
  | stored type => rfl
  | computed source result => simp [kind, FieldKind.isComputed] at stored

/-- What a step can do at a formula: store its value, store null and warn, or break off. -/
theorem computeColumn_cases (schema : Schema) (row : RowId) {column : Column} {source : String}
    {result : ResultType} (kind : column.field.kind = .computed source result) (so : Computation) :
    (∃ value, formulaValue schema row so.cells source result = .ok value ∧
      computeColumn schema row so column =
        .ok ⟨so.cells.insert column.id value, so.computed + 1, so.warnings ++ []⟩) ∨
    (∃ error, formulaValue schema row so.cells source result = .error (.error error) ∧
      computeColumn schema row so column =
        .ok ⟨so.cells.insert column.id .null, so.computed + 1,
          so.warnings ++ [⟨schema.table, row, column.id, error⟩]⟩) ∨
    (∃ fault, formulaValue schema row so.cells source result = .error (.fault fault) ∧
      computeColumn schema row so column = .error ⟨fault, so.warnings⟩) := by
  unfold computeColumn
  rw [kind]
  dsimp only
  cases evaluated : formulaValue schema row so.cells source result with
  | ok value => exact .inl ⟨value, rfl, rfl⟩
  | error failure =>
    cases failure with
    | error error => exact .inr (.inl ⟨error, rfl, rfl⟩)
    | fault fault => exact .inr (.inr ⟨fault, rfl, rfl⟩)

theorem computeColumn_of_value {so : Computation} {column : Column} {source : String}
    {result : ResultType} {value : Value} (kind : column.field.kind = .computed source result)
    (given : formulaValue schema row so.cells source result = .ok value) :
    computeColumn schema row so column =
      .ok ⟨so.cells.insert column.id value, so.computed + 1, so.warnings ++ []⟩ := by
  unfold computeColumn
  rw [kind]
  dsimp only
  rw [given]

theorem cells_of_computeColumn {so next : Computation} {column : Column} {source : String}
    {result : ResultType} (kind : column.field.kind = .computed source result)
    (step : computeColumn schema row so column = .ok next) :
    ∃ value, formulaCell schema row so.cells source result = .ok value ∧
      next.cells = so.cells.insert column.id value := by
  unfold formulaCell
  rcases computeColumn_cases schema row kind so with
    ⟨value, evaluated, done⟩ | ⟨error, evaluated, done⟩ | ⟨fault, evaluated, done⟩
  · rw [step] at done
    cases done
    exact ⟨value, by rw [evaluated], rfl⟩
  · rw [step] at done
    cases done
    exact ⟨.null, by rw [evaluated], rfl⟩
  · rw [step] at done
    cases done

theorem find?_computeColumn {so next : Computation} {column : Column} {id : FieldId}
    (step : computeColumn schema row so column = .ok next)
    (other : column.field.kind.isComputed = true → id ≠ column.id) :
    next.cells.find? id = so.cells.find? id := by
  cases kind : column.field.kind with
  | stored type =>
    rw [computeColumn_of_stored (by rw [kind]; rfl)] at step
    cases step
    rfl
  | computed source result =>
    obtain ⟨value, _, cells⟩ := cells_of_computeColumn kind step
    rw [cells]
    exact IdMap.find?_insert_of_ne _ _ (other (by rw [kind]; rfl))

theorem find?_of_computed {columns : List Column} {so last : Computation} {id : FieldId}
    (run : columns.foldlM (computeColumn schema row) so = .ok last)
    (other : id ∉ formulaIds columns) : last.cells.find? id = so.cells.find? id := by
  induction columns generalizing so with
  | nil =>
    cases run
    rfl
  | cons column rest ih =>
    rw [List.foldlM_cons, bind_eq_ok] at run
    obtain ⟨next, step, run⟩ := run
    obtain ⟨here, later⟩ := not_mem_formulaIds_cons.1 other
    rw [ih run later, find?_computeColumn step here]

theorem isSome_of_computed {columns : List Column} {so last : Computation} {id : FieldId}
    (run : columns.foldlM (computeColumn schema row) so = .ok last) :
    (last.cells.find? id).isSome = true ↔
      (so.cells.find? id).isSome = true ∨ id ∈ formulaIds columns := by
  induction columns generalizing so with
  | nil =>
    cases run
    simp [formulaIds]
  | cons column rest ih =>
    rw [List.foldlM_cons, bind_eq_ok] at run
    obtain ⟨next, step, run⟩ := run
    rw [ih run]
    cases kind : column.field.kind with
    | stored type =>
      rw [computeColumn_of_stored (by rw [kind]; rfl)] at step
      cases step
      simp [formulaIds, kind, FieldKind.isComputed]
    | computed source result =>
      obtain ⟨value, _, cells⟩ := cells_of_computeColumn kind step
      rw [cells, IdMap.find?_insert]
      split
      · rename_i same
        simp [formulaIds, kind, FieldKind.isComputed, same]
      · rename_i different
        simp [formulaIds, kind, FieldKind.isComputed, different]

/-- What a formula in the middle of a run meets is the final cells with those of the formulas from its
column on put back. -/
theorem formulaValue_of_met {front behind : List Column} {column : Column} {so met last : Computation}
    (distinct : ((front ++ column :: behind).map Column.id).Nodup)
    (before : front.foldlM (computeColumn schema row) so = .ok met)
    (run : (front ++ column :: behind).foldlM (computeColumn schema row) so = .ok last)
    (source : String) (result : ResultType) :
    formulaValue schema row met.cells source result =
      formulaValue schema row
        (IdMap.restoreAll so.cells last.cells (formulaIds (column :: behind))) source result := by
  rw [List.foldlM_append, bind_eq_ok] at run
  obtain ⟨other, same, run⟩ := run
  rw [before] at same
  cases same
  rw [List.foldlM_cons, bind_eq_ok] at run
  obtain ⟨next, step, after⟩ := run
  rw [List.map_append, List.nodup_append] at distinct
  obtain ⟨_, _, apart⟩ := distinct
  apply formulaValue_congr result
  intro _ _ _ _ other _
  rw [IdMap.find?_restoreAll]
  split
  · rename_i pending
    have notFront : other.id ∉ formulaIds front := by
      intro member
      exact apart _ (mem_ids_of_mem_formulaIds member) _ (mem_ids_of_mem_formulaIds pending) rfl
    exact find?_of_computed before notFront
  · rename_i settled
    obtain ⟨here, later⟩ := not_mem_formulaIds_cons.1 settled
    rw [find?_of_computed after later, find?_computeColumn step here]

theorem find?_of_met {front behind : List Column} {column : Column} {source : String}
    {result : ResultType} {so met last : Computation}
    (kind : column.field.kind = .computed source result)
    (distinct : ((front ++ column :: behind).map Column.id).Nodup)
    (before : front.foldlM (computeColumn schema row) so = .ok met)
    (run : (front ++ column :: behind).foldlM (computeColumn schema row) so = .ok last) :
    ∃ value, last.cells.find? column.id = some value ∧
      formulaCell schema row met.cells source result = .ok value := by
  rw [List.foldlM_append, before] at run
  change (column :: behind).foldlM (computeColumn schema row) met = .ok last at run
  rw [List.foldlM_cons, bind_eq_ok] at run
  obtain ⟨next, step, after⟩ := run
  obtain ⟨value, evaluated, cells⟩ := cells_of_computeColumn kind step
  have notBehind : column.id ∉ formulaIds behind := by
    intro member
    rw [List.map_append, List.nodup_append] at distinct
    exact (List.nodup_cons.1 distinct.2.1).1 (mem_ids_of_mem_formulaIds member)
  refine ⟨value, ?_, evaluated⟩
  rw [find?_of_computed after notBehind, cells]
  exact IdMap.find?_insert_self _ _ _

/-- The formula of a column in the middle of a run gives the cell that the row ends with. -/
theorem formulaCell_of_computed {front behind : List Column} {column : Column} {source : String}
    {result : ResultType} {so last : Computation}
    (kind : column.field.kind = .computed source result)
    (distinct : ((front ++ column :: behind).map Column.id).Nodup)
    (run : (front ++ column :: behind).foldlM (computeColumn schema row) so = .ok last) :
    ∃ value, last.cells.find? column.id = some value ∧
      formulaCell schema row
        (IdMap.restoreAll so.cells last.cells (formulaIds (column :: behind))) source result =
          .ok value := by
  have parts := run
  rw [List.foldlM_append, bind_eq_ok] at parts
  obtain ⟨met, before, _⟩ := parts
  obtain ⟨value, found, evaluated⟩ := find?_of_met kind distinct before run
  refine ⟨value, found, ?_⟩
  unfold formulaCell at evaluated ⊢
  rw [← formulaValue_of_met distinct before run]
  exact evaluated

end Tabula
