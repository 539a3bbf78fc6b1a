import Tabula.Formula.Eval

/-! What the value of a formula depends on. -/
namespace Tabula.Formula

variable {left right : Scope}

mutual

/-- An expression reads the fields that it names, and the row only where it asks for it. -/
theorem eval_congr (expr : Expr)
    (rows : expr.readsRowId = true → left.rowId = right.rowId)
    (fields : ∀ name ∈ expr.fieldNames, left.field? name = right.field? name) :
    expr.eval left = expr.eval right := by
  cases expr with
  | number amount => rfl
  | text content => rfl
  | neg operand =>
    unfold Expr.eval
    rw [eval_congr operand rows fields]
  | binary operator first second =>
    simp only [Expr.readsRowId, Bool.or_eq_true] at rows
    simp only [Expr.fieldNames, List.mem_append] at fields
    unfold Expr.eval
    rw [eval_congr first (fun reads => rows (.inl reads)) (fun name used => fields name (.inl used)),
      eval_congr second (fun reads => rows (.inr reads)) (fun name used => fields name (.inr used))]
  | rowId =>
    unfold Expr.eval
    rw [rows rfl]
  | field name =>
    unfold Expr.eval
    rw [fields name (List.mem_singleton_self name)]
  | concat parts =>
    unfold Expr.eval
    rw [concatText_congr parts rows fields]
  | convert function operand =>
    unfold Expr.eval
    rw [eval_congr operand rows fields]

theorem concatText_congr (parts : List Expr)
    (rows : anyReadsRowId parts = true → left.rowId = right.rowId)
    (fields : ∀ name ∈ allFieldNames parts, left.field? name = right.field? name) :
    concatText left parts = concatText right parts := by
  cases parts with
  | nil => rfl
  | cons part others =>
    simp only [anyReadsRowId, Bool.or_eq_true] at rows
    simp only [allFieldNames, List.mem_append] at fields
    unfold concatText
    rw [eval_congr part (fun reads => rows (.inl reads)) (fun name used => fields name (.inl used)),
      concatText_congr others (fun reads => rows (.inr reads))
        (fun name used => fields name (.inr used))]

end

theorem evaluate_congr (expr : Expr) (result : ResultType)
    (rows : expr.readsRowId = true → left.rowId = right.rowId)
    (fields : ∀ name ∈ expr.fieldNames, left.field? name = right.field? name) :
    expr.evaluate left result = expr.evaluate right result := by
  unfold Expr.evaluate
  rw [eval_congr expr rows fields]

end Tabula.Formula
