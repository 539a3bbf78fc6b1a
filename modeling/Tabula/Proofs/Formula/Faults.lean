import Tabula.Formula.Eval
import Tabula.Proofs.Cell.Utc

/-!
Where formulas break off. Over values in UTC their evaluation never does, and bringing the result into
its declared type does only where a late stamp is read as a date.
-/
namespace Tabula
open Calendar

namespace Formula

variable {scope : Scope}

def Scope.IsUtc (scope : Scope) : Prop :=
  ∀ name value, scope.field? name = some value → value.IsUtc

theorem gives_renderText {value : Value} (utc : value.IsUtc) :
    Gives (fun _ => True) (renderText value) := by
  cases value with
  | instant time =>
    unfold renderText
    dsimp only
    rw [Instant.utcFault?_eq_none utc]
    trivial
  | null | text _ | number _ | bool _ | day _ | files _ | links _ | option _ | options _ => trivial

theorem isUtc_of_negate {value result : Value} (done : negate value = .ok result) :
    result.IsUtc := by
  unfold negate at done
  split at done
  · cases done
    trivial
  · cases done
    trivial
  · cases done

theorem isUtc_of_calculate {operator : Operator} {left right : Decimal} {result : Value}
    (done : calculate operator left right = .ok result) : result.IsUtc := by
  have number (symbol : Operator) (outcome : Option Decimal) {result : Value}
      (done : orOverflow symbol outcome = .ok result) : result.IsUtc := by
    unfold orOverflow at done
    split at done
    · cases done
      trivial
    · cases done
  unfold calculate at done
  split at done
  · exact number _ _ done
  · exact number _ _ done
  · exact number _ _ done
  · split at done
    · cases done
    · exact number _ _ done

theorem isUtc_of_combine {operator : Operator} {left right result : Value}
    (done : combine operator left right = .ok result) : result.IsUtc := by
  unfold combine at done
  split at done
  · cases done
    trivial
  · cases done
    trivial
  · exact isUtc_of_calculate done
  · cases done
  · cases done

theorem gives_convertValue (function : TextFunction) {value : Value} (utc : value.IsUtc) :
    Gives Value.IsUtc (convertValue function value) := by
  unfold convertValue
  split
  · trivial
  · apply (gives_renderText utc).map
    intro content _
    trivial

mutual

/-- Over a row in UTC an expression has a value in UTC or an error of its own. -/
theorem gives_eval (expr : Expr) (utc : scope.IsUtc) : Gives Value.IsUtc (expr.eval scope) := by
  cases expr with
  | number amount => trivial
  | text content => trivial
  | neg operand =>
    unfold Expr.eval
    apply (gives_eval operand utc).bind
    intro value _
    apply gives_mapError
    intro result done
    exact isUtc_of_negate done
  | binary operator left right =>
    unfold Expr.eval
    apply (gives_eval left utc).bind
    intro first _
    apply (gives_eval right utc).bind
    intro second _
    apply gives_mapError
    intro result done
    exact isUtc_of_combine done
  | rowId => trivial
  | field name =>
    unfold Expr.eval
    cases found : scope.field? name with
    | none => trivial
    | some value => exact utc name value found
  | concat parts =>
    unfold Expr.eval
    apply (gives_concatText parts utc).bind
    intro content _
    trivial
  | convert function operand =>
    unfold Expr.eval
    apply (gives_eval operand utc).bind
    intro value held
    exact gives_convertValue function held

theorem gives_concatText (parts : List Expr) (utc : scope.IsUtc) :
    Gives (fun _ => True) (concatText scope parts) := by
  cases parts with
  | nil => trivial
  | cons part others =>
    unfold concatText
    apply (gives_eval part utc).bind
    intro value held
    apply (gives_renderText held).bind
    intro first _
    apply (gives_concatText others utc).bind
    intro rest _
    trivial

end

/-- The value is a late stamp that is to become a date. -/
def Strays (value : Value) (result : ResultType) : Prop :=
  ∃ format content, result = .date format ∧ value = .text content ∧
    IsLate (Text.trimChars content.toList)

theorem gives_toNumber (format : NumberFormat) (value : Value) :
    Gives Value.IsUtc (toNumber format value) := by
  unfold toNumber
  dsimp only
  split
  · trivial
  · split <;> trivial
  · trivial

theorem gives_toBoolean {value : Value} (utc : value.IsUtc) :
    Gives Value.IsUtc (toBoolean value) := by
  unfold toBoolean
  split
  · trivial
  · trivial
  · split <;> trivial
  · trivial

theorem toDate_eq_fault {value : Value} {fault : Fault} :
    toDate value = .error (.fault fault) ↔
      fault = .calendarExceeded ∧
        ∃ content, value = .text content ∧ IsLate (Text.trimChars content.toList) := by
  cases value with
  | text content =>
    have late : readMoment content = .error fault ↔
        fault = .calendarExceeded ∧ IsLate (Text.trimChars content.toList) := readMoment_eq_error
    simp only [Value.text.injEq, exists_eq_left', ← late]
    unfold toDate
    dsimp only
    split
    · rename_i read
      simp [read]
    · rename_i read
      simp [read]
    · rename_i read
      simp [read, refuse]
    · rename_i read
      simp [read]
  | null | bool _ | number _ | day _ | instant _ | files _ | links _ | option _ | options _ =>
    simp [toDate, refuse]

theorem isUtc_of_toDate {value date : Value} (utc : value.IsUtc) (done : toDate value = .ok date) :
    date.IsUtc := by
  unfold toDate at done
  split at done
  · cases done
    exact utc
  · cases done
    exact utc
  · split at done
    · cases done
      trivial
    · rename_i read
      cases done
      exact offset_of_readMoment read
    · cases done
    · cases done
  · cases done

theorem gives_coerce {value : Value} {result : ResultType} (utc : value.IsUtc)
    (other : ∀ format, result ≠ .date format) : Gives Value.IsUtc (coerce value result) := by
  unfold coerce
  split
  · trivial
  · cases result with
    | text =>
      apply (gives_renderText utc).map
      intro content _
      trivial
    | number format => exact gives_toNumber format value
    | boolean => exact gives_toBoolean utc
    | date format => exact absurd rfl (other format)

theorem coerce_date {value : Value} (filled : value.isNull = false) (format : DateFormat) :
    coerce value (.date format) = toDate value := by
  unfold coerce
  rw [filled]
  rfl

theorem coerce_eq_fault {value : Value} {result : ResultType} {fault : Fault} (utc : value.IsUtc) :
    coerce value result = .error (.fault fault) ↔
      fault = .calendarExceeded ∧ Strays value result := by
  unfold Strays
  constructor
  · intro broken
    by_cases dated : ∃ format, result = .date format
    · obtain ⟨format, rfl⟩ := dated
      cases filled : value.isNull with
      | true =>
        unfold coerce at broken
        rw [filled] at broken
        cases broken
      | false =>
        rw [coerce_date filled, toDate_eq_fault] at broken
        obtain ⟨same, content, text, late⟩ := broken
        exact ⟨same, format, content, rfl, text, late⟩
    · have other : ∀ format, result ≠ .date format := by
        intro format same
        exact dated ⟨format, same⟩
      exact absurd broken ((gives_coerce utc other).isWhole fault)
  · rintro ⟨same, format, content, rfl, rfl, late⟩
    rw [coerce_date rfl, toDate_eq_fault]
    exact ⟨same, content, rfl, late⟩

theorem isUtc_of_coerce {value coerced : Value} {result : ResultType} (utc : value.IsUtc)
    (done : coerce value result = .ok coerced) : coerced.IsUtc := by
  by_cases dated : ∃ format, result = .date format
  · obtain ⟨format, rfl⟩ := dated
    cases filled : value.isNull with
    | true =>
      unfold coerce at done
      rw [filled] at done
      cases done
      trivial
    | false =>
      rw [coerce_date filled] at done
      exact isUtc_of_toDate utc done
  · apply (gives_coerce utc ?_).of_eq_ok done
    intro format same
    exact dated ⟨format, same⟩

theorem evaluate_eq_fault {expr : Expr} {result : ResultType} {fault : Fault} (utc : scope.IsUtc) :
    expr.evaluate scope result = .error (.fault fault) ↔
      fault = .calendarExceeded ∧
        ∃ value, expr.eval scope = .ok value ∧ Strays value result := by
  have within := gives_eval expr utc
  unfold Expr.evaluate
  rw [bind_eq_error]
  constructor
  · rintro (broken | ⟨value, evaluated, broken⟩)
    · exact absurd broken (within.isWhole fault)
    · obtain ⟨same, strays⟩ := (coerce_eq_fault (within.of_eq_ok evaluated)).1 broken
      exact ⟨same, value, evaluated, strays⟩
  · rintro ⟨same, value, evaluated, strays⟩
    exact .inr ⟨value, evaluated, (coerce_eq_fault (within.of_eq_ok evaluated)).2 ⟨same, strays⟩⟩

theorem isUtc_of_evaluate {expr : Expr} {result : ResultType} {value : Value} (utc : scope.IsUtc)
    (done : expr.evaluate scope result = .ok value) : value.IsUtc := by
  unfold Expr.evaluate at done
  obtain ⟨before, evaluated, coerced⟩ := bind_eq_ok.1 done
  exact isUtc_of_coerce ((gives_eval expr utc).of_eq_ok evaluated) coerced

end Formula
end Tabula
