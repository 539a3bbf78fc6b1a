import Tabula.Proofs.SortKey
import Tabula.Query.Order

/-! The order of query results, stated term by term: a strict total order of rows. -/
namespace Tabula

namespace Row

instance : Std.TransCmp compare :=
  inferInstanceAs (Std.TransCmp
    (compareLex (compareOn fun row : Row => row.order.units) (compareOn fun row : Row => row.id.val)))

theorem compare_lt {left right : Row} :
    left.compare right = .lt ↔
      left.order.units < right.order.units ∨
        left.order.units = right.order.units ∧ left.id.val < right.id.val := by
  unfold compare Decimal.compare Id.compare
  rw [Ordering.then_eq_lt, Int.compare_eq_lt, Int.compare_eq_eq, Std.compare_eq_lt]

theorem id_of_compare_eq {left right : Row} (same : left.compare right = .eq) :
    left.id = right.id := by
  unfold compare Id.compare at same
  rw [Ordering.then_eq_eq] at same
  have equal : left.id.val = right.id.val := Std.LawfulEqOrd.eq_of_compare same.2
  exact congrArg Id.mk equal

end Row

theorem directed_eq {descending : Bool} {order : Ordering} :
    directed descending order = .eq ↔ order = .eq := by
  cases descending <;> cases order <;> decide

namespace Schema

variable (schema : Schema)

def termKey (term : OrderTerm) (row : Row) : SortKey :=
  match schema.column? term.field with
  | some column => column.field.orderKey (row.cell column)
  | none => .null

def Before (term : OrderTerm) (left right : Row) : Prop :=
  if term.descending then (schema.termKey term right).compare (schema.termKey term left) = .lt
  else (schema.termKey term left).compare (schema.termKey term right) = .lt

/-- The terms in turn put a row before another; rows that they all leave tied stand by their orders
and then by their identifiers. -/
def Precedes : List OrderTerm → Row → Row → Prop
  | [], left, right =>
    left.order.units < right.order.units ∨
      left.order.units = right.order.units ∧ left.id.val < right.id.val
  | term :: terms, left, right =>
    schema.Before term left right ∨
      (schema.termKey term left).compare (schema.termKey term right) = .eq ∧
        Precedes terms left right

def compareRows (terms : List OrderTerm) (left right : Row) : Ordering :=
  compareKeyed terms (schema.orderKeys terms left, left) (schema.orderKeys terms right, right)

variable {schema}

theorem directed_compare (term : OrderTerm) (left right : Row) :
    directed term.descending ((schema.termKey term left).compare (schema.termKey term right)) =
      if term.descending then compareOn (schema.termKey term) right left
      else compareOn (schema.termKey term) left right := by
  unfold directed
  split
  · have swapped : compareOn (schema.termKey term) right left =
        (compareOn (schema.termKey term) left right).swap := Std.OrientedCmp.eq_swap
    exact swapped.symm
  · rfl

theorem directed_compare_lt {term : OrderTerm} {left right : Row} :
    directed term.descending ((schema.termKey term left).compare (schema.termKey term right)) = .lt ↔
      schema.Before term left right := by
  rw [directed_compare]
  unfold Before
  split <;> rfl

theorem compareRows_nil (left right : Row) : schema.compareRows [] left right = left.compare right :=
  rfl

theorem compareRows_cons (term : OrderTerm) (terms : List OrderTerm) (left right : Row) :
    schema.compareRows (term :: terms) left right =
      (directed term.descending
        ((schema.termKey term left).compare (schema.termKey term right))).then
          (schema.compareRows terms left right) := by
  unfold compareRows compareKeyed
  rw [← Ordering.then_assoc]
  rfl

theorem precedes_iff {terms : List OrderTerm} {left right : Row} :
    schema.Precedes terms left right ↔ schema.compareRows terms left right = .lt := by
  induction terms with
  | nil =>
    rw [compareRows_nil]
    exact Row.compare_lt.symm
  | cons term terms ih =>
    rw [compareRows_cons, Ordering.then_eq_lt, directed_compare_lt, directed_eq, ← ih]
    rfl

theorem id_of_compareRows_eq {terms : List OrderTerm} {left right : Row}
    (same : schema.compareRows terms left right = .eq) : left.id = right.id := by
  induction terms with
  | nil => exact Row.id_of_compare_eq same
  | cons term terms ih =>
    rw [compareRows_cons, Ordering.then_eq_eq] at same
    exact ih same.2

instance transCmp_directed (term : OrderTerm) : Std.TransCmp fun left right : Row =>
    directed term.descending ((schema.termKey term left).compare (schema.termKey term right)) := by
  simp only [directed_compare]
  split
  · exact Std.TransCmp.opposite
  · infer_instance

instance transCmp_compareRows (terms : List OrderTerm) : Std.TransCmp (schema.compareRows terms) := by
  induction terms with
  | nil => exact inferInstanceAs (Std.TransCmp Row.compare)
  | cons term terms ih =>
    have lexicographic : schema.compareRows (term :: terms) = compareLex
        (fun left right => directed term.descending
          ((schema.termKey term left).compare (schema.termKey term right)))
        (schema.compareRows terms) := by
      funext left right
      exact compareRows_cons term terms left right
    rw [lexicographic]
    infer_instance

theorem precedes_irrefl (terms : List OrderTerm) (row : Row) : ¬ schema.Precedes terms row row := by
  have same : schema.compareRows terms row row = .eq := Std.ReflCmp.compare_self
  rw [precedes_iff, same]
  exact Ordering.noConfusion

theorem precedes_trans {terms : List OrderTerm} {first second third : Row}
    (left : schema.Precedes terms first second) (right : schema.Precedes terms second third) :
    schema.Precedes terms first third := by
  rw [precedes_iff] at left right ⊢
  exact Std.TransCmp.lt_trans left right

theorem precedes_total (terms : List OrderTerm) {left right : Row} (different : left.id ≠ right.id) :
    schema.Precedes terms left right ∨ schema.Precedes terms right left := by
  rw [precedes_iff, precedes_iff]
  cases found : schema.compareRows terms left right with
  | lt => exact .inl rfl
  | eq => exact absurd (id_of_compareRows_eq found) different
  | gt => exact .inr (Std.OrientedCmp.lt_of_gt found)

/-- Null stands first under an ascending term and last under a descending one. -/
theorem before_of_null {term : OrderTerm} {empty filled : Row}
    (null : schema.termKey term empty = .null) (other : schema.termKey term filled ≠ .null) :
    if term.descending then schema.Before term filled empty else schema.Before term empty filled := by
  have first := SortKey.compare_null other
  unfold Before
  rw [null]
  split
  · exact first
  · exact first

end Schema
end Tabula
