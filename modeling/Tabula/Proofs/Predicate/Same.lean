import Tabula.Predicate.Eval
import Tabula.Proofs.Predicate.Encoding

/-!
Restrictions that differ only in the scale of numbers and the offset of instants: they accept the same
rows and break off on the same rows.
-/
namespace Tabula

theorem Decimal.units_of_sameAs {left right : Decimal} (same : left.sameAs right = true) :
    left.units = right.units :=
  beq_iff_eq.1 same

theorem Instant.nanos_of_sameAs {left right : Instant} (same : left.sameAs right = true) :
    left.nanos = right.nanos :=
  beq_iff_eq.1 same

theorem Value.sameAs_congr {left right : Value} (same : left.sameAs right = true) (value : Value) :
    value.sameAs left = value.sameAs right := by
  unfold sameAs at same
  split at same
  · have units := Decimal.units_of_sameAs same
    cases value <;> simp [sameAs, Decimal.sameAs, units]
  · have nanos := Instant.nanos_of_sameAs same
    cases value <;> simp [sameAs, Instant.sameAs, nanos]
  · rw [of_decide_eq_true same]

namespace Moment

variable {left right : Moment}

theorem dayNumber_of_same (same : left.Same right) : left.dayNumber = right.dayNumber := by
  cases left <;> cases right
  case wholeDay.wholeDay => rw [show _ = _ from same]
  case point.point left right =>
    have nanos := Instant.nanos_of_sameAs same
    simp only [dayNumber, Instant.dayNumber, nanos]
  all_goals exact same.elim

end Moment

namespace DateRelation

variable {left right : Moment}

theorem compare?_of_same (relation : DateRelation) (value : Value) (same : left.Same right) :
    relation.compare? value left = relation.compare? value right := by
  have days := Moment.dayNumber_of_same same
  cases left <;> cases right
  case wholeDay.wholeDay => rw [show _ = _ from same]
  case point.point left right =>
    have nanos := Instant.nanos_of_sameAs same
    cases value <;> cases relation <;> simp [compare?, Instant.compare, nanos, days]
  all_goals exact same.elim

theorem fault?_of_same (relation : DateRelation) (value : Value) (same : left.Same right) :
    relation.fault? value left = relation.fault? value right := by
  have days := Moment.dayNumber_of_same same
  cases left <;> cases right
  case wholeDay.wholeDay => rw [show _ = _ from same]
  case point.point => cases value <;> cases relation <;> simp [fault?, days]
  all_goals exact same.elim

theorem accepts_of_same (relation : DateRelation) (value : Value) (same : left.Same right) :
    relation.accepts value left = relation.accepts value right := by
  unfold accepts
  rw [relation.compare?_of_same value same]

end DateRelation

namespace CellTest

variable {left right : CellTest}

theorem accepts_of_same (same : left.Same right) (value : Value) (rendered : Option String) :
    left.accepts value rendered = right.accepts value rendered := by
  cases left <;> cases right
  case equals.equals => exact Value.sameAs_congr same value
  case notEquals.notEquals => exact congrArg Bool.not (Value.sameAs_congr same value)
  case higherThan.higherThan left right =>
    have above : left.below = right.below := by
      funext number
      simp only [Decimal.below, Decimal.units_of_sameAs same]
    simp only [accepts, above]
  case lowerThan.lowerThan left right =>
    have under : (·.below left) = fun number : Decimal => number.below right := by
      funext number
      simp only [Decimal.below, Decimal.units_of_sameAs same]
    simp only [accepts, under]
  case date.date relation _ _ _ =>
    obtain ⟨rfl, targets⟩ := same
    exact relation.accepts_of_same value targets
  all_goals rw [show _ = _ from same]

theorem fault?_of_same (same : left.Same right) (value : Value) (textFault? : Option Fault) :
    left.fault? value textFault? = right.fault? value textFault? := by
  cases left <;> cases right
  case date.date relation _ _ _ =>
    obtain ⟨rfl, targets⟩ := same
    exact relation.fault?_of_same value targets
  all_goals first | rfl | cases same

theorem acceptsColumn_of_same (same : left.Same right) (schema : Schema) (row : Row)
    (column : ColumnKey) :
    left.acceptsColumn schema row column = right.acceptsColumn schema row column := by
  cases column <;> simp only [acceptsColumn, Field.accepts, accepts_of_same same]

theorem columnFault?_of_same (same : left.Same right) (schema : Schema) (row : Row)
    (column : ColumnKey) :
    left.columnFault? schema row column = right.columnFault? schema row column := by
  cases column <;> simp only [columnFault?, Field.testFault?, fault?_of_same same]

end CellTest

variable (schema : Schema) (row : Row)

mutual

theorem Predicate.accepts_of_same (left right : Predicate) (same : left.Same right) :
    left.accepts schema row = right.accepts schema row := by
  cases left <;> cases right
  case allOf.allOf lefts rights =>
    simp only [Predicate.accepts, allAccept_of_same lefts rights same]
  case anyOf.anyOf lefts rights =>
    simp only [Predicate.accepts, anyAccepts_of_same lefts rights same]
  case not.not left right =>
    simp only [Predicate.accepts, left.accepts_of_same right same]
  case test.test =>
    obtain ⟨rfl, tests⟩ := same
    simp only [Predicate.accepts, CellTest.acceptsColumn_of_same tests]
  case rowIs.rowIs => rw [show _ = _ from same]
  all_goals first | rfl | exact same.elim

theorem allAccept_of_same (lefts rights : List Predicate) (same : SameParts lefts rights) :
    allAccept schema row lefts = allAccept schema row rights := by
  cases lefts <;> cases rights
  case nil.nil => rfl
  case cons.cons left lefts right rights =>
    simp only [allAccept, left.accepts_of_same right same.1, allAccept_of_same lefts rights same.2]
  all_goals exact same.elim

theorem anyAccepts_of_same (lefts rights : List Predicate) (same : SameParts lefts rights) :
    anyAccepts schema row lefts = anyAccepts schema row rights := by
  cases lefts <;> cases rights
  case nil.nil => rfl
  case cons.cons left lefts right rights =>
    simp only [anyAccepts, left.accepts_of_same right same.1,
      anyAccepts_of_same lefts rights same.2]
  all_goals exact same.elim

end

mutual

theorem Predicate.fault?_of_same (left right : Predicate) (same : left.Same right) :
    left.fault? schema row = right.fault? schema row := by
  cases left <;> cases right
  case allOf.allOf lefts rights =>
    simp only [Predicate.fault?, allFault?_of_same lefts rights same]
  case anyOf.anyOf lefts rights =>
    simp only [Predicate.fault?, anyFault?_of_same lefts rights same]
  case not.not left right =>
    simp only [Predicate.fault?, left.fault?_of_same right same]
  case test.test =>
    obtain ⟨rfl, tests⟩ := same
    simp only [Predicate.fault?, CellTest.columnFault?_of_same tests]
  all_goals first | rfl | exact same.elim

-- Whether a part is reached depends on what those before it accept.
theorem allFault?_of_same (lefts rights : List Predicate) (same : SameParts lefts rights) :
    allFault? schema row lefts = allFault? schema row rights := by
  cases lefts <;> cases rights
  case nil.nil => rfl
  case cons.cons left lefts right rights =>
    simp only [allFault?, left.fault?_of_same right same.1,
      left.accepts_of_same schema row right same.1, allFault?_of_same lefts rights same.2]
  all_goals exact same.elim

theorem anyFault?_of_same (lefts rights : List Predicate) (same : SameParts lefts rights) :
    anyFault? schema row lefts = anyFault? schema row rights := by
  cases lefts <;> cases rights
  case nil.nil => rfl
  case cons.cons left lefts right rights =>
    simp only [anyFault?, left.fault?_of_same right same.1,
      left.accepts_of_same schema row right same.1, anyFault?_of_same lefts rights same.2]
  all_goals exact same.elim

end

end Tabula
