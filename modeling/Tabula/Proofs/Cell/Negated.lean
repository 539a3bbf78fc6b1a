import Tabula.Predicate.Eval
import Tabula.Proofs.Cell.Ranges
import Tabula.Proofs.Decimal.Next
import Tabula.Proofs.Except

/-!
Operators and their negations. Both are made into tests of one kind, and of two such tests exactly one
accepts a cell, whatever the cell holds; where one breaks off, so does the other.
-/
namespace Tabula
open Text

/-- The operator for what another one does not accept. -/
def FilterOp.negation? : FilterOp → Option FilterOp
  | equal => some notEqual
  | contains => some containsNot
  | empty => some notEmpty
  | dateEqual => some dateNotEqual
  | singleSelectEqual => some singleSelectNotEqual
  | multipleSelectHas => some multipleSelectHasNot
  | _ => none

namespace DateRelation

theorem accepts_notEqual (value : Value) (target : Moment) :
    notEqual.accepts value target = !equal.accepts value target := by
  have compared : notEqual.compare? value target = equal.compare? value target := by
    cases value <;> cases target <;> rfl
  unfold accepts
  rw [compared]
  cases equal.compare? value target <;> rfl

theorem fault?_notEqual (value : Value) (target : Moment) :
    notEqual.fault? value target = equal.fault? value target := by
  cases value <;> cases target <;> rfl

theorem fault?_equal {target : Moment} (inside : dayFault? target.dayNumber = none) {value : Value}
    {fault : Fault} : equal.fault? value target = some fault ↔
      ∃ time, value = .instant time ∧ dayFault? time.dayNumber = some fault := by
  cases value with
  | instant time =>
    have byDay : equal.fault? (.instant time) target = dayFault? time.dayNumber := by
      have either : equal.fault? (.instant time) target =
          (dayFault? time.dayNumber).or (dayFault? target.dayNumber) := by
        cases target <;> rfl
      rw [either, inside, Option.or_none]
    simp [byDay]
  | day date =>
    have none : equal.fault? (.day date) target = none := by
      cases target <;> exact inside
    simp [none]
  | null | bool | number | text | files | links | option | options =>
    cases target <;> simp [fault?]

end DateRelation

namespace CellTest

/-- What an operator and its negation are made into, if their argument can be read. -/
inductive Negates : FilterOp → CellTest → CellTest → Prop
  | empty : Negates .empty .empty .notEmpty
  | equals (expected : Value) : Negates .equal (.equals expected) (.notEquals expected)
  | contains (needle : String) : Negates .contains (.contains needle) (.containsNot needle)
  | date {target : Moment} (inside : DateRelation.dayFault? target.dayNumber = none) :
    Negates .dateEqual (.date .equal target) (.date .notEqual target)
  | single (sought : OptionId) :
    Negates .singleSelectEqual (.hasOption sought) (.lacksOption sought)
  | multiple (sought : OptionId) :
    Negates .multipleSelectHas (.hasOption sought) (.lacksOption sought)

namespace Negates

variable {op : FilterOp} {test other : CellTest}

theorem accepts (negates : Negates op test other) (value : Value) (rendered : Option String) :
    other.accepts value rendered = !test.accepts value rendered := by
  cases negates with
  | date => exact DateRelation.accepts_notEqual value _
  | empty | equals | contains | single | multiple => rfl

theorem fault?_eq (negates : Negates op test other) (value : Value) (textFault? : Option Fault) :
    other.fault? value textFault? = test.fault? value textFault? := by
  cases negates with
  | date => exact DateRelation.fault?_notEqual value _
  | empty | equals | contains | single | multiple => rfl

/-- Containment breaks off where the text of a cell cannot be written, and equality of dates at an instant
whose day is beyond the calendar. -/
theorem fault?_eq_some (negates : Negates op test other) {value : Value} {textFault? : Option Fault}
    {fault : Fault} : test.fault? value textFault? = some fault ↔
      op = .contains ∧ textFault? = some fault ∨
        op = .dateEqual ∧ ∃ time, value = .instant time ∧
          DateRelation.dayFault? time.dayNumber = some fault := by
  cases negates with
  | date inside =>
    rw [fault?, DateRelation.fault?_equal inside]
    simp
  | empty | equals | contains | single | multiple => simp [fault?]

end Negates

/-- Either both tests accept nothing, since their argument could not be read, or they are opposites. -/
def Opposed (op : FilterOp) (test other : CellTest) : Prop :=
  test = .never ∧ other = .never ∨ Negates op test other

theorem opposed_orNever {α : Type} {op : FilterOp} {test other : α → CellTest} {argument : Option α}
    (negates : ∀ read, argument = some read → Negates op (test read) (other read)) :
    Opposed op (orNever test argument) (orNever other argument) := by
  cases argument with
  | none => exact .inl ⟨rfl, rfl⟩
  | some read => exact .inr (negates read rfl)

end CellTest

theorem dayFault?_readMoment {argument : String} {target : Moment}
    (read : Calendar.readMoment argument = .ok (some target)) :
    DateRelation.dayFault? target.dayNumber = none := by
  cases target with
  | wholeDay day => exact DateRelation.dayFault?_eq_none day.first_le day.le_last
  | point time => exact DateRelation.dayFault?_of_utc (Calendar.offset_of_readMoment read)

namespace CellType

variable {type : CellType} {op other : FilterOp}

theorem filterTest_common (accepted : op ∈ type.filterOps)
    (common : op ∈ [.contains, .containsNot, .empty, .notEmpty]) (argument : String) :
    type.filterTest op argument = .ok (commonTest op argument) := by
  simp only [List.mem_cons, List.not_mem_nil, or_false] at common
  cases type with
  | boolean => rcases common with rfl | rfl | rfl | rfl <;> exact absurd accepted (by decide)
  | linkRow => cases accepted
  | text | longText | phoneNumber | ai | number | date | file | singleSelect | multipleSelect =>
    rcases common with rfl | rfl | rfl | rfl <;> rfl

theorem mem_filterOps_negation (negation : op.negation? = some other) :
    op ∈ type.filterOps ↔ other ∈ type.filterOps := by
  cases op <;> cases negation <;> cases type <;>
    simp [filterOps, textOps, shortTextOps, numberOps, dateOps, fileOps, singleSelectOps,
      multipleSelectOps]

theorem opposed_filterTest (negation : op.negation? = some other) (accepted : op ∈ type.filterOps)
    (argument : String) : SameOutcome (CellTest.Opposed op) (type.filterTest op argument)
      (type.filterTest other argument) := by
  have also := (mem_filterOps_negation negation).1 accepted
  cases op with
  | contains =>
    cases negation
    rw [filterTest_common accepted (by decide), filterTest_common also (by decide)]
    exact .ok (.inr (.contains _))
  | empty =>
    cases negation
    rw [filterTest_common accepted (by decide), filterTest_common also (by decide)]
    exact .ok (.inr .empty)
  | equal =>
    cases negation
    cases type with
    | text | longText | phoneNumber | ai => exact .ok (.inr (.equals _))
    | number => exact .ok (CellTest.opposed_orNever fun amount _ => .equals (.number amount))
    | boolean | date | file | singleSelect | multipleSelect | linkRow =>
      simp [filterOps, dateOps, fileOps, singleSelectOps, multipleSelectOps] at accepted
  | dateEqual =>
    cases negation
    cases type with
    | date =>
      apply SameOutcome.map
      intro moment? read
      apply CellTest.opposed_orNever
      rintro target rfl
      exact .date (dayFault?_readMoment read)
    | text | longText | phoneNumber | ai | number | boolean | file | singleSelect | multipleSelect
    | linkRow =>
      simp [filterOps, textOps, shortTextOps, numberOps, fileOps, singleSelectOps, multipleSelectOps]
        at accepted
  | singleSelectEqual =>
    cases negation
    cases type with
    | singleSelect => exact .ok (CellTest.opposed_orNever fun sought _ => .single sought)
    | text | longText | phoneNumber | ai | number | boolean | date | file | multipleSelect | linkRow =>
      simp [filterOps, textOps, shortTextOps, numberOps, dateOps, fileOps, multipleSelectOps]
        at accepted
  | multipleSelectHas =>
    cases negation
    cases type with
    | multipleSelect => exact .ok (CellTest.opposed_orNever fun sought _ => .multiple sought)
    | text | longText | phoneNumber | ai | number | boolean | date | file | singleSelect | linkRow =>
      simp [filterOps, textOps, shortTextOps, numberOps, dateOps, fileOps, singleSelectOps]
        at accepted
  | notEqual | containsNot | notEmpty | dateNotEqual | singleSelectNotEqual | multipleSelectHasNot
  | lengthIsLowerThan | higherThan | lowerThan | boolean | dateBefore | dateAfter | filenameContains =>
    cases negation

end CellType

/-- Either both tests accept nothing, or exactly one of them accepts a cell of the field, whatever it holds.
Both break off exactly at a text that cannot be written, where they look for containment, and at an instant
whose day is beyond the calendar, where they compare days. -/
def Field.Complements (field : Field) (op : FilterOp) (test opposite : CellTest) : Prop :=
  test = .never ∧ opposite = .never ∨
    ∀ value,
      field.checkedAccepts opposite value = (field.checkedAccepts test value).map not ∧
      ∀ fault, field.checkedAccepts test value = .error fault ↔
        op = .contains ∧ field.textFault? value = some fault ∨
          op = .dateEqual ∧ ∃ time, value = .instant time ∧
            DateRelation.dayFault? time.dayNumber = some fault

/-- A field accepts both of an operator and its negation or neither, an argument is readable for both or for
neither, and the tests that they are made into are complements. -/
theorem negated_operators_complement (field : Field) {op other : FilterOp}
    (negation : op.negation? = some other) (accepted : op ∈ field.filterOps ∨ other ∈ field.filterOps)
    (argument : String) :
    op ∈ field.filterOps ∧ other ∈ field.filterOps ∧
      SameOutcome (field.Complements op) (field.filterTest op argument)
        (field.filterTest other argument) := by
  have one : op ∈ field.filterOps :=
    accepted.elim id (CellType.mem_filterOps_negation negation).2
  refine ⟨one, (CellType.mem_filterOps_negation negation).1 one, ?_⟩
  apply (CellType.opposed_filterTest negation one argument).imp
  rintro test opposite (never | negates)
  · exact .inl never
  · refine .inr fun value => ⟨?_, ?_⟩
    · unfold Field.checkedAccepts Field.testFault? Field.accepts
      rw [negates.fault?_eq, negates.accepts]
      cases test.fault? value (field.textFault? value) <;> rfl
    · intro fault
      rw [← negates.fault?_eq_some]
      unfold Field.checkedAccepts Field.testFault?
      cases test.fault? value (field.textFault? value) <;> simp [unlessFault]

/-! A column of numbers with one digit more to show than a written number has room for. -/

def preciseField : Field := ⟨⟨4⟩, ⟨3⟩, "n", 1, false, .stored (.number ⟨31, false⟩)⟩

def preciseValue : Value := .number .thousandth

theorem equal_of_precise : FilterOp.equal.negation? = some .notEqual ∧
    SameOutcome (preciseField.Complements .equal) (preciseField.filterTest .equal "1")
      (preciseField.filterTest .notEqual "1") :=
  ⟨rfl, (negated_operators_complement preciseField rfl (.inl (by decide)) "1").2.2⟩

/-- Not every cell is accepted by one of two complements: both can break off. -/
theorem not_all_complements_answer :
    ¬ ∀ (field : Field) (op other : FilterOp) (argument : String) (test opposite : CellTest)
      (value : Value), op.negation? = some other → op ∈ field.filterOps →
        field.filterTest op argument = .ok test → field.filterTest other argument = .ok opposite →
        test = .never ∧ opposite = .never ∨
          ∃ accepted, field.checkedAccepts test value = .ok accepted ∧
            field.checkedAccepts opposite value = .ok !accepted := by
  intro refuted
  rcases refuted preciseField .contains .containsNot "1" (.contains (fold "1")) (.containsNot (fold "1"))
    preciseValue rfl (by decide) rfl rfl with ⟨never, _⟩ | ⟨accepted, done, _⟩
  · cases never
  · have broken : preciseField.checkedAccepts (.contains (fold "1")) preciseValue =
        .error .textExceeded := rfl
    rw [broken] at done
    cases done

end Tabula
