import Tabula.Fault
import Tabula.Text.Case
import Tabula.Value

/-! Tests of one cell, as filters and searches use them. -/
namespace Tabula

inductive DateRelation
  | equal
  | notEqual
  | before
  | after
  deriving DecidableEq, Repr

/-- A test whose argument is read already, so that applying it cannot fail. -/
inductive CellTest
  | always
  | never
  | empty
  | notEmpty
  | equals (expected : Value)
  | notEquals (expected : Value)
  | higherThan (bound : Decimal)
  | lowerThan (bound : Decimal)
  | contains (needle : String)
  | containsNot (needle : String)
  | lengthBelow (limit : UInt64)
  | flag (expected : Bool)
  | date (relation : DateRelation) (target : Moment)
  | hasOption (chosen : OptionId)
  | lacksOption (chosen : OptionId)
  | filenameContains (needle : String)
  deriving DecidableEq, Repr

namespace DateRelation

def holds : DateRelation → Ordering → Bool
  | equal, order => order == .eq
  | notEqual, order => order != .eq
  | before, order => order == .lt
  | after, order => order == .gt

/-- Equality goes by days; before and after go by instants where both sides are one. -/
def compare? (relation : DateRelation) (value : Value) (target : Moment) : Option Ordering :=
  match value, target, relation with
  | .instant time, .point bound, before => some (time.compare bound)
  | .instant time, .point bound, after => some (time.compare bound)
  | .instant time, target, _ => some (Ord.compare time.dayNumber target.dayNumber)
  | .day date, target, _ => some (Ord.compare date.number target.dayNumber)
  | _, _, _ => none

def dayFault? (number : Int) : Option Fault :=
  if (Day.ofNumber? number).isSome then none else some .calendarExceeded

def fault? (relation : DateRelation) (value : Value) (target : Moment) : Option Fault :=
  match value, target, relation with
  | .instant _, .point _, before | .instant _, .point _, after => none
  | .instant time, target, _ => (dayFault? time.dayNumber).or (dayFault? target.dayNumber)
  | .day _, target, _ => dayFault? target.dayNumber
  | _, _, _ => none

/-- A value without a date differs from every date. -/
def accepts (relation : DateRelation) (value : Value) (target : Moment) : Bool :=
  match relation.compare? value target with
  | some order => relation.holds order
  | none => relation == notEqual

end DateRelation

namespace CellTest

def textContains (rendered : Option String) (needle : String) : Bool :=
  rendered.any (Text.foldContains · needle)

def choice (value : Value) (sought : OptionId) : Bool :=
  match value with
  | .option chosen => chosen == sought
  | .options chosen => chosen.contains sought
  | _ => false

/-- Applies a test to a cell; `rendered` is the text by which the cell is searched. -/
def accepts (test : CellTest) (value : Value) (rendered : Option String) : Bool :=
  match test with
  | always => true
  | never => false
  | empty => value.isEmpty
  | notEmpty => !value.isEmpty
  | equals expected => value.sameAs expected
  | notEquals expected => !value.sameAs expected
  | higherThan bound => value.asNumber.any bound.below
  | lowerThan bound => value.asNumber.any (·.below bound)
  | contains needle => textContains rendered needle
  | containsNot needle => !textContains rendered needle
  | lengthBelow limit => (value.asText.map String.length).getD 0 < limit.toNat
  | flag expected => value.asBool.getD false == expected
  | date relation target => relation.accepts value target
  | hasOption sought => choice value sought
  | lacksOption sought => !choice value sought
  | filenameContains needle =>
    match value with
    | .files attachments => attachments.any (Text.foldContains ·.visibleName needle)
    | _ => false

def fault? (test : CellTest) (value : Value) (textFault? : Option Fault) : Option Fault :=
  match test with
  | contains _ | containsNot _ => textFault?
  | date relation target => relation.fault? value target
  | _ => none

end CellTest
end Tabula
