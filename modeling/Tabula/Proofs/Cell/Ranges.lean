import Tabula.Cell.Filters
import Tabula.Proofs.Cell.Keys
import Tabula.Proofs.SortKey

/-!
Tests for numbers and dates above or below an argument. Each compares a measure of the cell with a
bound, and measures grow with keys: such tests cut a column in its order.
-/
namespace Tabula

/-- A cell that is stored as it is; what other columns than those of dates hold does not matter. -/
def CellType.Current (type : CellType) (value : Value) : Prop :=
  ∀ format, type = .date format → type.Stores value

/-- A number that the cells with a key have, and that does not fall where the key does not. -/
structure CellType.Measures (type : CellType) (measure : Value → Option Int) : Prop where
  filled : ∀ {value size}, type.Current value → measure value = some size → type.orderKey value ≠ .null
  isSome : ∀ {value}, type.Current value → type.orderKey value ≠ .null → ∃ size, measure value = some size
  mono : ∀ {left right small large}, type.Current left → type.Current right →
    measure left = some small → measure right = some large →
    ((type.orderKey left).compare (type.orderKey right)).isLE = true → small ≤ large

namespace CellTest

/-- Accepts cells with a key, and with one of them all that do not stand before it. -/
structure OpensUp (test : CellTest) (type : CellType) : Prop where
  filled : ∀ {value rendered}, type.Current value → test.accepts value rendered = true →
    type.orderKey value ≠ .null
  closed : ∀ {left right rendered other}, type.Current left → type.Current right →
    ((type.orderKey left).compare (type.orderKey right)).isLE = true →
    test.accepts left rendered = true → test.accepts right other = true

/-- Accepts cells with a key, and with one of them all with a key that do not stand behind it. -/
structure OpensDown (test : CellTest) (type : CellType) : Prop where
  filled : ∀ {value rendered}, type.Current value → test.accepts value rendered = true →
    type.orderKey value ≠ .null
  closed : ∀ {left right rendered other}, type.Current left → type.Current right →
    ((type.orderKey left).compare (type.orderKey right)).isLE = true → type.orderKey left ≠ .null →
    test.accepts right rendered = true → test.accepts left other = true

end CellTest

section
variable {type : CellType} {measure : Value → Option Int} {test : CellTest} {bound : Int}

theorem CellType.Measures.filled_of_any (measures : type.Measures measure) {value : Value}
    (current : type.Current value) {within : Int → Bool} (met : (measure value).any within = true) :
    type.orderKey value ≠ .null := by
  rw [Option.any_eq_true] at met
  obtain ⟨size, read, _⟩ := met
  exact measures.filled current read

theorem CellType.Measures.opensUp (measures : type.Measures measure)
    (compares : ∀ value, type.Current value → ∀ rendered,
      test.accepts value rendered = (measure value).any (bound < ·)) : test.OpensUp type where
  filled current met := measures.filled_of_any current ((compares _ current _).symm.trans met)
  closed := by
    intro left right rendered other current following order met
    rw [compares left current, Option.any_eq_true] at met
    obtain ⟨small, read, higher⟩ := met
    have filled := SortKey.ne_null_of_isLE (measures.filled current read) order
    obtain ⟨large, behind⟩ := measures.isSome following filled
    have grown := measures.mono current following read behind order
    rw [compares right following, behind]
    exact decide_eq_true (Int.lt_of_lt_of_le (of_decide_eq_true higher) grown)

theorem CellType.Measures.opensDown (measures : type.Measures measure)
    (compares : ∀ value, type.Current value → ∀ rendered,
      test.accepts value rendered = (measure value).any (· < bound)) : test.OpensDown type where
  filled current met := measures.filled_of_any current ((compares _ current _).symm.trans met)
  closed := by
    intro left right rendered other current following order filled met
    rw [compares right following, Option.any_eq_true] at met
    obtain ⟨large, read, lower⟩ := met
    obtain ⟨small, before⟩ := measures.isSome current filled
    have grown := measures.mono current following before read order
    rw [compares left current, before]
    exact decide_eq_true (Int.lt_of_le_of_lt grown (of_decide_eq_true lower))

theorem CellTest.opensUp_never (type : CellType) : never.OpensUp type where
  filled _ met := absurd met Bool.false_ne_true
  closed _ _ _ met := absurd met Bool.false_ne_true

theorem CellTest.opensDown_never (type : CellType) : never.OpensDown type where
  filled _ met := absurd met Bool.false_ne_true
  closed _ _ _ _ met := absurd met Bool.false_ne_true

end

/-! Numbers. -/

def Value.units? (value : Value) : Option Int := value.asNumber.map Decimal.units

theorem measures_number (format : NumberFormat) : (CellType.number format).Measures Value.units? where
  filled := by
    intro value size _ read
    cases value <;> cases read
    exact nofun
  isSome := by
    intro value _ filled
    cases value with
    | number amount => exact ⟨_, rfl⟩
    | null | bool _ | text _ | day _ | instant _ | files _ | links _ | option _ | options _ =>
      exact absurd rfl filled
  mono := by
    intro left right small large _ _ first second order
    cases left <;> cases first
    cases right <;> cases second
    exact Int.isLE_compare.1 order

theorem opensUp_higherThan (format : NumberFormat) (bound : Decimal) :
    (CellTest.higherThan bound).OpensUp (.number format) := by
  have compares (value : Value) (rendered : Option String) :
      (CellTest.higherThan bound).accepts value rendered = value.units?.any (bound.units < ·) := by
    cases value <;> rfl
  exact (measures_number format).opensUp fun value _ => compares value

theorem opensDown_lowerThan (format : NumberFormat) (bound : Decimal) :
    (CellTest.lowerThan bound).OpensDown (.number format) := by
  have compares (value : Value) (rendered : Option String) :
      (CellTest.lowerThan bound).accepts value rendered = value.units?.any (· < bound.units) := by
    cases value <;> rfl
  exact (measures_number format).opensDown fun value _ => compares value

/-! Dates: of instants both the instant and its day in UTC are measures, since days do not fall with
instants. -/

section
variable {format : DateFormat}

def Value.nanos? : Value → Option Int
  | .instant time => some time.nanos
  | _ => none

def Value.dayNumber? : Value → Option Int
  | .day date => some date.number
  | .instant time => some time.dayNumber
  | _ => none

theorem CellType.Current.date_cases {value : Value} (current : (CellType.date format).Current value) :
    value = .null ∨ (format.includeTime = false ∧ ∃ date, value = .day date) ∨
      format.includeTime = true ∧ ∃ time, value = .instant time ∧ time.offset = 0 := by
  cases current format rfl with
  | null => exact .inl rfl
  | day untimed => exact .inr (.inl ⟨untimed, _, rfl⟩)
  | instant timed utc => exact .inr (.inr ⟨timed, _, rfl, utc⟩)

theorem measures_dayNumber (format : DateFormat) :
    (CellType.date format).Measures Value.dayNumber? where
  filled := by
    intro value size _ read
    cases value <;> cases read <;> exact nofun
  isSome := by
    intro value current filled
    rcases current.date_cases with rfl | ⟨_, date, rfl⟩ | ⟨_, time, rfl, _⟩
    · exact absurd rfl filled
    · exact ⟨_, rfl⟩
    · exact ⟨_, rfl⟩
  mono := by
    intro left right small large current following first second order
    have unmixed := (current format rfl).unmixed (following format rfl)
    cases left with
    | day date =>
      cases first
      cases right with
      | day other =>
        cases second
        exact Int.isLE_compare.1 order
      | instant time => exact absurd .dayFirst unmixed
      | null | bool _ | number _ | text _ | files _ | links _ | option _ | options _ => cases second
    | instant time =>
      cases first
      cases right with
      | day date => exact absurd .instantFirst unmixed
      | instant other =>
        cases second
        exact Int.ediv_le_ediv (by decide) (Int.isLE_compare.1 order)
      | null | bool _ | number _ | text _ | files _ | links _ | option _ | options _ => cases second
    | null | bool _ | number _ | text _ | files _ | links _ | option _ | options _ => cases first

theorem measures_nanos (timed : format.includeTime = true) :
    (CellType.date format).Measures Value.nanos? where
  filled := by
    intro value size _ read
    cases value <;> cases read
    exact nofun
  isSome := by
    intro value current filled
    rcases current.date_cases with rfl | ⟨untimed, _⟩ | ⟨_, time, rfl, _⟩
    · exact absurd rfl filled
    · exact absurd (untimed.symm.trans timed) Bool.false_ne_true
    · exact ⟨_, rfl⟩
  mono := by
    intro left right small large _ _ first second order
    cases left <;> cases first
    cases right <;> cases second
    exact Int.isLE_compare.1 order

/-- Before and after compare one measure with one bound. -/
theorem exists_measure_of_target (format : DateFormat) (target : Moment) :
    ∃ measure bound, (CellType.date format).Measures measure ∧
      ∀ value, (CellType.date format).Current value → ∀ relation : DateRelation,
        relation = .before ∨ relation = .after → relation.accepts value target =
          (measure value).any fun size => relation.holds (Ord.compare size bound) := by
  by_cases byInstant : format.includeTime = true ∧ ∃ bound, target = .point bound
  · obtain ⟨timed, bound, rfl⟩ := byInstant
    refine ⟨_, bound.nanos, measures_nanos timed, ?_⟩
    intro value current relation either
    rcases current.date_cases with rfl | ⟨untimed, _⟩ | ⟨_, time, rfl, _⟩
    · rcases either with rfl | rfl <;> rfl
    · exact absurd (untimed.symm.trans timed) Bool.false_ne_true
    · rcases either with rfl | rfl <;> rfl
  · refine ⟨_, target.dayNumber, measures_dayNumber format, ?_⟩
    intro value current relation either
    rcases current.date_cases with rfl | ⟨_, date, rfl⟩ | ⟨timed, time, rfl, _⟩
    · rcases either with rfl | rfl <;> cases target <;> rfl
    · rcases either with rfl | rfl <;> cases target <;> rfl
    · cases target with
      | wholeDay day => rcases either with rfl | rfl <;> rfl
      | point bound => exact absurd ⟨timed, bound, rfl⟩ byInstant

theorem opensUp_after (format : DateFormat) (target : Moment) :
    (CellTest.date .after target).OpensUp (.date format) := by
  obtain ⟨measure, bound, measures, compares⟩ := exists_measure_of_target format target
  have higher (size : Int) : DateRelation.after.holds (Ord.compare size bound) = decide (bound < size) := by
    rw [Bool.eq_iff_iff, DateRelation.holds, beq_iff_eq, Int.compare_eq_gt, decide_eq_true_iff]
  have accepts (value : Value) (current : (CellType.date format).Current value) :
      DateRelation.after.accepts value target = (measure value).any (bound < ·) := by
    simp only [compares value current .after (.inr rfl), higher]
  exact measures.opensUp fun value current _ => accepts value current

theorem opensDown_before (format : DateFormat) (target : Moment) :
    (CellTest.date .before target).OpensDown (.date format) := by
  obtain ⟨measure, bound, measures, compares⟩ := exists_measure_of_target format target
  have lower (size : Int) : DateRelation.before.holds (Ord.compare size bound) = decide (size < bound) := by
    rw [Bool.eq_iff_iff, DateRelation.holds, beq_iff_eq, Int.compare_eq_lt, decide_eq_true_iff]
  have accepts (value : Value) (current : (CellType.date format).Current value) :
      DateRelation.before.accepts value target = (measure value).any (· < bound) := by
    simp only [compares value current .before (.inl rfl), lower]
  exact measures.opensDown fun value current _ => accepts value current

end

/-! The operators of a column, with their arguments read. -/

inductive CellType.Ranges : CellType → FilterOp → FilterOp → Prop
  | number {format : NumberFormat} : Ranges (.number format) .higherThan .lowerThan
  | date {format : DateFormat} : Ranges (.date format) .dateAfter .dateBefore

theorem orNever_cases {α : Type} (test : α → CellTest) (argument : Option α) :
    orNever test argument = .never ∨ ∃ read, argument = some read ∧ orNever test argument = test read := by
  cases argument with
  | none => exact .inl rfl
  | some read => exact .inr ⟨read, rfl, rfl⟩

theorem DateRelation.dayFault?_eq_none {number : Int} (first : Day.first ≤ number)
    (last : number ≤ Day.last) : dayFault? number = none := by
  unfold dayFault? Day.ofNumber?
  rw [dif_pos ⟨first, last⟩]
  rfl

theorem DateRelation.dayFault?_of_utc {time : Instant} (utc : time.offset = 0) :
    dayFault? time.dayNumber = none := by
  have first := time.first_le
  have last := time.lt_end
  rw [utc, Int.zero_mul, Int.add_zero] at first last
  apply dayFault?_eq_none
  · exact (Int.le_ediv_iff_mul_le (by decide)).2 first
  · exact Int.le_of_lt_add_one ((Int.ediv_lt_iff_lt_mul (by decide)).2 last)

theorem DateRelation.fault?_eq_none {value : Value} {target : Moment} (utc : value.IsUtc)
    (targetUtc : ∀ time, target = .point time → time.offset = 0) (relation : DateRelation) :
    relation.fault? value target = none := by
  have bound : dayFault? target.dayNumber = none := by
    cases target with
    | wholeDay day => exact dayFault?_eq_none day.first_le day.le_last
    | point time => exact dayFault?_of_utc (targetUtc time rfl)
  cases value with
  | day date => cases relation <;> cases target <;> exact bound
  | instant time =>
    have both : (dayFault? time.dayNumber).or (dayFault? target.dayNumber) = none := by
      rw [dayFault?_of_utc utc, bound]
      rfl
    cases relation <;> cases target <;> first | rfl | exact both
  | null | bool _ | number _ | text _ | files _ | links _ | option _ | options _ =>
    cases relation <;> cases target <;> rfl

section
variable {type : CellType} {above below : FilterOp} {argument : String} {test : CellTest}

theorem CellType.Ranges.opensUp (ranges : type.Ranges above below)
    (compiled : type.filterTest above argument = .ok test) : test.OpensUp type := by
  cases ranges with
  | @number format =>
    have same : orNever CellTest.higherThan (readNumber argument) = test := Except.ok.inj compiled
    subst same
    rcases orNever_cases CellTest.higherThan (readNumber argument) with never | ⟨bound, _, read⟩
    · exact never ▸ CellTest.opensUp_never _
    · exact read ▸ opensUp_higherThan format bound
  | @date format =>
    obtain ⟨moment?, _, rfl⟩ := map_eq_ok.1 compiled
    rcases orNever_cases (CellTest.date .after) moment? with never | ⟨target, _, read⟩
    · exact never ▸ CellTest.opensUp_never _
    · exact read ▸ opensUp_after format target

theorem CellType.Ranges.opensDown (ranges : type.Ranges above below)
    (compiled : type.filterTest below argument = .ok test) : test.OpensDown type := by
  cases ranges with
  | @number format =>
    have same : orNever CellTest.lowerThan (readNumber argument) = test := Except.ok.inj compiled
    subst same
    rcases orNever_cases CellTest.lowerThan (readNumber argument) with never | ⟨bound, _, read⟩
    · exact never ▸ CellTest.opensDown_never _
    · exact read ▸ opensDown_lowerThan format bound
  | @date format =>
    obtain ⟨moment?, _, rfl⟩ := map_eq_ok.1 compiled
    rcases orNever_cases (CellTest.date .before) moment? with never | ⟨target, _, read⟩
    · exact never ▸ CellTest.opensDown_never _
    · exact read ▸ opensDown_before format target

theorem CellType.Ranges.fault?_eq_none (ranges : type.Ranges above below) {op : FilterOp}
    (either : op = above ∨ op = below) (compiled : type.filterTest op argument = .ok test)
    {value : Value} (current : type.Current value) (textFault? : Option Fault) :
    test.fault? value textFault? = none := by
  cases ranges with
  | number =>
    rcases either with rfl | rfl
    · have same : orNever CellTest.higherThan (readNumber argument) = test := Except.ok.inj compiled
      subst same
      cases readNumber argument <;> rfl
    · have same : orNever CellTest.lowerThan (readNumber argument) = test := Except.ok.inj compiled
      subst same
      cases readNumber argument <;> rfl
  | @date format =>
    have utc : value.IsUtc := by
      rcases current.date_cases with rfl | ⟨_, date, rfl⟩ | ⟨_, time, rfl, utc⟩
      · trivial
      · trivial
      · exact utc
    have relates (relation : DateRelation) (compiled : momentTest relation argument = .ok test) :
        test.fault? value textFault? = none := by
      obtain ⟨moment?, read, rfl⟩ := map_eq_ok.1 compiled
      cases moment? with
      | none => rfl
      | some target =>
        apply DateRelation.fault?_eq_none utc
        rintro time rfl
        exact Calendar.offset_of_readMoment read
    rcases either with rfl | rfl
    · exact relates .after compiled
    · exact relates .before compiled

end

end Tabula
