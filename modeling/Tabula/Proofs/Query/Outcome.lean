import Tabula.Proofs.Calendar.Reader
import Tabula.Proofs.Query.Filter
import Tabula.Query.Basic

/-!
What building a query from filter objects comes to, for all objects and types: a query, an error, or
a break on the way. Searches and orderings come to a query or an error by their types.
-/
namespace Tabula
open Calendar

namespace Schema

variable (schema : Schema) (only : Option (List FieldId))

/-- A key compares instants with an argument that lies, in UTC, behind the last day of the calendar. -/
def Overreaches (key : FilterKey) (value : FilterValue) : Prop :=
  ∃ column op argument, schema.Resolves only key column op ∧ op.dateRelation? ≠ none ∧
    value.Counts op argument ∧ IsLate (Text.trimChars argument.toList)

/-- A key is neither refused nor overreaches. -/
def Passes (key : FilterKey) (value : FilterValue) : Prop :=
  (∀ error, ¬ schema.Refuses only key error) ∧ ¬ schema.Overreaches only key value

def FirstStopped (filters : FilterObject) (key : FilterKey) (value : FilterValue) : Prop :=
  ∃ before after, filters.keys = before ++ (key, value) :: after ∧
    (∀ entry ∈ before, schema.Passes only entry.1 entry.2) ∧ ¬ schema.Passes only key value

variable {schema only}
variable {target : FilterTarget} {column : FilterColumn} {op : FilterOp} {key : FilterKey}
  {value : FilterValue}

theorem momentTest_eq_error {relation : DateRelation} {argument : String} {fault : Fault} :
    momentTest relation argument = .error fault ↔
      fault = .calendarExceeded ∧ IsLate (Text.trimChars argument.toList) := by
  unfold momentTest
  rw [map_eq_error, readMoment_eq_error]

theorem relationTest_eq_error {test : CellTest} {argument : String} {fault : Fault} :
    (match op.dateRelation? with
      | some relation => momentTest relation argument
      | none => .ok test) = .error fault ↔
      op.dateRelation? ≠ none ∧ fault = .calendarExceeded ∧
        IsLate (Text.trimChars argument.toList) := by
  cases op.dateRelation? with
  | none => simp
  | some relation => simp [momentTest_eq_error]

theorem exists_date_of_dateRelation? {type : CellType} (accepted : op ∈ type.filterOps)
    (related : op.dateRelation? ≠ none) : ∃ format, type = .date format := by
  have plain : ∀ ops ∈ [textOps, shortTextOps, numberOps, [.boolean], fileOps, singleSelectOps,
      multipleSelectOps, []], ∀ op ∈ ops, FilterOp.dateRelation? op = none := by
    decide
  cases type with
  | date format => exact ⟨format, rfl⟩
  | text _ | longText | phoneNumber | ai _ | number _ | boolean | file | singleSelect _
  | multipleSelect _ | linkRow _ =>
    refine absurd (plain _ ?_ op accepted) related
    simp [CellType.filterOps]

theorem cellTest_eq_error {type : CellType} (accepted : op ∈ type.filterOps) {argument : String}
    {fault : Fault} :
    type.filterTest op argument = .error fault ↔
      op.dateRelation? ≠ none ∧ fault = .calendarExceeded ∧
        IsLate (Text.trimChars argument.toList) := by
  constructor
  · intro broken
    cases type with
    | date format => exact relationTest_eq_error.1 broken
    | text _ | longText | phoneNumber | ai _ | number _ | boolean | file | singleSelect _
    | multipleSelect _ | linkRow _ => cases broken
  · intro given
    obtain ⟨format, rfl⟩ := exists_date_of_dateRelation? accepted given.1
    exact relationTest_eq_error.2 given

/-- Tests break off in comparing instants with late arguments, and nowhere else. -/
theorem Addresses.test_eq_error (addresses : schema.Addresses only target column)
    (accepted : op ∈ column.ops) {argument : String} {fault : Fault} :
    column.test op argument = .error fault ↔
      op.dateRelation? ≠ none ∧ fault = .calendarExceeded ∧
        IsLate (Text.trimChars argument.toList) := by
  cases addresses with
  | field found queryable allowed => exact cellTest_eq_error accepted
  | system column => exact relationTest_eq_error

theorem keyPredicate?_eq_fault {fault : Fault} :
    schema.keyPredicate? only key value = .error (.fault fault) ↔
      fault = .calendarExceeded ∧ schema.Overreaches only key value := by
  constructor
  · intro broken
    rcases resolves_or_refuses key with ⟨column, op, resolved⟩ | ⟨error, refused⟩
    · rw [keyPredicate?_eq_map resolved, map_eq_error, orFail_eq_fault, mapM_eq_error] at broken
      obtain ⟨_, argument, _, arguments, _, failed⟩ := broken
      obtain ⟨related, rfl, late⟩ := (resolved.addresses.test_eq_error resolved.accepted).1 failed
      refine ⟨rfl, column, op, argument, resolved, related, ?_, late⟩
      apply mem_effectiveArguments.1
      rw [arguments]
      exact List.mem_append_right _ List.mem_cons_self
    · rw [keyPredicate?_of_refuses refused value] at broken
      cases broken
  · rintro ⟨rfl, column, op, argument, resolved, related, counted, late⟩
    rw [keyPredicate?_eq_map resolved, map_eq_error, orFail_eq_fault]
    cases outcome : (effectiveArguments op value.arguments).mapM (column.test op) with
    | ok tests =>
      obtain ⟨test, passed⟩ :=
        exists_of_mapM_eq_ok outcome argument (mem_effectiveArguments.2 counted)
      rw [(resolved.addresses.test_eq_error resolved.accepted).2 ⟨related, rfl, late⟩] at passed
      cases passed
    | error other =>
      obtain ⟨_, argument, _, _, _, failed⟩ := mapM_eq_error.1 outcome
      obtain ⟨_, rfl, _⟩ := (resolved.addresses.test_eq_error resolved.accepted).1 failed
      rfl

theorem keyPredicate?_eq_refused {error : QueryError} :
    schema.keyPredicate? only key value = .error (.error error) ↔ schema.Refuses only key error := by
  constructor
  · intro failed
    rcases resolves_or_refuses key with ⟨column, op, resolved⟩ | ⟨other, refused⟩
    · rw [keyPredicate?_eq_map resolved, map_eq_error] at failed
      exact absurd failed orFail_ne_error
    · rw [keyPredicate?_of_refuses refused value] at failed
      cases failed
      exact refused
  · intro refused
    exact keyPredicate?_of_refuses refused value

theorem passes_iff :
    schema.Passes only key value ↔ ∃ part?, schema.keyPredicate? only key value = .ok part? := by
  constructor
  · rintro ⟨free, within⟩
    cases outcome : schema.keyPredicate? only key value with
    | ok part? => exact ⟨part?, rfl⟩
    | error failure =>
      cases failure with
      | fault fault => exact absurd (keyPredicate?_eq_fault.1 outcome).2 within
      | error error => exact absurd (keyPredicate?_eq_refused.1 outcome) (free error)
  · rintro ⟨part?, done⟩
    constructor
    · intro error refused
      rw [keyPredicate?_eq_refused.2 refused] at done
      cases done
    · intro beyond
      rw [keyPredicate?_eq_fault.2 ⟨rfl, beyond⟩] at done
      cases done

variable {filters : FilterObject} {mode : String}

theorem mapM_keyPredicate?_eq_failure {failure : Failure QueryError} :
    (filters.keys.mapM fun entry => schema.keyPredicate? only entry.1 entry.2) = .error failure ↔
      ∃ key value, schema.FirstStopped only filters key value ∧
        schema.keyPredicate? only key value = .error failure := by
  rw [mapM_eq_error]
  simp only [← passes_iff]
  constructor
  · rintro ⟨before, ⟨key, value⟩, after, keys, passed, failed⟩
    refine ⟨key, value, ⟨before, after, keys, passed, ?_⟩, failed⟩
    rw [passes_iff, failed]
    simp
  · rintro ⟨key, value, ⟨before, after, keys, passed, _⟩, failed⟩
    exact ⟨before, (key, value), after, keys, passed, failed⟩

/-- An object is refused for its type, and else for the first key that does not pass. -/
theorem filterPredicate_eq_failure {failure : Failure QueryError} :
    schema.filterPredicate only filters mode = .error failure ↔
      (mode ∉ ["AND", "OR"] ∧
        failure = .error (.invalidArgument s!"filter_type must be AND or OR, got '{mode}'")) ∨
      (mode ∈ ["AND", "OR"] ∧ ∃ key value, schema.FirstStopped only filters key value ∧
        schema.keyPredicate? only key value = .error failure) := by
  by_cases known : mode ∈ ["AND", "OR"]
  · obtain ⟨_, read⟩ := exists_mode known
    rw [filterPredicate_eq read, map_eq_error, mapM_keyPredicate?_eq_failure]
    simp only [known, not_true_eq_false, false_and, true_and, false_or]
  · rw [filterPredicate_of_unknown known]
    simp [known, eq_comm]

theorem exists_filterPredicate_eq_ok :
    (∃ predicate, schema.filterPredicate only filters mode = .ok predicate) ↔
      mode ∈ ["AND", "OR"] ∧ ∀ entry ∈ filters.keys, schema.Passes only entry.1 entry.2 := by
  by_cases known : mode ∈ ["AND", "OR"]
  · obtain ⟨_, read⟩ := exists_mode known
    simp only [filterPredicate_eq read, map_eq_ok, passes_iff, known, true_and]
    constructor
    · rintro ⟨_, parts, made, _⟩
      exact exists_of_mapM_eq_ok made
    · intro passed
      obtain ⟨parts, made⟩ := exists_mapM_eq_ok passed
      exact ⟨_, parts, made, rfl⟩
  · rw [filterPredicate_of_unknown known]
    simp [known]

end Schema

theorem Query.filterByObject_eq (query : Query) (filters : FilterObject) (mode : String) :
    query.filterByObject filters mode =
      (query.schema.filterPredicate query.only filters mode).map query.filter := by
  unfold Query.filterByObject
  cases query.schema.filterPredicate query.only filters mode <;> rfl

/-- A filter object builds a query exactly when its type is known and all its keys pass; it breaks off
exactly when the first key that does not pass overreaches, and is refused with an error of its own in
all other cases. -/
theorem filterByObject_outcome (query : Query) (filters : FilterObject) (mode : String) :
    ((∃ later, query.filterByObject filters mode = .ok later) ↔
      mode ∈ ["AND", "OR"] ∧
        ∀ entry ∈ filters.keys, query.schema.Passes query.only entry.1 entry.2) ∧
    (∀ fault, query.filterByObject filters mode = .error (.fault fault) ↔
      fault = .calendarExceeded ∧ mode ∈ ["AND", "OR"] ∧
        ∃ key value, query.schema.FirstStopped query.only filters key value ∧
          query.schema.Overreaches query.only key value) ∧
    (∀ error, query.filterByObject filters mode = .error (.error error) ↔
      (mode ∉ ["AND", "OR"] ∧
        error = .invalidArgument s!"filter_type must be AND or OR, got '{mode}'") ∨
      (mode ∈ ["AND", "OR"] ∧
        ∃ key value, query.schema.FirstStopped query.only filters key value ∧
          query.schema.Refuses query.only key error)) := by
  rw [query.filterByObject_eq]
  refine ⟨?_, ?_, ?_⟩
  · rw [← Schema.exists_filterPredicate_eq_ok]
    simp only [map_eq_ok, exists_comm (α := Query), exists_and_left, exists_eq', and_true]
  · intro fault
    rw [map_eq_error, Schema.filterPredicate_eq_failure]
    simp only [Schema.keyPredicate?_eq_fault]
    constructor
    · rintro (⟨_, other⟩ | ⟨known, key, value, first, same, beyond⟩)
      · cases other
      · exact ⟨same, known, key, value, first, beyond⟩
    · rintro ⟨same, known, key, value, first, beyond⟩
      exact .inr ⟨known, key, value, first, same, beyond⟩
  · intro error
    rw [map_eq_error, Schema.filterPredicate_eq_failure]
    simp only [Schema.keyPredicate?_eq_refused, Failure.error.injEq]

/-! One day, compared with the last second of the calendar an hour behind UTC. -/

def dayTable : Table where
  id := ⟨3⟩
  database := ⟨2⟩
  name := "t"
  order := 1
  fields := [⟨⟨4⟩, ⟨3⟩, "Day", 1, false, .stored (.date {})⟩]

def lateFilters : FilterObject :=
  [("filter__field_4__date_equal", .one (.text "9999-12-31T23:59:59-01:00"))]

theorem not_all_filters_built :
    ¬ ∀ (table : Table) (options : ComposeOptions) (schema : Schema)
        (only : Option (List FieldId)) (filters : FilterObject) (mode : String),
      Schema.compose table options = .ok schema →
      (∃ later, Query.filterByObject { schema, only } filters mode = .ok later) ∨
        ∃ error, Query.filterByObject { schema, only } filters mode = .error (.error error) := by
  intro refuted
  have broken : Query.filterByObject { schema := Schema.ofTable dayTable {} } lateFilters "AND" =
      .error (.fault .calendarExceeded) := by
    rfl
  rcases refuted dayTable {} _ none lateFilters "AND" rfl with ⟨later, built⟩ | ⟨error, refused⟩
  · rw [broken] at built
    cases built
  · rw [broken] at refused
    cases refused

end Tabula
