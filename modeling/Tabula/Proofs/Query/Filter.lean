import Tabula.Proofs.Except
import Tabula.Proofs.Predicate.Eval
import Tabula.Proofs.Query.FilterKey
import Tabula.Proofs.Schema.Positions

/-!
What filter objects mean: which keys are refused and with what error, and which rows the restriction
of all the others accepts.
-/
namespace Tabula

def FilterObject.keys (filters : FilterObject) : List (FilterKey × FilterValue) :=
  filters.filterMap fun (key, value) => (FilterKey.ofText? key).map (·, value)

/-- An argument of a key that restricts: the only one of an operator without arguments, and any other
operator's that is not blank. -/
def FilterValue.Counts (value : FilterValue) (op : FilterOp) (argument : String) : Prop :=
  if op.isUnary then argument = ""
  else argument ∈ value.arguments ∧ Text.isBlankText argument = false

/-- A key has an effect when its operator takes no argument, or when some argument is not blank. -/
def FilterKey.IsEffective (key : FilterKey) (value : FilterValue) : Prop :=
  ∃ op, FilterOp.ofText? key.op = some op ∧
    (op.isUnary = true ∨ ∃ argument ∈ value.arguments, Text.isBlankText argument = false)

namespace Schema

variable (schema : Schema) (only : Option (List FieldId))

/-- The columns that filters may test: fields that the schema shows and no restriction excludes, and
the system columns that hold instants. -/
inductive Addresses : FilterTarget → FilterColumn → Prop
  | field {id : FieldId} {column : Column} (found : schema.column? id = some column)
      (queryable : schema.isQueryable id = true) (allowed : allowedBy only id = true) :
      Addresses (.field id)
        ⟨.field id, column.field.filterOps, id.text, column.field.tag.name, column.field.filterTest⟩
  | system (column : SystemColumn) :
      Addresses (.system column)
        ⟨.system column, column.filterOps, column.name, column.name, systemTest⟩

structure Resolves (key : FilterKey) (column : FilterColumn) (op : FilterOp) : Prop where
  addresses : schema.Addresses only key.target column
  named : FilterOp.ofText? key.op = some op
  accepted : op ∈ column.ops

/-- A key is refused for its field, then for an operator that does not exist, and then for one that
its column does not accept. -/
inductive Refuses (key : FilterKey) : QueryError → Prop
  | field {id : FieldId} (target : key.target = .field id)
      (excluded : ¬ (schema.isQueryable id = true ∧ allowedBy only id = true)) :
      Refuses key (.filterFieldNotFound id.text)
  | noField {digits : String} (target : key.target = .noField digits) :
      Refuses key (.filterFieldNotFound digits)
  | unknown {column : FilterColumn} (addresses : schema.Addresses only key.target column)
      (unknown : FilterOp.ofText? key.op = none) : Refuses key (.filterTypeDoesNotExist key.op)
  | notAllowed {column : FilterColumn} {op : FilterOp}
      (addresses : schema.Addresses only key.target column)
      (named : FilterOp.ofText? key.op = some op) (foreign : op ∉ column.ops) :
      Refuses key (.filterTypeNotAllowed op.text column.name column.type)

/-- The test that the operator makes of some argument accepts the cell that the key addresses. -/
def KeyMatches (row : Row) (key : FilterKey) (value : FilterValue) : Prop :=
  ∃ column op argument test, schema.Resolves only key column op ∧ value.Counts op argument ∧
    column.test op argument = .ok test ∧ test.acceptsColumn schema row column.key = true

/-- No argument of a key makes its operator break off. -/
def Compiles (key : FilterKey) (value : FilterValue) : Prop :=
  ∀ column op, schema.Resolves only key column op → ∀ argument, value.Counts op argument →
    ∃ test, column.test op argument = .ok test

/-- No test of a key breaks off on the cell that the key addresses. -/
def KeySound (row : Row) (key : FilterKey) (value : FilterValue) : Prop :=
  ∀ column op argument test, schema.Resolves only key column op → value.Counts op argument →
    column.test op argument = .ok test → test.columnFault? schema row column.key = none

/-- The rows that an object describes: under `AND` those that every key with an effect matches, under
`OR` those that at least one matches, and all rows when no key has an effect. -/
def Describes (filters : FilterObject) (mode : String) (row : Row) : Prop :=
  (mode = "AND" ∧ ∀ key value, (key, value) ∈ filters.keys → key.IsEffective value →
    schema.KeyMatches only row key value) ∨
  (mode = "OR" ∧ ∃ key value, (key, value) ∈ filters.keys ∧ key.IsEffective value ∧
    schema.KeyMatches only row key value) ∨
  ∀ key value, (key, value) ∈ filters.keys → ¬ key.IsEffective value

def FirstRefused (filters : FilterObject) (error : QueryError) : Prop :=
  ∃ before key value after, filters.keys = before ++ (key, value) :: after ∧
    (∀ entry ∈ before, ∀ other, ¬ schema.Refuses only entry.1 other) ∧ schema.Refuses only key error

variable {schema only}
variable {target : FilterTarget} {column : FilterColumn} {op : FilterOp} {key : FilterKey}
  {value : FilterValue} {error : QueryError}

theorem filterColumn_eq_ok :
    schema.filterColumn only target = .ok column ↔ schema.Addresses only target column := by
  constructor
  · intro named
    unfold filterColumn at named
    split at named
    · split at named
      · rename_i found
        split at named
        · rename_i allowed
          cases named
          rw [Bool.and_eq_true] at allowed
          exact .field found allowed.1 allowed.2
        · cases named
      · cases named
    · cases named
    · cases named
      exact .system _
  · intro given
    rcases given with ⟨found, queryable, allowed⟩ | column
    · simp [filterColumn, found, queryable, allowed]
    · rfl

theorem filterColumn_of_excluded {id : FieldId}
    (excluded : ¬ (schema.isQueryable id = true ∧ allowedBy only id = true)) :
    schema.filterColumn only (.field id) = .error (.filterFieldNotFound id.text) := by
  rw [← Bool.and_eq_true] at excluded
  unfold filterColumn
  dsimp only
  split
  · rw [if_neg excluded]
  · rfl

theorem isQueryable_column? {id : FieldId} (queryable : schema.isQueryable id = true) :
    ∃ column, schema.column? id = some column := by
  unfold isQueryable byId at queryable
  rw [Bool.and_eq_true, ← isSome_columnAt?] at queryable
  exact Option.isSome_iff_exists.1 queryable.1

theorem resolves_or_refuses (key : FilterKey) :
    (∃ column op, schema.Resolves only key column op) ∨ ∃ error, schema.Refuses only key error := by
  have addressed : (∃ column, schema.Addresses only key.target column) ∨
      ∃ error, schema.Refuses only key error := by
    cases target : key.target with
    | field id =>
      by_cases allowed : schema.isQueryable id = true ∧ allowedBy only id = true
      · obtain ⟨column, found⟩ := isQueryable_column? allowed.1
        exact .inl ⟨_, .field found allowed.1 allowed.2⟩
      · exact .inr ⟨_, .field target allowed⟩
    | noField digits => exact .inr ⟨_, .noField target⟩
    | system column => exact .inl ⟨_, .system column⟩
  rcases addressed with ⟨column, addresses⟩ | refused
  · cases named : FilterOp.ofText? key.op with
    | none => exact .inr ⟨_, .unknown addresses named⟩
    | some op =>
      by_cases accepted : op ∈ column.ops
      · exact .inl ⟨column, op, addresses, named, accepted⟩
      · exact .inr ⟨_, .notAllowed addresses named accepted⟩
  · exact .inr refused

theorem keyPredicate?_of_refuses (refused : schema.Refuses only key error) (value : FilterValue) :
    schema.keyPredicate? only key value = .error (.error error) := by
  unfold keyPredicate?
  cases refused with
  | field target excluded =>
    rw [target, filterColumn_of_excluded excluded]
    rfl
  | noField target =>
    rw [target]
    rfl
  | @unknown column addresses unknown =>
    have failed : column.op key.op = .error (.filterTypeDoesNotExist key.op) := by
      simp only [FilterColumn.op, unknown]
    rw [filterColumn_eq_ok.2 addresses]
    change ((column.op key.op).mapError Failure.error >>= _) = _
    rw [failed]
    rfl
  | @notAllowed column op addresses named foreign =>
    have failed : column.op key.op =
        .error (.filterTypeNotAllowed op.text column.name column.type) := by
      simp only [FilterColumn.op, named, if_neg foreign]
    rw [filterColumn_eq_ok.2 addresses]
    change ((column.op key.op).mapError Failure.error >>= _) = _
    rw [failed]
    rfl

theorem keyPredicate?_eq_map (resolved : schema.Resolves only key column op) :
    schema.keyPredicate? only key value =
      (orFail ((effectiveArguments op value.arguments).mapM (column.test op))).map fun tests =>
        if tests.isEmpty then none
        else some (Predicate.any (tests.map (Predicate.test column.key))) := by
  have accepted : column.op key.op = .ok op := by
    simp only [FilterColumn.op, resolved.named, if_pos resolved.accepted]
  unfold keyPredicate?
  rw [filterColumn_eq_ok.2 resolved.addresses]
  change ((column.op key.op).mapError Failure.error >>= _) = _
  rw [accepted]
  change (orFail ((effectiveArguments op value.arguments).mapM (column.test op)) >>= _) = _
  cases (effectiveArguments op value.arguments).mapM (column.test op) with
  | error fault => rfl
  | ok tests =>
    change (if _ then _ else _) = Except.ok (if _ then _ else _)
    split <;> rfl

theorem keyPredicate?_of_resolves (resolved : schema.Resolves only key column op)
    {tests : List CellTest}
    (made : (effectiveArguments op value.arguments).mapM (column.test op) = .ok tests) :
    schema.keyPredicate? only key value =
      .ok (if tests.isEmpty then none
        else some (Predicate.any (tests.map (Predicate.test column.key)))) := by
  rw [keyPredicate?_eq_map resolved, made]
  rfl

theorem Resolves.unique {other : FilterColumn} {op' : FilterOp}
    (left : schema.Resolves only key column op) (right : schema.Resolves only key other op') :
    column = other ∧ op = op' := by
  have columns := (filterColumn_eq_ok.2 left.addresses).symm.trans
    (filterColumn_eq_ok.2 right.addresses)
  have ops := left.named.symm.trans right.named
  cases columns
  cases ops
  exact ⟨rfl, rfl⟩

theorem mem_effectiveArguments {argument : String} :
    argument ∈ effectiveArguments op value.arguments ↔ value.Counts op argument := by
  unfold effectiveArguments FilterValue.Counts
  split
  · exact List.mem_singleton
  · simp

theorem isEffective_iff (resolved : schema.Resolves only key column op) :
    key.IsEffective value ↔ ∃ argument, value.Counts op argument := by
  unfold FilterKey.IsEffective FilterValue.Counts
  constructor
  · intro given
    obtain ⟨named, found, effect⟩ := given
    rw [resolved.named] at found
    cases found
    split
    · exact ⟨"", rfl⟩
    · rename_i binary
      rcases effect with unary | given
      · exact absurd unary binary
      · exact given
  · intro counted
    refine ⟨op, resolved.named, ?_⟩
    split at counted
    · rename_i unary
      exact .inl unary
    · exact .inr counted

/-- What becomes of a key: nothing without an effect, and else a restriction that accepts a row when
the key matches it and breaks off on no row on which all its tests are sound. -/
structure KeyPart (schema : Schema) (only : Option (List FieldId)) (entry : FilterKey × FilterValue)
    (part? : Option Predicate) : Prop where
  effective : entry.1.IsEffective entry.2 ↔ part? ≠ none
  accepts : ∀ part, part? = some part → ∀ row,
    part.accepts schema row = true ↔ schema.KeyMatches only row entry.1 entry.2
  sound : ∀ part, part? = some part → ∀ row, schema.KeySound only row entry.1 entry.2 →
    part.fault? schema row = none

theorem exists_keyPart (resolved : schema.Resolves only key column op)
    (compiles : schema.Compiles only key value) :
    ∃ part?, schema.keyPredicate? only key value = .ok part? ∧
      schema.KeyPart only (key, value) part? := by
  have each : ∀ argument, value.Counts op argument → ∃ test, column.test op argument = .ok test :=
    compiles column op resolved
  obtain ⟨tests, made⟩ := exists_mapM_eq_ok fun argument counted =>
    each argument (mem_effectiveArguments.1 counted)
  have mem_tests (test : CellTest) : test ∈ tests ↔
      ∃ argument, value.Counts op argument ∧ column.test op argument = .ok test := by
    simp only [mem_of_mapM_eq_ok made, mem_effectiveArguments]
  refine ⟨_, keyPredicate?_of_resolves resolved made, ?_, ?_, ?_⟩
  · rw [isEffective_iff resolved]
    constructor
    · intro given
      obtain ⟨argument, counted⟩ := given
      obtain ⟨test, compiled⟩ := each argument counted
      have member := (mem_tests test).2 ⟨argument, counted, compiled⟩
      rw [if_neg (by simpa using List.ne_nil_of_mem member)]
      exact Option.some_ne_none _
    · intro some
      split at some
      · exact absurd rfl some
      · rename_i filled
        obtain ⟨test, member⟩ := List.exists_mem_of_ne_nil tests (by simpa using filled)
        obtain ⟨argument, counted, _⟩ := (mem_tests test).1 member
        exact ⟨argument, counted⟩
  · intro part same row
    split at same
    · cases same
    · cases same
      rw [Predicate.accepts_any]
      simp only [List.mem_map, exists_exists_and_eq_and, Predicate.accepts]
      constructor
      · intro given
        obtain ⟨test, member, accepted⟩ := given
        obtain ⟨argument, counted, compiled⟩ := (mem_tests test).1 member
        exact ⟨column, op, argument, test, resolved, counted, compiled, accepted⟩
      · intro given
        obtain ⟨other, op', argument, test, resolved', counted, compiled, accepted⟩ := given
        obtain ⟨rfl, rfl⟩ := resolved.unique resolved'
        exact ⟨test, (mem_tests test).2 ⟨argument, counted, compiled⟩, accepted⟩
  · intro part same row sound
    split at same
    · cases same
    · cases same
      apply Predicate.fault?_any
      intro part inside
      obtain ⟨test, member, rfl⟩ := List.mem_map.1 inside
      obtain ⟨argument, counted, compiled⟩ := (mem_tests test).1 member
      exact sound column op argument test resolved counted compiled

theorem keyPredicate?_eq_error (compiles : schema.Compiles only key value)
    {failure : Failure QueryError} :
    schema.keyPredicate? only key value = .error failure ↔
      ∃ error, schema.Refuses only key error ∧ failure = .error error := by
  constructor
  · intro failed
    rcases resolves_or_refuses key with ⟨column, op, resolved⟩ | ⟨error, refused⟩
    · obtain ⟨part?, done, _⟩ := exists_keyPart resolved compiles
      rw [failed] at done
      cases done
    · rw [keyPredicate?_of_refuses refused value] at failed
      cases failed
      exact ⟨error, refused, rfl⟩
  · intro given
    obtain ⟨error, refused, rfl⟩ := given
    exact keyPredicate?_of_refuses refused value

theorem keyPredicate?_eq_ok (compiles : schema.Compiles only key value) :
    (∃ part?, schema.keyPredicate? only key value = .ok part?) ↔
      ∀ error, ¬ schema.Refuses only key error := by
  constructor
  · intro given error refused
    obtain ⟨part?, done⟩ := given
    rw [keyPredicate?_of_refuses refused value] at done
    cases done
  · intro free
    rcases resolves_or_refuses key with ⟨column, op, resolved⟩ | ⟨error, refused⟩
    · obtain ⟨part?, done, _⟩ := exists_keyPart resolved compiles
      exact ⟨part?, done⟩
    · exact absurd refused (free error)

theorem keyPart_of_eq_ok (compiles : schema.Compiles only key value) {part? : Option Predicate}
    (done : schema.keyPredicate? only key value = .ok part?) :
    schema.KeyPart only (key, value) part? := by
  rcases resolves_or_refuses key with ⟨column, op, resolved⟩ | ⟨error, refused⟩
  · obtain ⟨other, same, part⟩ := exists_keyPart resolved compiles
    rw [done] at same
    cases same
    exact part
  · rw [keyPredicate?_of_refuses refused value] at done
    cases done

variable {filters : FilterObject}

theorem keys_cons_of_none {text : String} (plain : FilterKey.ofText? text = none)
    (value : FilterValue) (rest : FilterObject) :
    FilterObject.keys ((text, value) :: rest) = rest.keys := by
  unfold FilterObject.keys
  apply List.filterMap_cons_none
  exact congrArg (Option.map (·, value)) plain

theorem keys_cons_of_some {text : String} (read : FilterKey.ofText? text = some key)
    (value : FilterValue) (rest : FilterObject) :
    FilterObject.keys ((text, value) :: rest) = (key, value) :: rest.keys := by
  unfold FilterObject.keys
  apply List.filterMap_cons_some
  exact congrArg (Option.map (·, value)) read

theorem keyPredicates_eq (filters : FilterObject) :
    schema.keyPredicates only filters =
      (filters.keys.mapM fun entry => schema.keyPredicate? only entry.1 entry.2).map
        (List.filterMap id) := by
  induction filters with
  | nil => rfl
  | cons entry rest ih =>
    obtain ⟨text, value⟩ := entry
    unfold keyPredicates
    cases read : FilterKey.ofText? text with
    | none =>
      rw [keys_cons_of_none read]
      exact ih
    | some key =>
      dsimp only
      rw [keys_cons_of_some read, List.mapM_cons, ih]
      cases schema.keyPredicate? only key value with
      | error failure => rfl
      | ok part? =>
        cases (FilterObject.keys rest).mapM fun entry => schema.keyPredicate? only entry.1 entry.2 with
        | error failure => rfl
        | ok parts => cases part? <;> rfl

def combine (parts : List Predicate) : FilterMode → Predicate
  | .and => .all parts
  | .or => if parts.isEmpty then .everything else .any parts

theorem filterPredicate_eq {text : String} {mode : FilterMode} (read : FilterMode.ofText text = .ok mode)
    (filters : FilterObject) :
    schema.filterPredicate only filters text =
      (filters.keys.mapM fun entry => schema.keyPredicate? only entry.1 entry.2).map
        fun parts => combine (parts.filterMap id) mode := by
  unfold filterPredicate
  rw [read, keyPredicates_eq]
  cases filters.keys.mapM fun entry => schema.keyPredicate? only entry.1 entry.2 with
  | error failure => rfl
  | ok parts => cases mode <;> rfl

section
variable {keys : List (FilterKey × FilterValue)} {parts : List (Option Predicate)} {row : Row}

theorem forall_parts (related : List.Forall₂ (schema.KeyPart only) keys parts) :
    (∀ part ∈ parts.filterMap id, part.accepts schema row = true) ↔
      ∀ key value, (key, value) ∈ keys → key.IsEffective value →
        schema.KeyMatches only row key value := by
  have each : (∀ entry ∈ keys, entry.1.IsEffective entry.2 →
      schema.KeyMatches only row entry.1 entry.2) ↔
        ∀ part? ∈ parts, ∀ part, part? = some part → part.accepts schema row = true := by
    apply forall_mem_iff_of_forall₂ related
    intro entry part? kept
    rw [kept.effective]
    cases part? with
    | none => simp
    | some part => simp [kept.accepts part rfl]
  rw [Prod.forall] at each
  rw [each]
  constructor
  · intro all part? member part same
    subst same
    exact all part (List.mem_filterMap.2 ⟨some part, member, rfl⟩)
  · intro all part member
    obtain ⟨part?, inside, same⟩ := List.mem_filterMap.1 member
    exact all part? inside part same

theorem exists_part (related : List.Forall₂ (schema.KeyPart only) keys parts) :
    (∃ part ∈ parts.filterMap id, part.accepts schema row = true) ↔
      ∃ key value, (key, value) ∈ keys ∧ key.IsEffective value ∧
        schema.KeyMatches only row key value := by
  have each : (∃ entry ∈ keys, entry.1.IsEffective entry.2 ∧
      schema.KeyMatches only row entry.1 entry.2) ↔
        ∃ part? ∈ parts, ∃ part, part? = some part ∧ part.accepts schema row = true := by
    apply exists_mem_iff_of_forall₂ related
    intro entry part? kept
    rw [kept.effective]
    cases part? with
    | none => simp
    | some part => simp [kept.accepts part rfl]
  rw [Prod.exists] at each
  rw [each]
  simp [List.mem_filterMap]

theorem parts_eq_nil (related : List.Forall₂ (schema.KeyPart only) keys parts) :
    parts.filterMap id = [] ↔ ∀ key value, (key, value) ∈ keys → ¬ key.IsEffective value := by
  have each : (∀ entry ∈ keys, ¬ entry.1.IsEffective entry.2) ↔ ∀ part? ∈ parts, part? = none := by
    apply forall_mem_iff_of_forall₂ related
    intro entry part? kept
    rw [kept.effective, not_not]
  rw [Prod.forall] at each
  rw [each, List.filterMap_eq_nil_iff]
  rfl

theorem fault?_part (related : List.Forall₂ (schema.KeyPart only) keys parts)
    (sound : ∀ entry ∈ keys, schema.KeySound only row entry.1 entry.2) :
    ∀ part ∈ parts.filterMap id, part.fault? schema row = none := by
  intro part member
  obtain ⟨entry, inside, kept⟩ := exists_of_mem_of_forall₂ related
    (by simpa [List.mem_filterMap] using member)
  exact kept.sound part rfl row (sound entry inside)

end

theorem ofText_eq_ok {text : String} {mode : FilterMode} :
    FilterMode.ofText text = .ok mode ↔
      (mode = .and ∧ text = "AND") ∨ (mode = .or ∧ text = "OR") := by
  unfold FilterMode.ofText
  split
  · constructor
    · intro read
      cases read
      exact .inl ⟨rfl, rfl⟩
    · intro given
      rcases given with ⟨rfl, _⟩ | ⟨_, other⟩
      · rfl
      · exact absurd other (by decide)
  · constructor
    · intro read
      cases read
      exact .inr ⟨rfl, rfl⟩
    · intro given
      rcases given with ⟨_, other⟩ | ⟨rfl, _⟩
      · exact absurd other (by decide)
      · rfl
  · rename_i notAnd notOr
    constructor
    · intro read
      cases read
    · intro given
      rcases given with ⟨_, same⟩ | ⟨_, same⟩
      · exact absurd same notAnd
      · exact absurd same notOr

theorem accepts_combine {parts : List (Option Predicate)} {mode : FilterMode} {text : String}
    (read : FilterMode.ofText text = .ok mode)
    (related : List.Forall₂ (schema.KeyPart only) filters.keys parts) (row : Row) :
    (combine (parts.filterMap id) mode).accepts schema row = true ↔
      schema.Describes only filters text row := by
  unfold Describes
  rw [← forall_parts related, ← exists_part related, ← parts_eq_nil related]
  rcases ofText_eq_ok.1 read with ⟨rfl, rfl⟩ | ⟨rfl, rfl⟩
  · rw [combine, Predicate.accepts_all]
    constructor
    · intro every
      exact .inl ⟨rfl, every⟩
    · intro given
      rcases given with ⟨_, every⟩ | ⟨other, _⟩ | none
      · exact every
      · exact absurd other (by decide)
      · rw [none]
        nofun
  · unfold combine
    dsimp only
    split
    · rename_i empty
      constructor
      · intro _
        exact .inr (.inr (List.isEmpty_iff.1 empty))
      · intro _
        rfl
    · rename_i filled
      rw [Predicate.accepts_any]
      constructor
      · intro some
        exact .inr (.inl ⟨rfl, some⟩)
      · intro given
        rcases given with ⟨other, _⟩ | ⟨_, some⟩ | none
        · exact absurd other (by decide)
        · exact some
        · exact absurd (List.isEmpty_iff.2 none) filled

theorem fault?_combine {parts : List Predicate} {row : Row}
    (sound : ∀ part ∈ parts, part.fault? schema row = none) (mode : FilterMode) :
    (combine parts mode).fault? schema row = none := by
  cases mode with
  | and => exact Predicate.fault?_all sound
  | or =>
    unfold combine
    dsimp only
    split
    · rfl
    · exact Predicate.fault?_any sound

theorem filterPredicate_of_unknown {text : String} (unknown : text ∉ ["AND", "OR"])
    (filters : FilterObject) :
    schema.filterPredicate only filters text =
      .error (.error (.invalidArgument s!"filter_type must be AND or OR, got '{text}'")) := by
  have read : FilterMode.ofText text =
      .error (.invalidArgument s!"filter_type must be AND or OR, got '{text}'") := by
    unfold FilterMode.ofText
    split
    · exact absurd List.mem_cons_self unknown
    · exact absurd (List.mem_cons_of_mem _ List.mem_cons_self) unknown
    · rfl
  unfold filterPredicate
  rw [read]
  rfl

theorem exists_mode {text : String} (known : text ∈ ["AND", "OR"]) :
    ∃ mode, FilterMode.ofText text = .ok mode := by
  rcases List.mem_pair.1 known with rfl | rfl
  · exact ⟨.and, rfl⟩
  · exact ⟨.or, rfl⟩

theorem keys_eq (filters : FilterObject) :
    filters.keys =
      FilterObject.keys (filters.filter fun entry => (FilterKey.ofText? entry.1).isSome) := by
  induction filters with
  | nil => rfl
  | cons entry rest ih =>
    obtain ⟨text, value⟩ := entry
    cases read : FilterKey.ofText? text with
    | none =>
      rw [keys_cons_of_none read, ih, List.filter_cons_of_neg (by simp [read])]
    | some key =>
      rw [keys_cons_of_some read, ih, List.filter_cons_of_pos (by simp [read]),
        keys_cons_of_some read]

theorem mem_keys : (key, value) ∈ filters.keys ↔
    ∃ text, (text, value) ∈ filters ∧ FilterKey.ofText? text = some key := by
  unfold FilterObject.keys
  rw [List.mem_filterMap]
  constructor
  · intro member
    obtain ⟨⟨text, given⟩, member, read⟩ := member
    obtain ⟨found, same, equal⟩ := Option.map_eq_some_iff.1 read
    cases equal
    exact ⟨text, member, same⟩
  · intro given
    obtain ⟨text, member, read⟩ := given
    exact ⟨(text, value), member, congrArg (Option.map (·, value)) read⟩

section
variable {mode : String}
  (compiles : ∀ key value, (key, value) ∈ filters.keys → schema.Compiles only key value)
include compiles

theorem mapM_keyPredicate?_eq_error {failure : Failure QueryError} :
    (filters.keys.mapM fun entry => schema.keyPredicate? only entry.1 entry.2) = .error failure ↔
      ∃ error, schema.FirstRefused only filters error ∧ failure = .error error := by
  rw [mapM_eq_error]
  constructor
  · intro given
    obtain ⟨before, ⟨key, value⟩, after, split, passed, failed⟩ := given
    have member : (key, value) ∈ filters.keys := by
      rw [split]
      exact List.mem_append_right _ List.mem_cons_self
    obtain ⟨error, refused, same⟩ := (keyPredicate?_eq_error (compiles key value member)).1 failed
    refine ⟨error, ⟨before, key, value, after, split, ?_, refused⟩, same⟩
    intro entry inside
    have earlier : entry ∈ filters.keys := by
      rw [split]
      exact List.mem_append_left _ inside
    exact (keyPredicate?_eq_ok (compiles _ _ earlier)).1 (passed entry inside)
  · intro given
    obtain ⟨error, ⟨before, key, value, after, split, free, refused⟩, rfl⟩ := given
    refine ⟨before, (key, value), after, split, ?_, keyPredicate?_of_refuses refused value⟩
    intro entry inside
    have earlier : entry ∈ filters.keys := by
      rw [split]
      exact List.mem_append_left _ inside
    exact (keyPredicate?_eq_ok (compiles _ _ earlier)).2 (free entry inside)

theorem filterPredicate_eq_error {failure : Failure QueryError} :
    schema.filterPredicate only filters mode = .error failure ↔
      (mode ∉ ["AND", "OR"] ∧
        failure = .error (.invalidArgument s!"filter_type must be AND or OR, got '{mode}'")) ∨
      (mode ∈ ["AND", "OR"] ∧
        ∃ error, schema.FirstRefused only filters error ∧ failure = .error error) := by
  by_cases known : mode ∈ ["AND", "OR"]
  · obtain ⟨_, read⟩ := exists_mode known
    rw [filterPredicate_eq read, map_eq_error, mapM_keyPredicate?_eq_error compiles]
    simp only [known, not_true_eq_false, false_and, true_and, false_or]
  · rw [filterPredicate_of_unknown known]
    simp [known, eq_comm]

theorem filterPredicate_eq_ok {predicate : Predicate}
    (done : schema.filterPredicate only filters mode = .ok predicate) :
    mode ∈ ["AND", "OR"] ∧
      (∀ key value, (key, value) ∈ filters.keys → ∀ error, ¬ schema.Refuses only key error) ∧
      ∀ row, (predicate.accepts schema row = true ↔ schema.Describes only filters mode row) ∧
        ((∀ key value, (key, value) ∈ filters.keys → schema.KeySound only row key value) →
          predicate.fault? schema row = none) := by
  by_cases known : mode ∈ ["AND", "OR"]
  · obtain ⟨_, read⟩ := exists_mode known
    rw [filterPredicate_eq read, map_eq_ok] at done
    obtain ⟨parts, made, rfl⟩ := done
    have steps : List.Forall₂ (fun (entry : FilterKey × FilterValue) part? =>
        schema.Compiles only entry.1 entry.2 ∧
          schema.keyPredicate? only entry.1 entry.2 = .ok part?) filters.keys parts :=
      (List.forall₂_and_left _ _).2
        ⟨fun entry member => compiles entry.1 entry.2 member, mapM_eq_ok.1 made⟩
    have related : List.Forall₂ (schema.KeyPart only) filters.keys parts :=
      steps.imp fun _ _ step => keyPart_of_eq_ok step.1 step.2
    have free : ∀ entry ∈ filters.keys, ∀ error, ¬ schema.Refuses only entry.1 error := by
      have passed (entry : FilterKey × FilterValue) (part? : Option Predicate)
          (step : schema.Compiles only entry.1 entry.2 ∧
            schema.keyPredicate? only entry.1 entry.2 = .ok part?) :
          (∀ error, ¬ schema.Refuses only entry.1 error) ↔ True :=
        iff_true_intro ((keyPredicate?_eq_ok step.1).1 ⟨part?, step.2⟩)
      exact (forall_mem_iff_of_forall₂ steps passed).2 fun _ _ => trivial
    refine ⟨known, fun key value member => free (key, value) member, ?_⟩
    intro row
    refine ⟨accepts_combine read related row, ?_⟩
    intro sound
    exact fault?_combine (fault?_part related fun entry member => sound entry.1 entry.2 member) _
  · rw [filterPredicate_of_unknown known] at done
    cases done

end

end Schema

/-- A filter object is refused exactly for its type or for a key, the type first and then the first
such key; else its restriction accepts the rows that it describes. Keys of no filter have no part in
either, and breaking off comes only from the tests of its keys. -/
theorem filter_object_means (schema : Schema) (only : Option (List FieldId)) (filters : FilterObject)
    (mode : String)
    (compiles : ∀ key value, (key, value) ∈ filters.keys → schema.Compiles only key value) :
    (∀ text, (FilterKey.ofText? text).isSome = true ↔ ∃ target op, Spells text target op) ∧
    (∀ text target op target' op', Spells text target op → Spells text target' op' →
      target = target' ∧ op = op') ∧
    (∀ others : FilterObject,
      (others.filter fun entry => (FilterKey.ofText? entry.1).isSome) =
        (filters.filter fun entry => (FilterKey.ofText? entry.1).isSome) →
      schema.filterPredicate only others mode = schema.filterPredicate only filters mode) ∧
    (∀ predicate, schema.filterPredicate only filters mode = .ok predicate → ∀ row,
      (predicate.accepts schema row = true ↔ schema.Describes only filters mode row) ∧
      ((∀ key value, (key, value) ∈ filters.keys → schema.KeySound only row key value) →
        predicate.fault? schema row = none)) ∧
    ((∃ failure, schema.filterPredicate only filters mode = .error failure) ↔
      mode ∉ ["AND", "OR"] ∨ ∃ text value key error, (text, value) ∈ filters ∧
        FilterKey.ofText? text = some key ∧ schema.Refuses only key error) ∧
    (∀ failure, schema.filterPredicate only filters mode = .error failure ↔
      (mode ∉ ["AND", "OR"] ∧
        failure = .error (.invalidArgument s!"filter_type must be AND or OR, got '{mode}'")) ∨
      (mode ∈ ["AND", "OR"] ∧
        ∃ error, schema.FirstRefused only filters error ∧ failure = .error error)) := by
  refine ⟨fun text => ofText?_isSome, fun _ _ _ _ _ => Spells.unique, ?_, ?_, ?_, ?_⟩
  · intro others same
    have keys : others.keys = filters.keys := by
      rw [Schema.keys_eq others, same, ← Schema.keys_eq filters]
    unfold Schema.filterPredicate
    rw [Schema.keyPredicates_eq, Schema.keyPredicates_eq, keys]
  · intro predicate done
    exact (Schema.filterPredicate_eq_ok compiles done).2.2
  · constructor
    · intro given
      obtain ⟨failure, failed⟩ := given
      rcases (Schema.filterPredicate_eq_error compiles).1 failed with
        ⟨unknown, _⟩ | ⟨_, error, ⟨before, key, value, after, split, _, refused⟩, _⟩
      · exact .inl unknown
      · have member : (key, value) ∈ filters.keys := by
          rw [split]
          exact List.mem_append_right _ List.mem_cons_self
        obtain ⟨text, inside, read⟩ := Schema.mem_keys.1 member
        exact .inr ⟨text, value, key, error, inside, read, refused⟩
    · intro wrong
      cases outcome : schema.filterPredicate only filters mode with
      | error failure => exact ⟨failure, rfl⟩
      | ok predicate =>
        obtain ⟨known, free, _⟩ := Schema.filterPredicate_eq_ok compiles outcome
        rcases wrong with unknown | ⟨text, value, key, error, inside, read, refused⟩
        · exact absurd known unknown
        · exact absurd refused (free key value (Schema.mem_keys.2 ⟨text, inside, read⟩) error)
  · intro failure
    exact Schema.filterPredicate_eq_error compiles

/-! One key with a blank and a filled argument, and one key of no filter. -/

def noteTable : Table where
  id := ⟨3⟩
  database := ⟨2⟩
  name := "t"
  order := 1
  fields := [⟨⟨4⟩, ⟨3⟩, "Note", 1, false, .stored .longText⟩]

def noteFilters : FilterObject :=
  [("color", .one (.text "red")), ("filter__field_4__equal", .many [.text " ", .text "x"])]

theorem keys_noteFilters :
    noteFilters.keys = [(⟨.field ⟨4⟩, "equal"⟩, .many [.text " ", .text "x"])] := by
  rfl

theorem compiles_noteFilters (key : FilterKey) (value : FilterValue)
    (member : (key, value) ∈ noteFilters.keys) :
    (Schema.ofTable noteTable {}).Compiles none key value := by
  rw [keys_noteFilters, List.mem_singleton] at member
  cases member
  intro column op resolved argument _
  obtain ⟨addresses, _, _⟩ := resolved
  cases addresses with
  | field found queryable allowed =>
    cases found
    exact ⟨textTest op argument, rfl⟩

theorem note_filter_means :
    (Schema.ofTable noteTable {}).filterPredicate none noteFilters "OR" =
        .ok (.test (.field ⟨4⟩) (.equals (.text "x"))) ∧
      ∀ row, Predicate.accepts (Schema.ofTable noteTable {}) row
          (.test (.field ⟨4⟩) (.equals (.text "x"))) = true ↔
        (Schema.ofTable noteTable {}).Describes none noteFilters "OR" row := by
  have done : (Schema.ofTable noteTable {}).filterPredicate none noteFilters "OR" =
      .ok (.test (.field ⟨4⟩) (.equals (.text "x"))) := rfl
  have means := filter_object_means (Schema.ofTable noteTable {}) none noteFilters "OR"
    compiles_noteFilters
  refine ⟨done, ?_⟩
  intro row
  exact (means.2.2.2.1 _ done row).1

end Tabula
