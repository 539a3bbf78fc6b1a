import Tabula.Proofs.Db.Execute
import Tabula.Proofs.Predicate.Both
import Tabula.Proofs.Query.Outcome

/-!
Restrictions that are added to a query one after the other: each by itself accepts some rows, and the
query those that all accept. Their order decides at most whether there is an answer.
-/
namespace Tabula

inductive Restriction
  | search (text : String)
  | rows (predicate : Predicate)
  | object (filters : FilterObject) (mode : String)

namespace Restriction

def apply (config : Config) (query : Query) : Restriction → Except (Failure QueryError) Query
  | search text => .ok (query.search config text)
  | rows predicate => .ok (query.filter predicate)
  | object filters mode => query.filterByObject filters mode

/-- What a call restricts a query to, whatever was before. -/
def predicate (config : Config) (query : Query) : Restriction → Except (Failure QueryError) Predicate
  | search text => .ok (query.schema.searchPredicate config.matchRowId text)
  | rows predicate => .ok predicate
  | object filters mode => query.schema.filterPredicate query.only filters mode

theorem apply_eq (config : Config) (query : Query) (call : Restriction) :
    call.apply config query = (call.predicate config query).map query.filter := by
  cases call with
  | search text => rfl
  | rows predicate => rfl
  | object filters mode => exact query.filterByObject_eq filters mode

end Restriction

namespace Query

def restrict (config : Config) (query : Query) (calls : List Restriction) :
    Except (Failure QueryError) Query :=
  calls.foldlM (Restriction.apply config) query

def unrestricted (query : Query) : Query := { query with predicate := .everything }

variable {config : Config} {query later : Query} {calls : List Restriction}

theorem restrict_eq_ok : query.restrict config calls = .ok later ↔
    ∃ parts, List.Forall₂ (fun call part => call.predicate config query = .ok part) calls parts ∧
      later = { query with predicate := parts.foldl Predicate.both query.predicate } := by
  induction calls generalizing query with
  | nil =>
    constructor
    · intro built
      cases built
      exact ⟨[], .nil, rfl⟩
    · rintro ⟨parts, made, rfl⟩
      cases made
      rfl
  | cons call calls ih =>
    have first : query.restrict config (call :: calls) =
        call.apply config query >>= fun next => next.restrict config calls := List.foldlM_cons
    rw [first, Restriction.apply_eq, bind_eq_ok]
    constructor
    · rintro ⟨next, applied, rest⟩
      obtain ⟨part, made, rfl⟩ := map_eq_ok.1 applied
      obtain ⟨parts, others, rfl⟩ := ih.1 rest
      exact ⟨part :: parts, .cons made others, rfl⟩
    · rintro ⟨parts, made, rfl⟩
      cases made with
      | cons here others =>
        exact ⟨_, map_eq_ok.2 ⟨_, here, rfl⟩, ih.2 ⟨_, others, rfl⟩⟩

theorem apply_unrestricted {call : Restriction} {own : Query} :
    call.apply config query.unrestricted = .ok own ↔
      ∃ part, call.predicate config query = .ok part ∧ { query with predicate := part } = own := by
  rw [Restriction.apply_eq, map_eq_ok]
  rfl

end Query

def Db.answer (query : Query) (db : Db) : Except Fault (Response × Nat) := do
  let response ← (perform (execute query) db).1
  let number ← count query db
  return (response, number)

namespace Db
variable {query : Query} {db : Db}

theorem answer_eq (query : Query) (db : Db) :
    answer query db = unlessFault (query.fault? (db.rowsOf query.schema.table).values)
      (respond query (query.select (db.rowsOf query.schema.table).values),
        query.count (db.rowsOf query.schema.table).values) := by
  unfold answer count
  rw [perform_execute]
  dsimp only
  cases query.fault? (db.rowsOf query.schema.table).values <;> rfl

theorem exists_answer_iff : (∃ result, answer query db = .ok result) ↔
    ∀ row ∈ (db.rowsOf query.schema.table).values,
      query.predicate.fault? query.schema row = none := by
  rw [answer_eq, exists_unlessFault_eq_ok, Query.fault?_eq_none]

/-- An answer depends on which rows the restriction accepts, not on how it is written. -/
theorem answer_congr {left right : Predicate} {first second : Response × Nat}
    (same : ∀ row, left.accepts query.schema row = right.accepts query.schema row)
    (one : answer { query with predicate := left } db = .ok first)
    (other : answer { query with predicate := right } db = .ok second) : first = second := by
  have accepts : Query.accepts { query with predicate := left } =
      Query.accepts { query with predicate := right } := funext same
  rw [answer_eq, unlessFault_eq_ok] at one other
  rw [← one.2, ← other.2]
  unfold Query.select Query.count
  rw [accepts]
  rfl

theorem exists_answer_foldl_both {parts : List Predicate}
    (each : ∀ part ∈ query.predicate :: parts,
      ∃ result, answer { query with predicate := part } db = .ok result) :
    ∃ result, answer { query with predicate := parts.foldl Predicate.both query.predicate } db =
      .ok result := by
  rw [exists_answer_iff]
  intro row member
  apply Predicate.fault?_foldl_both_of_sound
  intro part among
  exact exists_answer_iff.1 (each part among) row member

end Db

/-- Calls that restrict a query come to a query that accepts the rows that it accepted and that each call
alone accepts. It has an answer exactly where its restrictions evaluate in turn, or one of them is
nothing. The calls may be made in any order: all orders that give an answer give the same one, and all
do where each restriction alone has an answer. -/
theorem restrictions_conjoin {config : Config} {query later : Query} {calls : List Restriction}
    (built : query.restrict config calls = .ok later) :
    ∃ parts : List Query,
      List.Forall₂ (fun call part => call.apply config query.unrestricted = .ok part) calls parts ∧
      (∀ row, later.accepts row = true ↔ ∀ part ∈ query :: parts, part.accepts row = true) ∧
      (∀ db, (∃ result, Db.answer later db = .ok result) ↔
        ∀ row ∈ (db.rowsOf query.schema.table).values, .nothing ∈ parts.map Query.predicate ∨
          InTurn query.schema row ((query :: parts).map Query.predicate)) ∧
      ∀ others, calls.Perm others → ∃ twin, query.restrict config others = .ok twin ∧
        (∀ row, twin.accepts row = later.accepts row) ∧
        ∀ db, (∀ first second, Db.answer later db = .ok first → Db.answer twin db = .ok second →
            first = second) ∧
          ((∀ part ∈ query :: parts, ∃ result, Db.answer part db = .ok result) →
            ∃ result, Db.answer later db = .ok result ∧ Db.answer twin db = .ok result) := by
  obtain ⟨predicates, made, rfl⟩ := Query.restrict_eq_ok.1 built
  refine ⟨predicates.map fun part => { query with predicate := part }, ?_, ?_, ?_, ?_⟩
  · rw [List.forall₂_map_right_iff]
    exact made.imp fun _ part given => Query.apply_unrestricted.2 ⟨part, given, rfl⟩
  · intro row
    unfold Query.accepts
    rw [Predicate.accepts_foldl_both, List.forall_mem_cons, List.forall_mem_cons, List.forall_mem_map]
  · intro db
    rw [Db.exists_answer_iff]
    simp only [Predicate.fault?_foldl_both_eq_none, List.map_cons, List.map_map]
    rw [show predicates.map (Query.predicate ∘ fun part => { query with predicate := part }) =
      predicates from List.map_id _]
  · intro others permuted
    obtain ⟨changed, again, same⟩ := List.perm_comp_forall₂ permuted.symm made
    refine ⟨_, Query.restrict_eq_ok.2 ⟨changed, again, rfl⟩, ?_, ?_⟩
    · intro row
      exact Predicate.accepts_foldl_both_perm same
    · intro db
      have equal : ∀ row, (predicates.foldl Predicate.both query.predicate).accepts query.schema row =
          (changed.foldl Predicate.both query.predicate).accepts query.schema row :=
        fun row => Predicate.accepts_foldl_both_perm same.symm
      constructor
      · intro first second one other
        exact Db.answer_congr equal one other
      · intro each
        rw [List.forall_mem_cons, List.forall_mem_map] at each
        obtain ⟨start, rest⟩ := each
        obtain ⟨first, one⟩ := Db.exists_answer_foldl_both (List.forall_mem_cons.2 ⟨start, rest⟩)
        obtain ⟨second, other⟩ := Db.exists_answer_foldl_both
          (List.forall_mem_cons.2 ⟨start, fun part among => rest part (same.subset among)⟩)
        rw [← Db.answer_congr equal one other] at other
        exact ⟨first, one, other⟩

/-! A row that is not there, and a number whose text has no room: asked for in this order, the second
is never looked at. -/

def longNumbers : Query where
  schema := Schema.ofTable longNumberTable {}

def absentRow : Restriction := .rows (.rowIs ⟨9⟩)

def withDigit : Restriction := .object [("filter__field_4__contains", .one (.text "1"))] "AND"

def digitTest : Predicate := .test (.field ⟨4⟩) (.contains "1")

theorem predicate_withDigit (config : Config) :
    withDigit.predicate config longNumbers = .ok digitTest := by
  rfl

abbrev absentFirst : Query := { longNumbers with predicate := .allOf [.rowIs ⟨9⟩, digitTest] }

abbrev digitFirst : Query := { longNumbers with predicate := .allOf [digitTest, .rowIs ⟨9⟩] }

theorem restrict_absentFirst (config : Config) :
    longNumbers.restrict config [absentRow, withDigit] = .ok absentFirst :=
  Query.restrict_eq_ok.2 ⟨[.rowIs ⟨9⟩, digitTest], .cons rfl (.cons (predicate_withDigit config) .nil), rfl⟩

theorem restrict_digitFirst (config : Config) :
    longNumbers.restrict config [withDigit, absentRow] = .ok digitFirst :=
  Query.restrict_eq_ok.2 ⟨[digitTest, .rowIs ⟨9⟩], .cons (predicate_withDigit config) (.cons rfl .nil), rfl⟩

theorem restrictions_of_absent_row :
    longNumbers.restrict {} [absentRow, withDigit] = .ok absentFirst ∧
      (∃ parts : List Query,
        List.Forall₂ (fun call part => call.apply {} longNumbers.unrestricted = .ok part)
          [absentRow, withDigit] parts ∧
        ∀ row, absentFirst.accepts row = true ↔
          ∀ part ∈ longNumbers :: parts, part.accepts row = true) ∧
      ∃ twin, longNumbers.restrict {} [withDigit, absentRow] = .ok twin ∧
        ∀ row, twin.accepts row = absentFirst.accepts row := by
  obtain ⟨parts, made, accepts, _, orders⟩ := restrictions_conjoin (restrict_absentFirst {})
  obtain ⟨twin, again, same, _⟩ := orders [withDigit, absentRow] (.swap _ _ _)
  exact ⟨restrict_absentFirst {}, ⟨parts, made, accepts⟩, twin, again, same⟩

/-- Not all orders in which the same restrictions are added give the same answer. -/
theorem not_all_orders_answer :
    ¬ ∀ (config : Config) (query later twin : Query) (calls others : List Restriction) (db : Db),
      calls.Perm others → query.restrict config calls = .ok later →
      query.restrict config others = .ok twin → Db.answer later db = Db.answer twin db := by
  intro refuted
  have same := refuted {} longNumbers _ _ [absentRow, withDigit] [withDigit, absentRow]
    (longNumberDb .epoch) (.swap _ _ _) (restrict_absentFirst {}) (restrict_digitFirst {})
  have answered : ∃ result, Db.answer absentFirst (longNumberDb .epoch) = .ok result := by
    rw [Db.answer_eq, exists_unlessFault_eq_ok]
    rfl
  have broken : Db.answer digitFirst (longNumberDb .epoch) = .error .textExceeded := by
    rw [Db.answer_eq]
    rfl
  obtain ⟨result, done⟩ := answered
  rw [same, broken] at done
  cases done

end Tabula
