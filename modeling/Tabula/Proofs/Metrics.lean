import Mathlib.Algebra.BigOperators.Group.List.Basic
import Mathlib.Algebra.Group.Action.Defs
import Mathlib.Algebra.Order.BigOperators.Group.List
import Mathlib.Algebra.Order.Ring.Nat
import Tabula.Metrics
import Tabula.Proofs.IdMap

/-!
What the counters hold after any events: the sum of what these add, or the largest value of a counter if
that is less. The counters of tables make up those of all tables together.
-/
namespace Tabula

/-- The counters of queries, which are kept of each table and of all of them together. -/
inductive QueryCounter
  | queries
  | scanned
  | matched

def OpCounters.read (ops : OpCounters) : QueryCounter → Nat
  | .queries => ops.queries
  | .scanned => ops.rowsScanned
  | .matched => ops.rowsMatched

def TableCounters.read (counters : TableCounters) : QueryCounter → Nat
  | .queries => counters.queries
  | .scanned => counters.rowsScanned
  | .matched => counters.rowsMatched

def OpCounters.writes (ops : OpCounters) : WriteKind → Nat
  | .create => ops.rowsCreated
  | .update => ops.rowsUpdated
  | .delete => ops.rowsDeleted
  | .reconcile => ops.rowsReconciled

namespace Event

/-! What an event adds to a counter. -/

def adds : QueryCounter → Event → Nat
  | .queries, queryStart _ => 1
  | .scanned, queryFinish _ scanned _ => scanned
  | .matched, queryFinish _ _ matched => matched
  | _, _ => 0

def writes (kind : WriteKind) : Event → Nat
  | rowWrite _ own _ => if own = kind then 1 else 0
  | _ => 0

def written : Event → Nat
  | rowWrite .. => 1
  | _ => 0

/-- What it adds to a counter of one table. -/
def within (table : TableId) (amount : Event → Nat) (event : Event) : Nat :=
  if event.table = table then amount event else 0

theorem written_eq (event : Event) : event.written =
    event.writes .create + event.writes .update + event.writes .delete + event.writes .reconcile := by
  cases event with
  | queryStart table => rfl
  | queryFinish table scanned matched => rfl
  | rowWrite table kind computed => cases kind <;> rfl

end Event

/-- What events add together, whether a counter can hold it or not. -/
def total (amount : Event → Nat) (events : List Event) : Nat := (events.map amount).sum

section
variable {amount other : Event → Nat} {events : List Event}

theorem total_append (amount : Event → Nat) (events later : List Event) :
    total amount (events ++ later) = total amount events + total amount later := by
  simp [total]

theorem total_singleton (amount : Event → Nat) (event : Event) : total amount [event] = amount event := by
  simp [total]

theorem total_eq_zero (none : ∀ event ∈ events, amount event = 0) : total amount events = 0 := by
  unfold total
  rw [List.sum_eq_zero_iff]
  intro value member
  obtain ⟨event, inside, rfl⟩ := List.mem_map.1 member
  exact none event inside

theorem total_le (fewer : ∀ event ∈ events, amount event ≤ other event) :
    total amount events ≤ total other events :=
  List.sum_le_sum fewer

theorem total_within_le (table : TableId) (amount : Event → Nat) (events : List Event) :
    total (Event.within table amount) events ≤ total amount events := by
  apply total_le
  intro event _
  unfold Event.within
  split
  · exact Nat.le_refl _
  · exact Nat.zero_le _

theorem total_written (events : List Event) : total Event.written events =
    total (Event.writes .create) events + total (Event.writes .update) events +
      total (Event.writes .delete) events + total (Event.writes .reconcile) events := by
  unfold total
  rw [← List.sum_map_add, ← List.sum_map_add, ← List.sum_map_add]
  exact congrArg List.sum (List.map_congr_left fun event _ => event.written_eq)

variable {tables : List TableId}

theorem sum_within_event (distinct : tables.Nodup) {event : Event}
    (place : amount event ≠ 0 → event.table ∈ tables) :
    (tables.map fun table => event.within table amount).sum = amount event := by
  have elsewhere : ∀ table ≠ event.table, table ∈ tables → event.within table amount = 0 := by
    intro table different _
    exact if_neg (Ne.symm different)
  rw [List.sum_map_eq_nsmul_single event.table _ elsewhere]
  have own : event.within event.table amount = amount event := if_pos rfl
  by_cases nothing : amount event = 0
  · rw [own, nothing, smul_eq_mul, Nat.mul_zero]
  · rw [own, List.count_eq_one_of_mem distinct (place nothing), smul_eq_mul, Nat.one_mul]

/-- The totals of tables make up the total, if these are all the tables that add to it. -/
theorem sum_total_within (distinct : tables.Nodup)
    (places : ∀ event ∈ events, amount event ≠ 0 → event.table ∈ tables) :
    (tables.map fun table => total (Event.within table amount) events).sum = total amount events := by
  induction events with
  | nil => simp [total]
  | cons event rest ih =>
    have first := sum_within_event distinct (places event List.mem_cons_self)
    have others := ih fun event member => places event (List.mem_cons_of_mem _ member)
    simp only [total, List.map_cons, List.sum_cons, List.sum_map_add] at others ⊢
    rw [first, others]

end

namespace Metrics

def of (metrics : Metrics) (table : TableId) : TableCounters := (metrics.tables.find? table).getD {}

def counted (events : List Event) : Metrics := events.foldl record { tables := default }

theorem counted_concat (events : List Event) (event : Event) :
    counted (events ++ [event]) = (counted events).record event := by
  simp [counted]

theorem of_record (metrics : Metrics) (event : Event) (table : TableId) :
    (metrics.record event).of table =
      if event.table = table then (metrics.of table).count event else metrics.of table := by
  unfold of record
  rw [IdMap.find?_insert]
  by_cases own : event.table = table
  · simp [own]
  · simp [own, Ne.symm own]

/-- A counter that is zero at first and then goes up by the amount of each event. -/
structure Takes (read : Metrics → Nat) (amount : Event → Nat) : Prop where
  start : read { tables := default } = 0
  record : ∀ metrics event, read (metrics.record event) = countUp (read metrics) (amount event) ∨
    amount event = 0 ∧ read (metrics.record event) = read metrics

theorem Takes.read_counted {read : Metrics → Nat} {amount : Event → Nat} (takes : Takes read amount)
    (events : List Event) : read (counted events) = min (total amount events) counterLimit := by
  induction events using List.reverseRecOn with
  | nil => exact takes.start
  | append_singleton front last ih =>
    rw [counted_concat, total_append, total_singleton]
    rcases takes.record (counted front) last with more | ⟨nothing, same⟩
    · rw [more, countUp, ih]
      omega
    · rw [same, ih, nothing, Nat.add_zero]

/-- A counter is exact until it is at its end. -/
theorem Takes.read_eq {read : Metrics → Nat} {amount : Event → Nat} (takes : Takes read amount)
    {events : List Event} (few : total amount events < UInt64.size) :
    read (counted events) = total amount events := by
  rw [takes.read_counted]
  exact Nat.min_eq_left (Nat.le_pred_of_lt few)

theorem takes_read (counter : QueryCounter) :
    Takes (·.ops.read counter) (Event.adds counter) where
  start := by cases counter <;> rfl
  record metrics event := by
    cases event with
    | queryStart table =>
      cases counter with
      | queries => exact .inl rfl
      | scanned | matched => exact .inr ⟨rfl, rfl⟩
    | queryFinish table scanned matched =>
      cases counter with
      | queries => exact .inr ⟨rfl, rfl⟩
      | scanned | matched => exact .inl rfl
    | rowWrite table kind computed =>
      have kept : (metrics.ops.countWrite kind).read counter = metrics.ops.read counter := by
        cases kind <;> cases counter <;> rfl
      cases counter <;> exact .inr ⟨rfl, kept⟩

theorem takes_writes (kind : WriteKind) : Takes (·.ops.writes kind) (Event.writes kind) where
  start := by cases kind <;> rfl
  record metrics event := by
    cases event with
    | queryStart table => exact .inr ⟨rfl, by cases kind <;> rfl⟩
    | queryFinish table scanned matched => exact .inr ⟨rfl, by cases kind <;> rfl⟩
    | rowWrite table own computed =>
      by_cases same : own = kind
      · subst same
        left
        cases own <;> rfl
      · refine .inr ⟨if_neg same, ?_⟩
        cases own <;> cases kind <;> first | rfl | exact absurd rfl same

theorem takes_within {read : TableCounters → Nat} {amount : Event → Nat} (start : read {} = 0)
    (count : ∀ counters event, read (counters.count event) = countUp (read counters) (amount event) ∨
      amount event = 0 ∧ read (counters.count event) = read counters) (table : TableId) :
    Takes (fun metrics => read (metrics.of table)) (Event.within table amount) where
  start := start
  record metrics event := by
    rw [of_record]
    unfold Event.within
    split
    · exact count (metrics.of table) event
    · exact .inr ⟨rfl, rfl⟩

theorem takes_table_read (counter : QueryCounter) : ∀ table : TableId,
    Takes (fun metrics => (metrics.of table).read counter)
      (Event.within table (Event.adds counter)) := by
  apply @takes_within (·.read counter)
  · cases counter <;> rfl
  · intro counters event
    cases event with
    | queryStart table =>
      cases counter with
      | queries => exact .inl rfl
      | scanned | matched => exact .inr ⟨rfl, rfl⟩
    | queryFinish table scanned matched =>
      cases counter with
      | queries => exact .inr ⟨rfl, rfl⟩
      | scanned | matched => exact .inl rfl
    | rowWrite table kind computed => cases counter <;> exact .inr ⟨rfl, rfl⟩

theorem takes_table_written : ∀ table : TableId,
    Takes (fun metrics => (metrics.of table).rowsWritten) (Event.within table Event.written) := by
  apply takes_within rfl
  intro counters event
  cases event with
  | queryStart table => exact .inr ⟨rfl, rfl⟩
  | queryFinish table scanned matched => exact .inr ⟨rfl, rfl⟩
  | rowWrite table kind computed => exact .inl rfl

theorem mem_tables_counted {events : List Event} {event : Event} (member : event ∈ events) :
    event.table ∈ (counted events).tables.entries.map Prod.fst := by
  rw [IdMap.mem_ids_iff]
  induction events using List.reverseRecOn with
  | nil => cases member
  | append_singleton front last ih =>
    rw [counted_concat]
    unfold record
    rw [IdMap.find?_insert]
    by_cases own : event.table = last.table
    · simp [own]
    · rw [if_neg own]
      apply ih
      rcases List.mem_append.1 member with earlier | now
      · exact earlier
      · rw [List.mem_singleton.1 now] at own
        exact absurd rfl own

theorem sum_tables {read : TableCounters → Nat} {amount : Event → Nat} {events : List Event}
    (takes : ∀ table, Takes (fun metrics => read (metrics.of table)) (Event.within table amount))
    (few : ∀ table, total (Event.within table amount) events < UInt64.size) :
    ((counted events).tables.values.map read).sum = total amount events := by
  rw [IdMap.map_values _ {} read]
  have exact (table : TableId) : read ((counted events).of table) =
      total (Event.within table amount) events := (takes table).read_eq (few table)
  have places : ∀ event ∈ events, amount event ≠ 0 →
      event.table ∈ (counted events).tables.entries.map Prod.fst :=
    fun event member _ => mem_tables_counted member
  rw [← sum_total_within (counted events).tables.nodup_ids places]
  exact congrArg List.sum (List.map_congr_left fun table _ => exact table)

/-- What is counted of the queries of all tables is the sum of what is counted of each. -/
theorem read_eq_sum {counter : QueryCounter} {events : List Event}
    (few : total (Event.adds counter) events < UInt64.size) :
    (counted events).ops.read counter = ((counted events).tables.values.map (·.read counter)).sum := by
  have each (table : TableId) : total (Event.within table (Event.adds counter)) events < UInt64.size :=
    Nat.lt_of_le_of_lt (total_within_le table _ events) few
  rw [sum_tables (takes_table_read counter) each]
  exact (takes_read counter).read_eq few

theorem matched_le_scanned {events : List Event}
    (sound : ∀ event ∈ events, event.adds .matched ≤ event.adds .scanned) :
    (counted events).ops.rowsMatched ≤ (counted events).ops.rowsScanned ∧
      ∀ counters ∈ (counted events).tables.values, counters.rowsMatched ≤ counters.rowsScanned := by
  constructor
  · have all := total_le sound
    change (counted events).ops.read .matched ≤ (counted events).ops.read .scanned
    rw [(takes_read .matched).read_counted, (takes_read .scanned).read_counted]
    omega
  · intro counters member
    obtain ⟨table, found⟩ := IdMap.mem_values_iff.1 member
    have own : counters = (counted events).of table := by simp [of, found]
    have all : total (Event.within table (Event.adds .matched)) events ≤
        total (Event.within table (Event.adds .scanned)) events := by
      apply total_le
      intro event inside
      unfold Event.within
      split
      · exact sound event inside
      · exact Nat.le_refl 0
    change counters.read .matched ≤ counters.read .scanned
    rw [own, (takes_table_read .matched table).read_counted,
      (takes_table_read .scanned table).read_counted]
    omega

end Metrics
end Tabula
