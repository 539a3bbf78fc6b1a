import Tabula.Proofs.Db.Told
import Tabula.Proofs.Metrics

/-!
The counters and the store keep in step: after any run the rows that are stored are as many as were counted
as created and not as deleted, and the counters of the tables make up those of all tables.
-/
namespace Tabula

namespace TableRows
variable {rows later : TableRows} {created deleted : Nat}

theorem mem_ids_iff {id : RowId} :
    id ∈ rows.values.map Row.id ↔ (rows.stamp? id).isSome = true := by
  unfold stamp?
  rw [Option.isSome_map]
  constructor
  · intro member
    obtain ⟨row, inside, rfl⟩ := List.mem_map.1 member
    rw [find?_of_mem inside]
    rfl
  · intro stored
    obtain ⟨row, found⟩ := Option.isSome_iff_exists.1 stored
    obtain ⟨inside, own⟩ := mem_of_find? found
    exact List.mem_map.2 ⟨row, inside, own⟩

theorem length_values {ids : List RowId} (distinct : ids.Nodup)
    (stored : ∀ id, (rows.stamp? id).isSome = true ↔ id ∈ ids) : rows.values.length = ids.length := by
  have same : (rows.values.map Row.id).Perm ids := by
    rw [List.perm_ext_iff_of_nodup rows.nodup_ids distinct]
    intro id
    rw [mem_ids_iff, stored]
  rw [← same.length_eq, List.length_map]

/-- So many rows were created, and so many of them deleted. -/
structure Counted (rows : TableRows) (created deleted : Nat) : Prop where
  lastId : rows.lastId.toNat = created
  length : rows.values.length + deleted = created
  numbered : ∀ id, (rows.stamp? id).isSome = true → id.val.toNat ≤ created

namespace Counted

theorem empty : Counted default 0 0 := ⟨rfl, rfl, nofun⟩

theorem of_kept (counted : rows.Counted created deleted) (lastId : later.lastId = rows.lastId)
    (kept : ∀ id, (later.stamp? id).isSome = (rows.stamp? id).isSome) : later.Counted created deleted := by
  have length : later.values.length = (rows.values.map Row.id).length := by
    apply length_values rows.nodup_ids
    intro id
    rw [kept, mem_ids_iff]
  rw [List.length_map] at length
  constructor
  · rw [lastId]
    exact counted.lastId
  · rw [length]
    exact counted.length
  · intro id stored
    rw [kept] at stored
    exact counted.numbered id stored

/-- The next identifier is free, as long as identifiers have not come round. -/
theorem of_create (counted : rows.Counted created deleted) {id : RowId} {order : Option Decimal}
    {now : Instant} (makes : rows.Makes later (.create id order now)) (few : created + 1 < UInt64.size) :
    later.Counted (created + 1) deleted := by
  cases makes with
  | @create id order now next lastId stamps =>
    have number : id.val.toNat = created + 1 := by
      rw [next, UInt64.toNat_add, counted.lastId]
      exact Nat.mod_eq_of_lt few
    have new : id ∉ rows.values.map Row.id := by
      intro member
      have := counted.numbered id (mem_ids_iff.1 member)
      omega
    have length : later.values.length = (id :: rows.values.map Row.id).length := by
      apply length_values (List.nodup_cons.2 ⟨new, rows.nodup_ids⟩)
      intro key
      rw [stamps, List.mem_cons, mem_ids_iff]
      by_cases own : key = id <;> simp [own]
    rw [List.length_cons, List.length_map] at length
    constructor
    · rw [lastId, number]
    · have := counted.length
      omega
    · intro key stored
      rw [stamps] at stored
      by_cases own : key = id
      · rw [own, number]
      · rw [if_neg own] at stored
        have := counted.numbered key stored
        omega

theorem of_update (counted : rows.Counted created deleted) {id : RowId} {order : Option Decimal}
    {now : Instant} (makes : rows.Makes later (.update id order now)) :
    later.Counted created deleted := by
  cases makes with
  | @update id old order now here lastId stamps =>
    apply counted.of_kept lastId
    intro key
    rw [stamps]
    by_cases own : key = id <;> simp [own, here]

theorem of_delete (counted : rows.Counted created deleted) {id : RowId}
    (makes : rows.Makes later (.delete id)) : later.Counted created (deleted + 1) := by
  cases makes with
  | @delete id old here lastId stamps =>
    have member : id ∈ rows.values.map Row.id := by
      rw [mem_ids_iff, here]
      rfl
    have length : later.values.length = ((rows.values.map Row.id).erase id).length := by
      apply length_values (rows.nodup_ids.erase id)
      intro key
      rw [stamps, rows.nodup_ids.mem_erase_iff, mem_ids_iff]
      by_cases own : key = id <;> simp [own]
    have positive := List.length_pos_of_mem member
    rw [List.length_erase_of_mem member, List.length_map] at length
    rw [List.length_map] at positive
    constructor
    · rw [lastId]
      exact counted.lastId
    · have := counted.length
      omega
    · intro key stored
      rw [stamps] at stored
      by_cases own : key = id
      · rw [if_pos own] at stored
        cases stored
      · rw [if_neg own] at stored
        exact counted.numbered key stored

theorem of_told (counted : rows.Counted created deleted) {table : TableId} {events : List Event}
    (told : rows.Told later table events)
    (few : created + total (Event.writes .create) events < UInt64.size) :
    later.Counted (created + total (Event.writes .create) events)
      (deleted + total (Event.writes .delete) events) := by
  cases told with
  | @change change makes computed =>
    simp only [total_singleton] at few ⊢
    cases change with
    | create id order now => exact counted.of_create makes few
    | update id order now => exact counted.of_update makes
    | delete id => exact counted.of_delete makes
  | same same computed =>
    have silent (kind : WriteKind) (other : kind ≠ .reconcile) :
        total (Event.writes kind) (computed.map (.rowWrite table .reconcile)) = 0 := by
      apply total_eq_zero
      intro event member
      obtain ⟨_, _, rfl⟩ := List.mem_map.1 member
      exact if_neg (Ne.symm other)
    rw [silent .create nofun, silent .delete nofun]
    apply counted.of_kept same.lastId
    intro id
    rw [same.stamp?]

end Counted

theorem Told.table_eq {table : TableId} {events : List Event} (told : rows.Told later table events) :
    ∀ event ∈ events, event.table = table := by
  intro event member
  cases told with
  | change makes computed =>
    rw [List.mem_singleton.1 member]
    rfl
  | same same computed =>
    obtain ⟨_, _, rfl⟩ := List.mem_map.1 member
    rfl

theorem Told.matched_eq {table : TableId} {events : List Event} (told : rows.Told later table events) :
    ∀ event ∈ events, event.adds .matched = 0 := by
  intro event member
  cases told with
  | change makes computed =>
    rw [List.mem_singleton.1 member]
    rfl
  | same same computed =>
    obtain ⟨_, _, rfl⟩ := List.mem_map.1 member
    rfl

end TableRows

namespace Event

theorem IsRead.written_eq {event : Event} (read : event.IsRead) : event.written = 0 := by
  cases event with
  | queryStart table => rfl
  | queryFinish table scanned matched => rfl
  | rowWrite table kind computed => exact read.elim

theorem IsRead.matched_le {event : Event} (read : event.IsRead) :
    event.adds .matched ≤ event.adds .scanned := by
  cases event with
  | queryStart table => exact Nat.le_refl 0
  | queryFinish table scanned matched => exact read
  | rowWrite table kind computed => exact read.elim

theorem writes_le_written (kind : WriteKind) (event : Event) : event.writes kind ≤ event.written := by
  cases event with
  | queryStart table => exact Nat.le_refl 0
  | queryFinish table scanned matched => exact Nat.le_refl 0
  | rowWrite table own computed =>
    change (if own = kind then 1 else 0) ≤ 1
    split <;> omega

end Event

/-- What is told of an operation to one who captures its events. -/
def Operation.events {α : Type} (operation : Operation α) (db : Db) : List Event :=
  (operation.perform (db.listening (some []))).2.captured.getD []

theorem Operation.explains {α : Type} {operation : Operation α} (counted : operation.IsCounted) {db : Db}
    (counting : db.captured = none) :
    db.Explains (operation.perform db).2 (operation.events db) := by
  obtain ⟨events, told⟩ := operation.reports counted db
  have captured : (operation.perform (db.listening (some []))).2.captured = some events :=
    (told (some [])).captured
  have same : db.listening none = db := by
    unfold Db.listening
    rw [← counting]
  have counts := told none
  rw [same] at counts
  unfold Operation.events
  rw [captured]
  exact counts

namespace Db

/-- A run from an empty store and counters that were reset, with the events that were counted. Calls may be
refused or break off. -/
inductive CountedRun : Db → List Event → Prop
  | start {db : Db} (empty : db.store = {}) (reset : db.metrics = { tables := default })
      (counting : db.captured = none) : CountedRun db []
  | ask {db : Db} {events : List Event} {α : Type} (operation : Operation α) (run : CountedRun db events)
      (counted : operation.IsCounted) :
      CountedRun (operation.perform db).2 (events ++ operation.events db)

/-- The counters and the store keep in step with the events. -/
structure Balanced (db : Db) (events : List Event) : Prop where
  counting : db.captured = none
  metrics : db.metrics = Metrics.counted events
  rows : ∀ table, total (Event.within table (Event.writes .create)) events < UInt64.size →
    (db.rowsOf table).Counted (total (Event.within table (Event.writes .create)) events)
      (total (Event.within table (Event.writes .delete)) events)
  placed : ∀ event ∈ events, event.written ≠ 0 → (db.store.tables.find? event.table).isSome = true
  sound : ∀ event ∈ events, event.adds .matched ≤ event.adds .scanned

section
variable {db later : Db} {events told : List Event}

theorem total_within_of_table {table : TableId} (own : ∀ event ∈ told, event.table = table)
    (other : TableId) (amount : Event → Nat) :
    total (Event.within other amount) told = if other = table then total amount told else 0 := by
  split
  · rename_i same
    subst same
    unfold total
    refine congrArg List.sum (List.map_congr_left ?_)
    intro event member
    exact if_pos (own event member)
  · rename_i different
    apply total_eq_zero
    intro event member
    apply if_neg
    rw [own event member]
    exact Ne.symm different

theorem Balanced.start (empty : db.store = {}) (reset : db.metrics = { tables := default })
    (counting : db.captured = none) : db.Balanced [] := by
  refine ⟨counting, reset, ?_, nofun, nofun⟩
  intro table _
  unfold rowsOf
  rw [empty]
  exact .empty

theorem Balanced.rows_of_same (balanced : db.Balanced events) {table : TableId}
    (same : later.rowsOf table = db.rowsOf table)
    (silent : ∀ kind, total (Event.within table (Event.writes kind)) told = 0)
    (few : total (Event.within table (Event.writes .create)) (events ++ told) < UInt64.size) :
    (later.rowsOf table).Counted (total (Event.within table (Event.writes .create)) (events ++ told))
      (total (Event.within table (Event.writes .delete)) (events ++ told)) := by
  have kept (kind : WriteKind) : total (Event.within table (Event.writes kind)) (events ++ told) =
      total (Event.within table (Event.writes kind)) events := by
    rw [total_append, silent, Nat.add_zero]
  rw [kept] at few
  rw [kept, kept, same]
  exact balanced.rows table few

theorem Balanced.extend (balanced : db.Balanced events) (tells : db.Tells later told)
    (rows : ∀ table, total (Event.within table (Event.writes .create)) (events ++ told) < UInt64.size →
      (later.rowsOf table).Counted (total (Event.within table (Event.writes .create)) (events ++ told))
        (total (Event.within table (Event.writes .delete)) (events ++ told)))
    (kept : ∀ table, (db.store.tables.find? table).isSome = true →
      (later.store.tables.find? table).isSome = true)
    (placed : ∀ event ∈ told, event.written ≠ 0 →
      (later.store.tables.find? event.table).isSome = true)
    (sound : ∀ event ∈ told, event.adds .matched ≤ event.adds .scanned) :
    later.Balanced (events ++ told) := by
  refine ⟨?_, ?_, rows, ?_, ?_⟩
  · rw [tells.captured, balanced.counting]
    rfl
  · rw [tells.metrics, balanced.counting, balanced.metrics]
    simp [Metrics.counted]
  · intro event member written
    rcases List.mem_append.1 member with earlier | now
    · exact kept _ (balanced.placed event earlier written)
    · exact placed event now written
  · intro event member
    rcases List.mem_append.1 member with earlier | now
    · exact balanced.sound event earlier
    · exact sound event now

theorem Balanced.step_read (balanced : db.Balanced events) (tells : db.Tells later told)
    (stored : later.store.tables = db.store.tables) (reads : ∀ event ∈ told, event.IsRead) :
    later.Balanced (events ++ told) := by
  apply balanced.extend tells
  · intro table few
    have same : later.rowsOf table = db.rowsOf table := by
      unfold rowsOf Store.rowsOf
      rw [stored]
    apply balanced.rows_of_same same _ few
    intro kind
    apply total_eq_zero
    intro event member
    have none := (reads event member).written_eq
    have fewer := event.writes_le_written kind
    unfold Event.within
    split
    · omega
    · rfl
  · intro table before
    rwa [stored]
  · intro event now written
    exact absurd (reads event now).written_eq written
  · exact fun event now => (reads event now).matched_le

theorem Balanced.step_write (balanced : db.Balanced events) (tells : db.Tells later told)
    {table : TableId} {rows : TableRows} (stored : later.store.tables = db.store.tables.insert table rows)
    (accounted : (db.rowsOf table).Told rows table told) : later.Balanced (events ++ told) := by
  have own := accounted.table_eq
  apply balanced.extend tells
  · intro other few
    by_cases same : other = table
    · subst same
      have replaced : later.rowsOf other = rows := by
        unfold rowsOf Store.rowsOf
        rw [stored, IdMap.find?_insert, if_pos rfl]
        rfl
      have here (kind : WriteKind) := total_within_of_table own other (Event.writes kind)
      simp only [if_true] at here
      rw [total_append, here] at few
      rw [replaced, total_append, total_append, here, here]
      have before := balanced.rows other (by omega)
      exact before.of_told accounted few
    · apply balanced.rows_of_same _ _ few
      · unfold rowsOf Store.rowsOf
        rw [stored, IdMap.find?_insert, if_neg same]
      · intro kind
        rw [total_within_of_table own, if_neg same]
  · intro other before
    rw [stored, IdMap.find?_insert]
    split
    · rfl
    · exact before
  · intro event now _
    rw [stored, IdMap.find?_insert, if_pos (own event now)]
    rfl
  · intro event now
    rw [accounted.matched_eq event now]
    exact Nat.zero_le _

theorem Balanced.step (balanced : db.Balanced events) (explains : db.Explains later told) :
    later.Balanced (events ++ told) := by
  cases explains.accounts with
  | read stored reads => exact balanced.step_read explains.toTells stored reads
  | write stored accounted => exact balanced.step_write explains.toTells stored accounted

theorem CountedRun.balanced (run : CountedRun db events) : db.Balanced events := by
  induction run with
  | start empty reset counting => exact .start empty reset counting
  | ask operation run counted ih => exact ih.step (operation.explains counted ih.counting)

/-- The rows of all tables are those that were created and not deleted. -/
theorem Balanced.sum_rows (balanced : db.Balanced events)
    (few : total (Event.writes .create) events < UInt64.size) :
    (db.store.tables.values.map (·.values.length)).sum + total (Event.writes .delete) events =
      total (Event.writes .create) events := by
  have distinct := db.store.tables.nodup_ids
  have places (kind : WriteKind) : ∀ event ∈ events, event.writes kind ≠ 0 →
      event.table ∈ db.store.tables.entries.map Prod.fst := by
    intro event member told
    have := event.writes_le_written kind
    exact IdMap.mem_ids_iff.2 (balanced.placed event member (by omega))
  have each (table : TableId) : (db.rowsOf table).values.length +
      total (Event.within table (Event.writes .delete)) events =
        total (Event.within table (Event.writes .create)) events :=
    (balanced.rows table (Nat.lt_of_le_of_lt (total_within_le table _ events) few)).length
  rw [IdMap.map_values _ default, ← sum_total_within distinct (places .delete),
    ← sum_total_within distinct (places .create), ← List.sum_map_add]
  exact congrArg List.sum (List.map_congr_left fun table _ => each table)

end
end Db

/-- What the events add to each counter is below 2 ^ 64. -/
structure FitCounters (events : List Event) : Prop where
  queries : total (Event.adds .queries) events < UInt64.size
  scanned : total (Event.adds .scanned) events < UInt64.size
  writes : ∀ kind, total (Event.writes kind) events < UInt64.size
  written : ∀ table, total (Event.within table Event.written) events < UInt64.size

/-- After every call of a run, as long as no counter is at its end: the stored rows are as many as were
created and not deleted; each counter of queries is the sum of those of the tables; the rows written in the
tables are those that were created, updated, deleted and reconciled; and no more rows are matched than are
scanned, in a table as in all. -/
theorem counters_account_for_rows {db : Db} {events : List Event} (run : db.CountedRun events)
    (few : FitCounters events) :
    let ops := db.metrics.ops
    let tables := db.metrics.tables.values
    ops.rowsDeleted ≤ ops.rowsCreated ∧
      (db.store.tables.values.map (·.values.length)).sum = ops.rowsCreated - ops.rowsDeleted ∧
      ops.queries = (tables.map (·.queries)).sum ∧
      ops.rowsScanned = (tables.map (·.rowsScanned)).sum ∧
      ops.rowsMatched = (tables.map (·.rowsMatched)).sum ∧
      (tables.map (·.rowsWritten)).sum =
        ops.rowsCreated + ops.rowsUpdated + ops.rowsDeleted + ops.rowsReconciled ∧
      ops.rowsMatched ≤ ops.rowsScanned ∧
      ∀ counters ∈ tables, counters.rowsMatched ≤ counters.rowsScanned := by
  have balanced := run.balanced
  intro ops tables
  have ops_eq : ops = (Metrics.counted events).ops := congrArg Metrics.ops balanced.metrics
  have tables_eq : tables = (Metrics.counted events).tables.values :=
    congrArg (·.tables.values) balanced.metrics
  have writes (kind : WriteKind) : ops.writes kind = total (Event.writes kind) events := by
    rw [ops_eq]
    exact (Metrics.takes_writes kind).read_eq (few.writes kind)
  have created : ops.rowsCreated = total (Event.writes .create) events := writes .create
  have updated : ops.rowsUpdated = total (Event.writes .update) events := writes .update
  have deleted : ops.rowsDeleted = total (Event.writes .delete) events := writes .delete
  have reconciled : ops.rowsReconciled = total (Event.writes .reconcile) events := writes .reconcile
  have stored := balanced.sum_rows (few.writes .create)
  obtain ⟨all, each⟩ := Metrics.matched_le_scanned balanced.sound
  have matched : total (Event.adds .matched) events < UInt64.size :=
    Nat.lt_of_le_of_lt (total_le balanced.sound) few.scanned
  have sums (counter : QueryCounter) (few : total (Event.adds counter) events < UInt64.size) :
      ops.read counter = (tables.map (·.read counter)).sum := by
    rw [ops_eq, tables_eq]
    exact Metrics.read_eq_sum few
  refine ⟨by omega, by omega, sums .queries few.queries, sums .scanned few.scanned, sums .matched matched,
    ?_, ?_, ?_⟩
  · rw [tables_eq, Metrics.sum_tables Metrics.takes_table_written few.written, total_written]
    omega
  · rw [ops_eq]
    exact all
  · rw [tables_eq]
    exact each

theorem bare_counted_run : ∃ (db : Db) (events : List Event), db.CountedRun events ∧
    (∃ matched, events = [.rowWrite ⟨3⟩ .create 0, .rowWrite ⟨3⟩ .create 0, .rowWrite ⟨3⟩ .delete 0,
      .queryStart ⟨3⟩, .queryFinish ⟨3⟩ 1 matched]) ∧
    db.metrics.ops.rowsCreated = 2 ∧ db.metrics.ops.rowsDeleted = 1 := by
  have run : Db.CountedRun { clock := .epoch } [] := .start rfl rfl rfl
  have run := run.ask (.create bareSchema {}) trivial
  have run := run.ask (.create bareSchema {}) trivial
  have run := run.ask (.delete bareSchema ⟨2⟩) trivial
  have run := run.ask (.update bareSchema ⟨2⟩ {}) trivial
  have run := run.ask (.execute { schema := bareSchema }) trivial
  have run := run.ask (.reconcile bareSchema) trivial
  exact ⟨_, _, run, ⟨_, rfl⟩, rfl, rfl⟩

theorem counters_account_for_bare_rows : ∃ (db : Db) (events : List Event), db.CountedRun events ∧
    FitCounters events ∧ (db.store.tables.values.map (·.values.length)).sum = 1 ∧
    db.metrics.ops.rowsMatched ≤ db.metrics.ops.rowsScanned := by
  obtain ⟨db, events, run, ⟨matched, told⟩, created, deleted⟩ := bare_counted_run
  have few : FitCounters events := by
    rw [told]
    refine ⟨(by decide : 1 < UInt64.size), (by decide : 1 < UInt64.size), ?_, ?_⟩
    · intro kind
      cases kind with
      | create => exact (by decide : 2 < UInt64.size)
      | delete => exact (by decide : 1 < UInt64.size)
      | update | reconcile => exact (by decide : 0 < UInt64.size)
    · intro table
      exact Nat.lt_of_le_of_lt (total_within_le table _ _) (by decide : 3 < UInt64.size)
  obtain ⟨_, stored, _, _, _, _, sound, _⟩ := counters_account_for_rows run few
  rw [created, deleted] at stored
  exact ⟨db, events, run, few, stored, sound⟩

end Tabula
