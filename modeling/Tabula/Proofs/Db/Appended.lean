import Tabula.Proofs.Db.Execute
import Tabula.Proofs.Db.FormulaFaults
import Tabula.Proofs.Db.Refused
import Tabula.Proofs.Decimal.Next

/-!
Rows that are created without an order: last in their table, unless the orders or the identifiers are used up.
-/
namespace Tabula

theorem of_foldl_lastLargest {start : Option Decimal} {orders : List Decimal} {top : Decimal}
    (found : orders.foldl lastLargest start = some top) :
    (start = some top ∨ top ∈ orders) ∧ (∀ order, start = some order → order.units ≤ top.units) ∧
      ∀ order ∈ orders, order.units ≤ top.units := by
  induction orders generalizing start with
  | nil =>
    cases found
    refine ⟨.inl rfl, ?_, nofun⟩
    rintro order ⟨⟩
    exact Int.le_refl _
  | cons first rest ih =>
    rw [List.foldl_cons] at found
    obtain ⟨place, above, others⟩ := ih found
    -- The step keeps one of the two orders that it is given, and none that is below the other.
    have step : (lastLargest start first = start ∨ lastLargest start first = some first) ∧
        (∀ order, start = some order → order.units ≤ top.units) ∧ first.units ≤ top.units := by
      cases start with
      | none => exact ⟨.inr rfl, nofun, above first rfl⟩
      | some order =>
        unfold lastLargest at above ⊢
        dsimp only at above ⊢
        split at above
        · rename_i below
          have kept := above order rfl
          have less : first.units < order.units := by simpa [Decimal.below] using below
          rw [if_pos below]
          refine ⟨.inl rfl, ?_, by omega⟩
          rintro _ ⟨⟩
          exact kept
        · rename_i below
          have taken := above first rfl
          have less : order.units ≤ first.units := by simpa [Decimal.below] using below
          rw [if_neg below]
          refine ⟨.inr rfl, ?_, taken⟩
          rintro _ ⟨⟩
          omega
    obtain ⟨kept, before, own⟩ := step
    refine ⟨?_, before, ?_⟩
    · rcases place with chosen | later
      · rw [chosen] at kept
        rcases kept with same | same
        · exact .inl same.symm
        · cases same
          exact .inr List.mem_cons_self
      · exact .inr (List.mem_cons_of_mem _ later)
    · intro order member
      rcases List.mem_cons.1 member with rfl | later
      · exact own
      · exact others order later

theorem isSome_foldl_lastLargest (orders : List Decimal) (order : Decimal) :
    (orders.foldl lastLargest (some order)).isSome = true := by
  induction orders generalizing order with
  | nil => rfl
  | cons first rest ih =>
    rw [List.foldl_cons]
    unfold lastLargest
    dsimp only
    split <;> exact ih _

namespace TableRows
variable {table later : TableRows} {whole : Schema} {cells : List (FieldId × Value)} {now : Instant}
  {row : Row} {computation : Computation}

theorem largestOrder?_cases (table : TableRows) :
    (table.largestOrder? = none ∧ table.values = []) ∨
    ∃ top, table.largestOrder? = some top ∧ (∃ row ∈ table.values, row.order = top) ∧
      ∀ row ∈ table.values, row.order.units ≤ top.units := by
  cases found : table.largestOrder? with
  | none =>
    left
    refine ⟨rfl, ?_⟩
    unfold largestOrder? at found
    cases rows : table.values with
    | nil => rfl
    | cons first rest =>
      rw [rows, List.map_cons, List.foldl_cons] at found
      have given := isSome_foldl_lastLargest (rest.map (·.order)) first.order
      change List.foldl lastLargest (some first.order) _ = none at found
      rw [found] at given
      cases given
  | some top =>
    right
    obtain ⟨place, _, above⟩ := of_foldl_lastLargest found
    refine ⟨top, rfl, List.mem_map.1 (place.resolve_left nofun), ?_⟩
    intro row member
    exact above row.order (List.mem_map_of_mem member)

/-- A row of the table has the largest of all orders, behind which there is none. -/
def IsFull (table : TableRows) : Prop := ∃ row ∈ table.values, row.order = Decimal.largest

/-- All identifiers of rows were given out. -/
def IsExhausted (table : TableRows) : Prop := UInt64.size ≤ table.lastId.toNat + 1

theorem nextId_cases (table : TableRows) :
    (table.IsExhausted ∧ table.nextId = .error .rowIdExceeded) ∨
    (¬ table.IsExhausted ∧ table.nextId = .ok ⟨table.lastId + 1⟩) := by
  unfold nextId
  split
  · rename_i spare
    exact .inr ⟨Nat.not_le.2 spare, rfl⟩
  · rename_i used
    exact .inl ⟨Nat.not_lt.1 used, rfl⟩

/-- The next order is behind those of all rows; a full table has none. -/
theorem nextOrder_cases (table : TableRows) :
    (table.IsFull ∧ table.nextOrder = .error .orderExceeded) ∨
    (¬ table.IsFull ∧ ∃ order, table.nextOrder = .ok order ∧
      ∀ row ∈ table.values, row.order.units < order.units) := by
  unfold nextOrder
  rcases table.largestOrder?_cases with ⟨none, empty⟩ | ⟨top, found, ⟨last, member, own⟩, above⟩
  · right
    rw [none]
    refine ⟨?_, .one, rfl, ?_⟩
    · rintro ⟨row, member, _⟩
      rw [empty] at member
      cases member
    · intro row member
      rw [empty] at member
      cases member
  · rw [found]
    dsimp only
    rcases top.add?_one with largest | ⟨next, sum, greater⟩
    · left
      rw [Decimal.add?_one_eq_none.2 largest]
      exact ⟨⟨last, member, own.trans largest⟩, rfl⟩
    · right
      rw [sum]
      refine ⟨?_, next, rfl, ?_⟩
      · rintro ⟨row, inside, same⟩
        have below := above row inside
        rw [same] at below
        exact absurd (Int.lt_of_le_of_lt below greater) (Int.not_lt.2 next.units_le_largest)
      · intro row inside
        exact Int.lt_of_le_of_lt (above row inside) greater

theorem of_create_unplaced
    (done : table.create whole cells none now = .ok ((row, computation), later)) :
    table.nextOrder = .ok row.order ∧ row ∈ later.values ∧
      ∀ other ∈ later.values, other = row ∨ other ∈ table.values := by
  have stored := (of_create done).2.2.2.2
  rw [create_eq] at done
  obtain ⟨_, _, done⟩ := bind_eq_ok.1 done
  obtain ⟨order, next, done⟩ := bind_eq_ok.1 done
  obtain ⟨computed, _, same⟩ := bind_eq_ok.1 done
  refine ⟨?_, ?_, ?_⟩
  · cases same
    exact mapError_eq_ok.1 next
  · rw [stored]
    exact (mem_of_find? (find?_put _ _)).1
  · rw [stored]
    exact fun other => mem_put

end TableRows

theorem Db.all_ends {schema : Schema} {db : Db} {row : Row}
    (member : row ∈ (db.rowsOf schema.table).values)
    (before : ∀ other ∈ (db.rowsOf schema.table).values, other = row ∨
      schema.Precedes [] other row) :
    ∃ others, (perform (all schema) db).1 = .ok (others ++ [⟨schema, row⟩]) := by
  have lists := ({ schema } : Query).lists_select (db.rowsOf schema.table).nodup_ids
  have inside := (lists.mem_iff row).2 ⟨member, rfl⟩
  obtain ⟨front, behind, split⟩ := List.append_of_mem inside
  have ascending := lists.ascending
  rw [split] at ascending
  have after := (List.pairwise_cons.1 (List.pairwise_append.1 ascending).2.1).1
  have last : behind = [] := by
    apply List.eq_nil_iff_forall_not_mem.2
    intro other beyond
    have listed : other ∈ front ++ row :: behind :=
      List.mem_append_right _ (List.mem_cons_of_mem _ beyond)
    rw [← split] at listed
    rcases before other ((lists.mem_iff other).1 listed).1 with rfl | earlier
    · exact absurd (after other beyond) (Schema.precedes_irrefl _ _)
    · exact absurd (Schema.precedes_trans earlier (after other beyond)) (Schema.precedes_irrefl _ _)
  have sound : ({ schema } : Query).fault? (db.rowsOf schema.table).values = none :=
    Query.fault?_eq_none.2 fun _ _ => rfl
  have executed := perform_execute { schema } db
  rw [sound] at executed
  refine ⟨front.map (⟨schema, ·⟩), ?_⟩
  unfold all
  rw [perform_bind]
  generalize perform (execute { schema }) db = ran at executed ⊢
  obtain ⟨outcome, later⟩ := ran
  change outcome = _ at executed
  rw [executed, split, last]
  unfold respond
  rw [List.map_append]
  rfl

theorem Db.last_of_create {schema : Schema} {db later : Db} {input : RowInput} {record : Record}
    (unplaced : input.order = none)
    (done : perform (create schema input) db = (.ok record, later)) :
    (∀ row ∈ (db.rowsOf schema.table).values, row.order.below record.row.order = true) ∧
      ∃ others, (perform (all schema) later).1 = .ok (others ++ [record]) := by
  rw [perform_create] at done
  split at done
  · cases done
  rw [unplaced] at done
  have own := eq_of_writeRow done
  obtain ⟨computation, changed⟩ := of_writeRow done
  obtain ⟨next, stored, others⟩ := TableRows.of_create_unplaced (Except.ok.inj changed)
  rcases (db.rowsOf schema.table).nextOrder_cases with ⟨_, exceeded⟩ | ⟨_, order, found, above⟩
  · cases exceeded.symm.trans next
  cases found.symm.trans next
  refine ⟨fun row member => decide_eq_true (above row member), ?_⟩
  rw [own]
  apply all_ends stored
  intro other member
  rcases others other member with same | earlier
  · exact .inl same
  · exact .inr (.inl (above other earlier))

theorem RowWrite.outcome_of_ready {Through : Schema → Prop} {schema : Schema} {db : Db}
    {write : RowWrite} {row : RowId} {start : Cells} (reached : Db.Reached Through db)
    (ready : write.Ready schema (db.rowsOf schema.table) row start) :
    (schema.whole.Strays row start ∧ ∃ later,
      write.perform schema db = (.error (.fault .calendarExceeded), later) ∧
        later.store.isClosed = true) ∨
    (¬ schema.whole.Strays row start ∧ ∃ record later,
      write.perform schema db = (.ok record, later)) := by
  have utc := RowWrite.isUtc_of_ready ready
    (reached.holds (fun schema _ => keeps_isUtc schema) schema.table)
  cases outcome : compute schema.whole row start with
  | error broken =>
    obtain ⟨exceeded, strays⟩ := compute_eq_error utc outcome
    obtain ⟨later, done, isClosed, _⟩ := RowWrite.perform_of_broken ready reached.isOpen outcome
    rw [exceeded] at done
    exact .inl ⟨strays, later, done, isClosed⟩
  | ok computation =>
    obtain ⟨made, later, done, _⟩ := RowWrite.perform_of_computed ready reached.isOpen outcome
    exact .inr ⟨(exists_compute_eq_ok utc).1 ⟨computation, outcome⟩, _, later, done⟩

theorem Db.create_of_broken {schema : Schema} {db : Db} {input : RowInput}
    {cells : List (FieldId × Value)} {fault : Fault} (isOpen : db.store.isClosed = false)
    (resolved : schema.resolveCells input.cells = .ok cells)
    (broken : (db.rowsOf schema.table).create schema.whole cells input.order db.clock =
      .error { fault }) :
    ∃ later, perform (create schema input) db = (.error (.fault fault), later) ∧
      later.store.isClosed = true := by
  obtain ⟨later, done, isClosed, _⟩ := @Db.writeRow_of_broken schema .create
    (fun rows => .ok (rows.create schema.whole cells input.order db.clock)) db _ isOpen
    (congrArg Except.ok broken)
  refine ⟨later, ?_, isClosed⟩
  rw [perform_create, resolved]
  exact done

/-- Of a row without an order there are four outcomes: where the identifiers or the orders are used up the
write breaks off, otherwise it breaks off at a formula that takes a late stamp for a date, or the row is
stored. -/
theorem Db.create_unplaced_cases {Through : Schema → Prop} {schema : Schema} {db : Db} {input : RowInput}
    {cells : List (FieldId × Value)} (reached : Db.Reached Through db)
    (resolved : schema.resolveCells input.cells = .ok cells) (unplaced : input.order = none) :
    let rows := db.rowsOf schema.table
    let strays := schema.whole.Strays ⟨rows.lastId + 1⟩
      ((TableRows.initialCells schema.whole.columns).insertAll cells)
    let breaksOff (fault : Fault) := ∃ later,
      perform (create schema input) db = (.error (.fault fault), later) ∧ later.store.isClosed = true
    (rows.IsExhausted ∧ breaksOff .rowIdExceeded) ∨
    (¬ rows.IsExhausted ∧ rows.IsFull ∧ breaksOff .orderExceeded) ∨
    (¬ rows.IsExhausted ∧ ¬ rows.IsFull ∧ strays ∧ breaksOff .calendarExceeded) ∨
    (¬ rows.IsExhausted ∧ ¬ rows.IsFull ∧ ¬ strays ∧ ∃ record later,
      perform (create schema input) db = (.ok record, later)) := by
  intro rows strays breaksOff
  have isOpen := reached.isOpen
  rcases rows.nextId_cases with ⟨used, none⟩ | ⟨left, id⟩
  · have broken : rows.create schema.whole cells input.order db.clock =
        .error { fault := .rowIdExceeded } := by
      rw [TableRows.create_eq, none]
      rfl
    exact .inl ⟨used, create_of_broken isOpen resolved broken⟩
  rcases rows.nextOrder_cases with ⟨full, exceeded⟩ | ⟨spare, order, next, _⟩
  · have broken : rows.create schema.whole cells input.order db.clock =
        .error { fault := .orderExceeded } := by
      rw [TableRows.create_eq, id, unplaced, exceeded]
      rfl
    exact .inr (.inl ⟨left, full, create_of_broken isOpen resolved broken⟩)
  · have ready : (RowWrite.create input).Ready schema rows ⟨rows.lastId + 1⟩ _ :=
      .create resolved ⟨⟨_, id⟩, .inr ⟨order, next⟩⟩
    rcases RowWrite.outcome_of_ready reached ready with ⟨late, done⟩ | ⟨sound, done⟩
    · exact .inr (.inr (.inl ⟨left, spare, late, done⟩))
    · exact .inr (.inr (.inr ⟨left, spare, sound, done⟩))

/-- Rows that are created without an order are last: behind all rows of their table in order, and at the
end when its rows are listed. Such a row with accepted cells is created in every state, unless all
identifiers were given out, a row has the largest of all orders, or a formula takes a late stamp for a date;
then the write breaks off and closes the store. -/
theorem appended_row_is_last {Through : Schema → Prop} {table : Table} {options : ComposeOptions}
    {schema : Schema} {db : Db} {input : RowInput} {cells : List (FieldId × Value)}
    (composed : Schema.compose table options = .ok schema) (reached : Db.Reached Through db)
    (resolved : schema.resolveCells input.cells = .ok cells) (unplaced : input.order = none) :
    let rows := db.rowsOf table.id
    let strays := schema.whole.Strays ⟨rows.lastId + 1⟩
      ((TableRows.initialCells schema.whole.columns).insertAll cells)
    let created := Db.perform (Db.create schema input) db
    let breaksOff (fault : Fault) :=
      ∃ later, created = (.error (.fault fault), later) ∧ later.store.isClosed = true
    (breaksOff .rowIdExceeded ↔ rows.IsExhausted) ∧
    (breaksOff .orderExceeded ↔ ¬ rows.IsExhausted ∧ rows.IsFull) ∧
    (breaksOff .calendarExceeded ↔ ¬ rows.IsExhausted ∧ ¬ rows.IsFull ∧ strays) ∧
    ((∃ record later, created = (.ok record, later)) ↔
      ¬ rows.IsExhausted ∧ ¬ rows.IsFull ∧ ¬ strays) ∧
    ∀ record later, created = (.ok record, later) →
      (∀ row ∈ rows.values, row.order.below record.row.order = true) ∧
      ∃ others, (Db.perform (Db.all schema) later).1 = .ok (others ++ [record]) := by
  have place := Schema.table_eq composed
  rw [← place]
  intro rows strays created breaksOff
  have told : ∀ record later, created = (.ok record, later) → _ :=
    fun record later => Db.last_of_create unplaced
  rw [← and_assoc, ← and_assoc, ← and_assoc]
  refine ⟨?_, told⟩
  have outcomes := Db.create_unplaced_cases reached resolved unplaced
  change (rows.IsExhausted ∧ breaksOff _) ∨ (¬ rows.IsExhausted ∧ rows.IsFull ∧ breaksOff _) ∨
    (¬ rows.IsExhausted ∧ ¬ rows.IsFull ∧ strays ∧ breaksOff _) ∨
    (¬ rows.IsExhausted ∧ ¬ rows.IsFull ∧ ¬ strays ∧ ∃ record later, created = _) at outcomes
  rcases outcomes with ⟨used, later, done, isClosed⟩ | ⟨left, full, later, done, isClosed⟩ |
    ⟨left, spare, late, later, done, isClosed⟩ | ⟨left, spare, sound, record, later, done⟩
  · simp [breaksOff, done, isClosed, used]
  · simp [breaksOff, done, isClosed, left, full]
  · simp [breaksOff, done, isClosed, left, spare, late]
  · simp [breaksOff, done, left, spare, sound]

/-! A table with one row, at an order that was given for it. -/

theorem exists_placed (order : Decimal) : ∃ db row, Db.Reached (fun _ => True) db ∧
    (db.rowsOf ⟨3⟩).values = [row] ∧ row.order = order ∧ ¬ (db.rowsOf ⟨3⟩).IsExhausted := by
  have started : Db.Reached (fun _ => True) { clock := .epoch } := .start rfl
  have done : Db.perform (Db.create bareSchema { order := some order }) { clock := .epoch } =
      (.ok ⟨bareSchema, _⟩, _) := rfl
  have left : ¬ UInt64.size ≤ (1 : UInt64).toNat + 1 := by decide
  exact ⟨_, _, started.of_create trivial done, rfl, rfl, left⟩

def largestTenths : Decimal := { Decimal.largest with scale := 1, scale_le := by decide }

theorem appended_row_after_tenths : ∃ db record later, Db.Reached (fun _ => True) db ∧
    (∃ row ∈ (db.rowsOf ⟨3⟩).values, row.order = largestTenths) ∧
    Db.perform (Db.create bareSchema {}) db = (.ok record, later) ∧
      largestTenths.below record.row.order = true := by
  obtain ⟨db, row, reached, rows, own, left⟩ := exists_placed largestTenths
  have composed : Schema.compose bareTable {} = .ok bareSchema := rfl
  have resolved : bareSchema.resolveCells ({} : RowInput).cells = .ok [] := rfl
  obtain ⟨_, _, _, stored, last⟩ := appended_row_is_last composed reached resolved rfl
  have spare : ¬ (db.rowsOf bareTable.id).IsFull := by
    rintro ⟨other, member, same⟩
    rw [show bareTable.id = ⟨3⟩ from rfl, rows, List.mem_singleton] at member
    rw [member, own] at same
    exact absurd same (by decide)
  have sound : ∀ id start, ¬ bareSchema.whole.Strays id start := by
    rintro id start ⟨front, column, behind, _, split, _⟩
    exact List.append_ne_nil_of_right_ne_nil front (List.cons_ne_nil column behind) split.symm
  have member : row ∈ (db.rowsOf bareTable.id).values := by
    rw [show bareTable.id = ⟨3⟩ from rfl, rows]
    exact List.mem_singleton_self row
  obtain ⟨record, later, done⟩ := stored.2 ⟨left, spare, sound _ _⟩
  refine ⟨db, record, later, reached, ⟨row, member, own⟩, done, ?_⟩
  rw [← own]
  exact (last record later done).1 row member

/-- Not every row without an order is created: nothing is behind the largest of all orders. -/
theorem not_all_rows_appended :
    ¬ ∀ (table : Table) (options : ComposeOptions) (schema : Schema) (db : Db) (input : RowInput)
      (cells : List (FieldId × Value)),
      Schema.compose table options = .ok schema → Db.Reached (fun _ => True) db →
      schema.resolveCells input.cells = .ok cells → input.order = none →
      ∃ record later, Db.perform (Db.create schema input) db = (.ok record, later) := by
  intro refuted
  obtain ⟨db, row, reached, rows, own, left⟩ := exists_placed Decimal.largest
  have resolved : bareSchema.resolveCells ({} : RowInput).cells = .ok [] := rfl
  obtain ⟨record, later, done⟩ := refuted bareTable {} bareSchema db {} [] rfl reached resolved rfl
  have full : (db.rowsOf bareSchema.table).IsFull := by
    refine ⟨row, ?_, own⟩
    rw [show bareSchema.table = ⟨3⟩ from rfl, rows]
    exact List.mem_singleton_self row
  rcases Db.create_unplaced_cases reached resolved rfl with ⟨used, _⟩ | ⟨_, _, _, broken, _⟩ |
    ⟨_, spare, _⟩ | ⟨_, spare, _⟩
  · exact left used
  · cases done.symm.trans broken
  · exact spare full
  · exact spare full

end Tabula
