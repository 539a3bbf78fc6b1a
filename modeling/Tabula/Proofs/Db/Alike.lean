import Tabula.Proofs.Db.Reached

/-!
Databases that nobody can tell apart: they differ at most in which tables without rows have a place in
the store. Every operation answers from both alike and leaves them so, and therefore a client comes to
the same result with both.
-/
namespace Tabula
namespace Db

structure Alike (left right : Db) : Prop where
  config : left.config = right.config
  clock : left.clock = right.clock
  metrics : left.metrics = right.metrics
  captured : left.captured = right.captured
  warnings : left.warnings = right.warnings
  isClosed : left.store.isClosed = right.store.isClosed
  rowsOf : ∀ table, left.rowsOf table = right.rowsOf table

theorem rowsOf_withRows (db : Db) (table other : TableId) (rows : TableRows) :
    (db.withRows table rows).rowsOf other = if other = table then rows else db.rowsOf other :=
  Store.rowsOf_insert db.store table other rows

namespace Alike

variable {left right : Db}

theorem refl (db : Db) : db.Alike db := ⟨rfl, rfl, rfl, rfl, rfl, rfl, fun _ => rfl⟩

theorem withOwnRows (db : Db) (table : TableId) : (db.withRows table (db.rowsOf table)).Alike db := by
  refine { refl db with rowsOf := ?_ }
  intro other
  rw [rowsOf_withRows]
  split
  · rename_i own
    rw [own]
  · rfl

theorem withRows (alike : left.Alike right) (table : TableId) (rows : TableRows) :
    (left.withRows table rows).Alike (right.withRows table rows) := by
  refine { alike with rowsOf := ?_ }
  intro other
  rw [rowsOf_withRows, rowsOf_withRows, alike.rowsOf]

theorem withoutRows (alike : left.Alike right) (table : TableId) :
    Alike { left with store := { left.store with tables := left.store.tables.erase table } }
      { right with store := { right.store with tables := right.store.tables.erase table } } := by
  refine { alike with rowsOf := ?_ }
  intro other
  have same := alike.rowsOf other
  unfold Db.rowsOf at same ⊢
  rw [Store.rowsOf_erase, Store.rowsOf_erase, same]

theorem closed (alike : left.Alike right) :
    Alike { left with store := { left.store with isClosed := true } }
      { right with store := { right.store with isClosed := true } } :=
  { alike with isClosed := rfl }

theorem warn (alike : left.Alike right) (warnings : List Warning) :
    (left.warn warnings).Alike (right.warn warnings) :=
  { alike with warnings := congrArg (· ++ warnings) alike.warnings }

theorem record (alike : left.Alike right) (event : Event) :
    (left.record event).Alike (right.record event) := by
  unfold Db.record
  rw [alike.captured]
  split
  · exact { alike with captured := rfl }
  · exact { alike with
      metrics := congrArg (Metrics.record · event) alike.metrics
      captured := rfl }

theorem announced (alike : left.Alike right) (warnings : List Warning) (events : List Event) :
    Alike (events.foldl Db.record (left.warn warnings))
      (events.foldl Db.record (right.warn warnings)) := by
  have warned := alike.warn warnings
  generalize left.warn warnings = left, right.warn warnings = right at warned
  induction events generalizing left right with
  | nil => exact warned
  | cons event rest ih => exact ih _ _ (warned.record event)

end Alike

/-- Databases that are alike are answered alike, and stay alike. -/
def Respects {ε α : Type} (work : ExceptT ε (StateM Db) α) : Prop :=
  ∀ left right, left.Alike right → (perform work left).1 = (perform work right).1 ∧
    (perform work left).2.Alike (perform work right).2

section
variable {ε α β : Type}

theorem Respects.bind {first : ExceptT ε (StateM Db) α} {next : α → ExceptT ε (StateM Db) β}
    (before : Respects first) (after : ∀ value, Respects (next value)) :
    Respects (first >>= next) := by
  intro left right alike
  obtain ⟨answer, later⟩ := before left right alike
  rw [perform_bind, perform_bind]
  generalize perform first left = ranLeft, perform first right = ranRight at answer later
  obtain ⟨outcome, left⟩ := ranLeft
  obtain ⟨_, right⟩ := ranRight
  cases answer
  cases outcome with
  | ok value => exact after value left right later
  | error failure => exact ⟨rfl, later⟩

theorem respects_pure (value : α) : Respects (pure value : ExceptT ε (StateM Db) α) :=
  fun _ _ alike => ⟨rfl, alike⟩

theorem respects_throw (failure : ε) : Respects (throw failure : ExceptT ε (StateM Db) α) :=
  fun _ _ alike => ⟨rfl, alike⟩

theorem respects_ofExcept (outcome : Except ε α) :
    Respects (MonadExcept.ofExcept outcome : ExceptT ε (StateM Db) α) := by
  intro left right alike
  rw [perform_ofExcept, perform_ofExcept]
  exact ⟨rfl, alike⟩

theorem respects_getThe {next : Db → ExceptT ε (StateM Db) α}
    (same : ∀ left right, left.Alike right → next left = next right)
    (after : ∀ db, Respects (next db)) : Respects (getThe Db >>= next) := by
  intro left right alike
  rw [perform_getThe, perform_getThe, same left right alike]
  exact after right left right alike

theorem respects_modifyThe {change : Db → Db}
    (kept : ∀ left right, left.Alike right → (change left).Alike (change right)) :
    Respects (modifyThe Db change : ExceptT ε (StateM Db) Unit) :=
  fun left right alike => ⟨rfl, kept left right alike⟩

end

theorem respects_write {α : Type} (table : TableId)
    (change : TableRows → Except RowError (Except Breakdown (α × TableRows))) :
    Respects (write table change) := by
  intro left right alike
  rw [perform_write, perform_write, alike.isClosed, alike.rowsOf]
  split
  · exact ⟨rfl, alike⟩
  · split
    · exact ⟨rfl, alike.withRows table _⟩
    · exact ⟨rfl, alike.closed.warn _⟩
    · exact ⟨rfl, alike.withRows table _⟩

theorem respects_announce (warnings : List Warning) (events : List Event) :
    Respects (announce warnings events) :=
  respects_modifyThe fun _ _ alike => alike.announced warnings events

theorem respects_announced (schema : Schema) (kind : WriteKind)
    (change : TableRows → Except RowError (Except Breakdown ((Row × Computation) × TableRows))) :
    Respects (do
      let (row, computation) ← write schema.table change
      announce computation.warnings [.rowWrite schema.table kind computation.computed]
      return (⟨schema, row⟩ : Record)) := by
  apply (respects_write _ _).bind
  intro result
  obtain ⟨row, computation⟩ := result
  exact (respects_announce _ _).bind fun _ => respects_pure _

theorem respects_create (schema : Schema) (input : RowInput) : Respects (create schema input) := by
  apply (respects_ofExcept _).bind
  intro cells
  apply respects_getThe
  · intro left right alike
    simp only [alike.clock]
  · intro db
    exact respects_announced schema .create _

theorem respects_update (schema : Schema) (id : RowId) (input : RowInput) :
    Respects (update schema id input) := by
  apply (respects_ofExcept _).bind
  intro cells
  apply respects_getThe
  · intro left right alike
    simp only [alike.clock]
  · intro db
    exact respects_announced schema .update _

theorem respects_updateRecord (schema : Schema) (record : Record) (input : RowInput) :
    Respects (updateRecord schema record input) := by
  unfold updateRecord
  dsimp only
  split
  · exact respects_throw _
  · exact respects_update schema record.id input

theorem respects_delete (schema : Schema) (id : RowId) : Respects (delete schema id) :=
  (respects_write _ _).bind fun _ => respects_announce _ _

theorem respects_reconcile (schema : Schema) : Respects (reconcile schema) := by
  apply (respects_write _ _).bind
  intro result
  obtain ⟨changed, warnings⟩ := result
  exact (respects_announce _ _).bind fun _ => respects_pure _

theorem respects_dropTable (table : TableId) : Respects (dropTable table) := by
  intro left right alike
  have count : left.rowCount table = right.rowCount table := by
    unfold rowCount
    rw [alike.rowsOf]
  rw [perform_dropTable, perform_dropTable, alike.isClosed, count]
  split
  · exact ⟨rfl, alike⟩
  · exact ⟨rfl, alike.withoutRows table⟩

theorem respects_scan (query : Query) : Respects (scan query) := by
  have counted (event : Event) : Respects (modifyThe Db (·.record event) : Reading Unit) :=
    respects_modifyThe fun _ _ alike => alike.record event
  apply respects_getThe
  · intro left right alike
    simp only [alike.rowsOf]
  · intro db
    apply (counted _).bind
    intro _
    apply (respects_ofExcept _).bind
    intro selected
    exact (counted _).bind fun _ => respects_pure _

theorem respects_execute (query : Query) : Respects (execute query) :=
  (respects_scan query).bind fun _ => respects_pure _

theorem respects_page (query : Query) (offset : Nat) (limit : Option UInt32) :
    Respects (page query offset limit) := by
  apply respects_getThe
  · intro left right alike
    simp only [alike.config]
  · intro db
    apply (respects_ofExcept _).bind
    intro size
    exact (respects_scan query).bind fun _ => respects_pure _

theorem respects_all (schema : Schema) : Respects (all schema) :=
  (respects_execute _).bind fun _ => respects_pure _

end Db

/-- What can be asked of a database, by the form of the answer. -/
inductive Operation : Type → Type
  | compose (table : Table) (options : ComposeOptions) : Operation (Except Fault Schema)
  | create (schema : Schema) (input : RowInput) : Operation (Except (Failure RowError) Record)
  | update (schema : Schema) (id : RowId) (input : RowInput) :
      Operation (Except (Failure RowError) Record)
  | updateRecord (schema : Schema) (record : Record) (input : RowInput) :
      Operation (Except (Failure RowError) Record)
  | delete (schema : Schema) (id : RowId) : Operation (Except (Failure RowError) Unit)
  | reconcile (schema : Schema) : Operation (Except (Failure RowError) Nat)
  | dropTable (table : TableId) : Operation (Except (Failure RowError) Nat)
  | get (schema : Schema) (id : RowId) : Operation (Except RowError Record)
  | all (schema : Schema) : Operation (Except Fault (List Record))
  | execute (query : Query) : Operation (Except Fault Response)
  | page (query : Query) (offset : Nat) (limit : Option UInt32) : Operation (Except Fault Page)
  | count (query : Query) : Operation (Except Fault Nat)
  | rowCount (table : TableId) : Operation Nat
  | config : Operation Config
  | clock : Operation Instant
  | setClock (now : Instant) : Operation Unit
  | metrics : Operation Metrics
  | resetMetrics : Operation Unit
  | capture (events : Option (List Event)) : Operation (Option (List Event))
  | takeWarnings : Operation (List Warning)

namespace Operation

def perform {α : Type} : Operation α → Db → α × Db
  | compose table options, db => (db.compose table options, db)
  | create schema input, db => Db.perform (Db.create schema input) db
  | update schema id input, db => Db.perform (Db.update schema id input) db
  | updateRecord schema record input, db => Db.perform (Db.updateRecord schema record input) db
  | delete schema id, db => Db.perform (Db.delete schema id) db
  | reconcile schema, db => Db.perform (Db.reconcile schema) db
  | dropTable table, db => Db.perform (Db.dropTable table) db
  | get schema id, db => (db.get schema id, db)
  | all schema, db => Db.perform (Db.all schema) db
  | execute query, db => Db.perform (Db.execute query) db
  | page query offset limit, db => Db.perform (Db.page query offset limit) db
  | count query, db => (db.count query, db)
  | rowCount table, db => (db.rowCount table, db)
  | config, db => (db.config, db)
  | clock, db => (db.clock, db)
  | setClock now, db => ((), { db with clock := now })
  | metrics, db => (db.metrics, db)
  | resetMetrics, db => ((), { db with metrics := { tables := default } })
  | capture events, db => (db.captured, { db with captured := events })
  | takeWarnings, db => (db.warnings, { db with warnings := [] })

theorem alike {α : Type} {left right : Db} (operation : Operation α) (alike : left.Alike right) :
    (operation.perform left).1 = (operation.perform right).1 ∧
      (operation.perform left).2.Alike (operation.perform right).2 := by
  cases operation with
  | compose table options =>
    refine ⟨?_, alike⟩
    simp only [perform, Db.compose, alike.config]
  | create schema input => exact Db.respects_create schema input left right alike
  | update schema id input => exact Db.respects_update schema id input left right alike
  | updateRecord schema record input =>
    exact Db.respects_updateRecord schema record input left right alike
  | delete schema id => exact Db.respects_delete schema id left right alike
  | reconcile schema => exact Db.respects_reconcile schema left right alike
  | dropTable table => exact Db.respects_dropTable table left right alike
  | get schema id =>
    refine ⟨?_, alike⟩
    simp only [perform, Db.get, alike.rowsOf]
  | all schema => exact Db.respects_all schema left right alike
  | execute query => exact Db.respects_execute query left right alike
  | page query offset limit => exact Db.respects_page query offset limit left right alike
  | count query =>
    refine ⟨?_, alike⟩
    simp only [perform, Db.count, alike.rowsOf]
  | rowCount table =>
    refine ⟨?_, alike⟩
    simp only [perform, Db.rowCount, alike.rowsOf]
  | config => exact ⟨alike.config, alike⟩
  | clock => exact ⟨alike.clock, alike⟩
  | setClock now => exact ⟨rfl, { alike with clock := rfl }⟩
  | metrics => exact ⟨alike.metrics, alike⟩
  | resetMetrics => exact ⟨rfl, { alike with metrics := rfl }⟩
  | capture events => exact ⟨alike.captured, { alike with captured := rfl }⟩
  | takeWarnings => exact ⟨alike.warnings, { alike with warnings := rfl }⟩

end Operation

/-- One who asks, goes on as the answer may be, and comes to a result in the end. -/
inductive Client (β : Type) : Type 1
  | done (result : β)
  | ask {α : Type} (operation : Operation α) (next : α → Client β)

namespace Client

variable {β : Type}

def run : Client β → Db → β
  | done result, _ => result
  | ask operation next, db => (next (operation.perform db).1).run (operation.perform db).2

theorem run_of_alike (client : Client β) {left right : Db} (alike : left.Alike right) :
    client.run left = client.run right := by
  induction client generalizing left right with
  | done result => rfl
  | ask operation next ih =>
    obtain ⟨answer, later⟩ := operation.alike alike
    rw [run, run, answer]
    exact ih _ later

end Client
end Tabula
