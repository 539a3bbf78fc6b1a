import Tabula.Proofs.Db.Alike

/-! Calls that are refused: from then on all is as if they had not been made. -/
namespace Tabula
namespace Db

def IsCertain {α : Type} (work : Work α) : Prop :=
  ∀ db error, (perform work db).1 ≠ .error (.error error)

/-- When it is refused, nothing happened, or nothing but that the table got its place in the store. -/
def Spares {α : Type} (table : TableId) (work : Work α) : Prop :=
  ∀ db error later, perform work db = (.error (.error error), later) →
    later = db ∨ later = db.withRows table (db.rowsOf table)

section
variable {α β : Type}

theorem isCertain_pure (value : α) : IsCertain (pure value) := fun _ _ => nofun

theorem isCertain_announce (warnings : List Warning) (events : List Event) :
    IsCertain (announce warnings events) := fun _ _ => nofun

theorem IsCertain.bind {first : Work α} {next : α → Work β} (before : IsCertain first)
    (after : ∀ value, IsCertain (next value)) : IsCertain (first >>= next) := by
  intro db error refused
  rw [perform_bind] at refused
  split at refused
  · exact after _ _ _ refused
  · rename_i ran
    have stopped := before db error
    rw [ran] at stopped
    cases refused
    exact stopped rfl

variable {table : TableId}

theorem spares_throw (failure : Failure RowError) : Spares table (throw failure : Work α) := by
  intro db error later refused
  cases refused
  exact .inl rfl

theorem spares_ofExcept_bind {outcome : Except (Failure RowError) α} {next : α → Work β}
    (after : ∀ value, Spares table (next value)) :
    Spares table (MonadExcept.ofExcept outcome >>= next) := by
  intro db error later refused
  rw [perform_bind, perform_ofExcept] at refused
  cases outcome with
  | error failure =>
    cases refused
    exact .inl rfl
  | ok value => exact after value db error later refused

theorem spares_getThe_bind {next : Db → Work α} (after : ∀ db, Spares table (next db)) :
    Spares table (getThe Db >>= next) :=
  fun db error later refused => after db db error later refused

theorem spares_write (change : TableRows → Except RowError (Except Breakdown (α × TableRows))) :
    Spares table (write table change) := by
  intro db error later refused
  rcases perform_write_cases table change db with
    ⟨_, _, _, wrote⟩ | ⟨_, _, stopped, kept⟩ | ⟨_, _, broken⟩
  · rw [wrote] at refused
    cases refused
  · rw [stopped] at refused
    cases refused
    exact kept
  · rw [broken] at refused
    cases refused

theorem Spares.bind {first : Work α} {next : α → Work β} (spares : Spares table first)
    (certain : ∀ value, IsCertain (next value)) : Spares table (first >>= next) := by
  intro db error later refused
  rw [perform_bind] at refused
  split at refused
  · rename_i value between _
    exact absurd (congrArg Prod.fst refused) (certain value between error)
  · rename_i failure between stopped
    cases refused
    exact spares db error later stopped

end

theorem spares_announced (schema : Schema) (kind : WriteKind)
    (change : TableRows → Except RowError (Except Breakdown ((Row × Computation) × TableRows))) :
    Spares schema.table (do
      let (row, computation) ← write schema.table change
      announce computation.warnings [.rowWrite schema.table kind computation.computed]
      return (⟨schema, row⟩ : Record)) := by
  apply (spares_write _).bind
  intro result
  obtain ⟨row, computation⟩ := result
  exact (isCertain_announce _ _).bind fun _ => isCertain_pure _

theorem spares_create (schema : Schema) (input : RowInput) :
    Spares schema.table (create schema input) := by
  apply spares_ofExcept_bind
  intro cells
  apply spares_getThe_bind
  intro db
  exact spares_announced schema .create _

theorem spares_update (schema : Schema) (id : RowId) (input : RowInput) :
    Spares schema.table (update schema id input) := by
  apply spares_ofExcept_bind
  intro cells
  apply spares_getThe_bind
  intro db
  exact spares_announced schema .update _

theorem spares_updateRecord (schema : Schema) (record : Record) (input : RowInput) :
    Spares schema.table (updateRecord schema record input) := by
  unfold updateRecord
  dsimp only
  split
  · exact spares_throw _
  · exact spares_update schema record.id input

theorem spares_delete (schema : Schema) (id : RowId) : Spares schema.table (delete schema id) :=
  (spares_write _).bind fun _ => isCertain_announce _ _

theorem spares_reconcile (schema : Schema) : Spares schema.table (reconcile schema) := by
  apply (spares_write _).bind
  intro result
  obtain ⟨changed, warnings⟩ := result
  exact (isCertain_announce _ _).bind fun _ => isCertain_pure _

end Db

theorem RowCall.spares (schema : Schema) (call : RowCall) :
    Db.Spares schema.table (call.work schema) := by
  cases call with
  | create input => exact (Db.spares_create schema input).bind fun _ => Db.isCertain_pure ()
  | update id input => exact (Db.spares_update schema id input).bind fun _ => Db.isCertain_pure ()
  | updateRecord record input =>
    exact (Db.spares_updateRecord schema record input).bind fun _ => Db.isCertain_pure ()
  | delete id => exact Db.spares_delete schema id
  | reconcile => exact (Db.spares_reconcile schema).bind fun _ => Db.isCertain_pure ()

/-- After a refused call nobody can tell that it was made. -/
theorem RowCall.alike_of_refused {schema : Schema} {db later : Db} {call : RowCall} {error : RowError}
    (refused : call.perform schema db = (.error (.error error), later)) : later.Alike db := by
  rcases call.spares schema db error later refused with rfl | rfl
  · exact .refl later
  · exact .withOwnRows db schema.table

/-- A refused call changes no rows, uses up no row number, counts as no event and gives no warning;
whatever a client finds out later, it would have found out without the call. -/
theorem refused_call_unnoticed {schema : Schema} {db later : Db} {call : RowCall} {error : RowError}
    (refused : call.perform schema db = (.error (.error error), later)) :
    (∀ table, later.rowsOf table = db.rowsOf table) ∧ later.metrics = db.metrics ∧
      later.captured = db.captured ∧ later.warnings = db.warnings ∧
      ∀ (β : Type) (client : Client β), client.run later = client.run db := by
  have alike := RowCall.alike_of_refused refused
  exact ⟨alike.rowsOf, alike.metrics, alike.captured, alike.warnings,
    fun _ client => client.run_of_alike alike⟩

/-! A row that is not there, in a table that the store does not know: the update gives the table its
place, and the first row gets the first number all the same. -/

def bareTable : Table where
  id := ⟨3⟩
  database := ⟨2⟩
  name := "Bare"
  order := 1

def bareSchema : Schema := .ofTable bareTable {}

def firstNumber : Client (Option RowId) :=
  .ask (.create bareSchema {}) fun
    | .ok record => .done (some record.id)
    | .error _ => .done none

theorem missing_row_unnoticed :
    ∃ later : Db, (RowCall.update ⟨1⟩ {}).perform bareSchema { clock := .epoch } =
        (.error (.error (.rowDoesNotExist ⟨3⟩ ⟨1⟩)), later) ∧
      later.store.tables.size = 1 ∧ firstNumber.run later = some ⟨1⟩ := by
  refine ⟨_, rfl, rfl, ?_⟩
  obtain ⟨_, _, _, _, unnoticed⟩ := refused_call_unnoticed
    (rfl : (RowCall.update ⟨1⟩ {}).perform bareSchema { clock := .epoch } =
      (.error (.error (.rowDoesNotExist ⟨3⟩ ⟨1⟩)), _))
  rw [unnoticed]
  rfl

end Tabula
