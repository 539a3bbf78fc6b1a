import Tabula.Proofs.Formula.Faults
import Tabula.Proofs.Row.Computed

/-!
Where the pass over the formula cells of a row breaks off: at the first column that takes a late stamp
for a date. It warns of every other formula that fails.
-/
namespace Tabula

def Cells.IsUtc (cells : Cells) : Prop := ∀ id value, cells.find? id = some value → value.IsUtc

/-- The formula of the column takes a late stamp for a date. -/
def Column.Strays (schema : Schema) (row : RowId) (cells : Cells) (column : Column) : Prop :=
  ∃ source result expr value, column.field.kind = .computed source result ∧
    Formula.parse source = .ok expr ∧ expr.eval (formulaScope schema row cells) = .ok value ∧
    Formula.Strays value result

/-- The pass comes to a column that strays over the cells computed so far. -/
def Schema.Strays (schema : Schema) (row : RowId) (start : Cells) : Prop :=
  ∃ front column behind met, schema.columns = front ++ column :: behind ∧
    front.foldlM (computeColumn schema row) { cells := start } = .ok met ∧
    column.Strays schema row met.cells

def Column.Fails (schema : Schema) (row : RowId) (cells : Cells) (column : Column)
    (error : Formula.Error) : Prop :=
  ∃ source result, column.field.kind = .computed source result ∧
    formulaValue schema row cells source result = .error (.error error)

section
variable {schema : Schema} {row : RowId} {cells : Cells} {column : Column}

theorem isUtc_formulaScalar {value : Value} (utc : value.IsUtc) :
    (formulaScalar column value).IsUtc := by
  have text (written : Option String) : ((written.map Value.text).getD .null).IsUtc := by
    cases written <;> trivial
  unfold formulaScalar
  split
  · cases column.field.type.choice? _ <;> trivial
  · exact text _
  · exact text _
  · exact text _
  · exact utc

theorem isUtc_formulaScope (utc : cells.IsUtc) : (formulaScope schema row cells).IsUtc := by
  intro name value read
  obtain ⟨column, _, rfl⟩ := Option.map_eq_some_iff.1 read
  apply isUtc_formulaScalar
  unfold cellOf
  cases found : cells.find? column.id with
  | none => exact isUtc_initial column.field.kind
  | some value => exact utc _ _ found

theorem formulaValue_eq_fault {source : String} {result : ResultType} {fault : Fault}
    (utc : cells.IsUtc) :
    formulaValue schema row cells source result = .error (.fault fault) ↔
      fault = .calendarExceeded ∧ ∃ expr value, Formula.parse source = .ok expr ∧
        expr.eval (formulaScope schema row cells) = .ok value ∧ Formula.Strays value result := by
  unfold formulaValue
  cases parsed : Formula.parse source with
  | error error =>
    change (.error (.error error) : Except (Failure Formula.Error) Value) = _ ↔ _
    simp
  | ok expr =>
    change expr.evaluate _ result = _ ↔ _
    rw [Formula.evaluate_eq_fault (isUtc_formulaScope utc)]
    simp

theorem isUtc_of_formulaValue {source : String} {result : ResultType} {value : Value}
    (utc : cells.IsUtc) (done : formulaValue schema row cells source result = .ok value) :
    value.IsUtc := by
  unfold formulaValue at done
  obtain ⟨expr, _, evaluated⟩ := bind_eq_ok.1 done
  exact Formula.isUtc_of_evaluate (isUtc_formulaScope utc) evaluated

theorem Column.strays_iff {source : String} {result : ResultType}
    (kind : column.field.kind = .computed source result) (utc : cells.IsUtc) {fault : Fault} :
    formulaValue schema row cells source result = .error (.fault fault) ↔
      fault = .calendarExceeded ∧ column.Strays schema row cells := by
  rw [formulaValue_eq_fault utc]
  unfold Strays
  constructor
  · rintro ⟨same, expr, value, given⟩
    exact ⟨same, source, result, expr, value, kind, given⟩
  · rintro ⟨same, _, _, expr, value, sameKind, given⟩
    rw [kind] at sameKind
    cases sameKind
    exact ⟨same, expr, value, given⟩

theorem Column.not_strays_of_stored (stored : column.field.kind.isComputed = false) :
    ¬ column.Strays schema row cells := by
  rintro ⟨source, result, _, _, kind, _⟩
  rw [kind] at stored
  cases stored

/-- A step breaks off exactly at a column that strays. -/
theorem computeColumn_eq_error {so : Computation} {broken : Breakdown} (utc : so.cells.IsUtc) :
    computeColumn schema row so column = .error broken ↔
      broken = ⟨.calendarExceeded, so.warnings⟩ ∧ column.Strays schema row so.cells := by
  cases kind : column.field.kind with
  | stored type =>
    have stored : column.field.kind.isComputed = false := by
      rw [kind]
      rfl
    rw [computeColumn_of_stored stored]
    simp [Column.not_strays_of_stored stored]
  | computed source result =>
    have strays : formulaValue schema row so.cells source result =
        .error (.fault .calendarExceeded) ↔ column.Strays schema row so.cells := by
      rw [Column.strays_iff kind utc]
      simp
    rcases computeColumn_cases schema row kind so with
      ⟨value, evaluated, done⟩ | ⟨error, evaluated, done⟩ | ⟨fault, evaluated, done⟩
    · rw [done, ← strays, evaluated]
      simp
    · rw [done, ← strays, evaluated]
      simp
    · obtain ⟨rfl, _⟩ := (Column.strays_iff kind utc).1 evaluated
      rw [done, ← strays, evaluated]
      simp [eq_comm]

theorem Cells.isUtc_insert {id : FieldId} {value : Value} (utc : cells.IsUtc) (held : value.IsUtc) :
    Cells.IsUtc (cells.insert id value) := by
  intro other found read
  rw [IdMap.find?_insert] at read
  split at read
  · cases read
    exact held
  · exact utc other found read

theorem Cells.isUtc_insertAll {entries : List (FieldId × Value)} (utc : cells.IsUtc)
    (held : ∀ entry ∈ entries, entry.2.IsUtc) : Cells.IsUtc (cells.insertAll entries) := by
  intro id value read
  rcases IdMap.of_find?_insertAll read with member | earlier
  · exact held _ member
  · exact utc id value earlier

theorem isUtc_of_computeColumn {so next : Computation} (utc : so.cells.IsUtc)
    (step : computeColumn schema row so column = .ok next) : next.cells.IsUtc := by
  cases kind : column.field.kind with
  | stored type =>
    rw [computeColumn_of_stored (by rw [kind]; rfl)] at step
    cases step
    exact utc
  | computed source result =>
    rcases computeColumn_cases schema row kind so with
      ⟨value, evaluated, done⟩ | ⟨error, evaluated, done⟩ | ⟨fault, evaluated, done⟩
    · rw [step] at done
      cases done
      exact Cells.isUtc_insert utc (isUtc_of_formulaValue utc evaluated)
    · rw [step] at done
      cases done
      exact Cells.isUtc_insert utc trivial
    · rw [step] at done
      cases done

theorem isUtc_of_computed {columns : List Column} {so last : Computation} (utc : so.cells.IsUtc)
    (run : columns.foldlM (computeColumn schema row) so = .ok last) : last.cells.IsUtc := by
  induction columns generalizing so with
  | nil =>
    cases run
    exact utc
  | cons column rest ih =>
    rw [List.foldlM_cons, bind_eq_ok] at run
    obtain ⟨next, step, run⟩ := run
    exact ih (isUtc_of_computeColumn utc step) run

theorem compute_eq_error {start : Cells} {broken : Breakdown} (utc : start.IsUtc)
    (failed : compute schema row start = .error broken) :
    broken.fault = .calendarExceeded ∧ schema.Strays row start := by
  obtain ⟨front, column, behind, met, split, run, stopped⟩ := foldlM_eq_error.1 failed
  obtain ⟨rfl, strays⟩ := (computeColumn_eq_error (isUtc_of_computed utc run)).1 stopped
  exact ⟨rfl, front, column, behind, met, split, run, strays⟩

/-- The pass comes through exactly when no column strays. -/
theorem exists_compute_eq_ok {start : Cells} (utc : start.IsUtc) :
    (∃ computation, compute schema row start = .ok computation) ↔ ¬ schema.Strays row start := by
  constructor
  · rintro ⟨computation, done⟩ ⟨front, column, behind, met, split, run, strays⟩
    have stopped := (computeColumn_eq_error (isUtc_of_computed utc run)).2 ⟨rfl, strays⟩
    have failed : compute schema row start = .error ⟨.calendarExceeded, met.warnings⟩ :=
      foldlM_eq_error.2 ⟨front, column, behind, met, split, run, stopped⟩
    rw [done] at failed
    cases failed
  · intro within
    cases outcome : compute schema row start with
    | ok computation => exact ⟨computation, rfl⟩
    | error broken => exact absurd (compute_eq_error utc outcome).2 within

theorem Column.fails_congr {left right : Cells} {error : Formula.Error}
    (same : ∀ source result, formulaValue schema row left source result =
      formulaValue schema row right source result) :
    column.Fails schema row left error ↔ column.Fails schema row right error := by
  unfold Fails
  simp only [same]

theorem mem_warnings_of_computeColumn {so next : Computation} {warning : Warning}
    (step : computeColumn schema row so column = .ok next) :
    warning ∈ next.warnings ↔ warning ∈ so.warnings ∨
      ∃ error, column.Fails schema row so.cells error ∧
        warning = ⟨schema.table, row, column.id, error⟩ := by
  unfold Column.Fails
  cases kind : column.field.kind with
  | stored type =>
    rw [computeColumn_of_stored (by rw [kind]; rfl)] at step
    cases step
    simp
  | computed source result =>
    rcases computeColumn_cases schema row kind so with
      ⟨value, evaluated, done⟩ | ⟨error, evaluated, done⟩ | ⟨fault, evaluated, done⟩
    · rw [step] at done
      cases done
      simp [evaluated]
    · rw [step] at done
      cases done
      simp [evaluated]
    · rw [step] at done
      cases done

theorem mem_warnings_of_computed {columns : List Column} {so last : Computation} {warning : Warning}
    (run : columns.foldlM (computeColumn schema row) so = .ok last) :
    warning ∈ last.warnings ↔ warning ∈ so.warnings ∨
      ∃ front column behind met error, columns = front ++ column :: behind ∧
        front.foldlM (computeColumn schema row) so = .ok met ∧
        column.Fails schema row met.cells error ∧
        warning = ⟨schema.table, row, column.id, error⟩ := by
  induction columns generalizing so with
  | nil =>
    cases run
    simp
  | cons head rest ih =>
    rw [List.foldlM_cons, bind_eq_ok] at run
    obtain ⟨next, step, run⟩ := run
    rw [ih run, mem_warnings_of_computeColumn step, or_assoc]
    apply or_congr_right
    constructor
    · rintro (⟨error, fails, same⟩ | ⟨front, column, behind, met, error, rfl, before, fails, same⟩)
      · exact ⟨[], head, rest, so, error, rfl, rfl, fails, same⟩
      · refine ⟨head :: front, column, behind, met, error, rfl, ?_, fails, same⟩
        rw [List.foldlM_cons]
        exact bind_eq_ok.2 ⟨next, step, before⟩
    · rintro ⟨front, column, behind, met, error, split, before, fails, same⟩
      cases front with
      | nil =>
        cases split
        cases before
        exact .inl ⟨error, fails, same⟩
      | cons other front =>
        cases split
        rw [List.foldlM_cons] at before
        obtain ⟨other, first, before⟩ := bind_eq_ok.1 before
        rw [step] at first
        cases first
        exact .inr ⟨front, column, behind, met, error, rfl, before, fails, same⟩

end

end Tabula
