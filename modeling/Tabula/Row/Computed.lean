import Tabula.Cell.Display
import Tabula.Formula.Eval
import Tabula.Row.Basic

/-! Computed cells: formulas applied to the row that holds them. -/
namespace Tabula

structure Warning where
  table : TableId
  row : RowId
  field : FieldId
  error : Formula.Error
  deriving DecidableEq, Repr

def Warning.message (warning : Warning) : String :=
  s!"formula field {warning.field.stableName} of table {warning.table.text} " ++
    s!"failed for row {warning.row.text}: {warning.error.message}"

/-- What a formula reads of a cell: choices as their texts, lists as the text they are searched by. -/
def formulaScalar (column : Column) (value : Value) : Value :=
  match value with
  | .option chosen => ((column.field.type.choice? chosen).map fun choice => Value.text choice.value).getD .null
  | .options _ | .files _ | .links _ => ((column.field.searchText value).map Value.text).getD .null
  | other => other

def formulaScope (schema : Schema) (row : RowId) (cells : Cells) : Formula.Scope where
  rowId := row
  field? name := (schema.named? name).map fun column => formulaScalar column (cellOf cells column)

def formulaValue (schema : Schema) (row : RowId) (cells : Cells) (source : String)
    (result : ResultType) : Except (Failure Formula.Error) Value := do
  let expr ← (Formula.parse source).mapError Failure.error
  expr.evaluate (formulaScope schema row cells) result

/-- A computation that broke off, with what was warned of before. -/
structure Breakdown where
  fault : Fault
  warnings : List Warning := []
  deriving DecidableEq, Repr

def Breakdown.after (broken : Breakdown) (warnings : List Warning) : Breakdown :=
  { broken with warnings := warnings ++ broken.warnings }

structure Computation where
  cells : Cells
  computed : Nat := 0
  warnings : List Warning := []
  deriving Repr

/-- Computes one cell from the cells so far; a failed formula leaves null and a warning. -/
def computeColumn (schema : Schema) (row : RowId) (so : Computation) (column : Column) :
    Except Breakdown Computation :=
  match column.field.kind with
  | .stored _ => .ok so
  | .computed source result =>
    let put (value : Value) (warnings : List Warning) : Computation :=
      ⟨so.cells.insert column.id value, so.computed + 1, so.warnings ++ warnings⟩
    match formulaValue schema row so.cells source result with
    | .ok value => .ok (put value [])
    | .error (.error error) => .ok (put .null [⟨schema.table, row, column.id, error⟩])
    | .error (.fault fault) => .error ⟨fault, so.warnings⟩

/-- Computes the formula columns in field order, so that later ones see earlier results. -/
def compute (schema : Schema) (row : RowId) (cells : Cells) : Except Breakdown Computation :=
  schema.columns.foldlM (computeColumn schema row) { cells }

/-- Reads the identifier of the row, so that it must be computed again once there is one. -/
def Field.isRefreshedAfterInsert (field : Field) : Bool :=
  match field.formula? with
  | some (source, _) => (Formula.parse source).toOption.any (·.readsRowId)
  | none => false

def Field.isRefreshedAfterUpdate (field : Field) : Bool := field.kind.isComputed

def Schema.refreshedAfterInsert (schema : Schema) : List String :=
  (schema.columns.filter (·.field.isRefreshedAfterInsert)).map Column.stableName

def Schema.refreshedAfterUpdate (schema : Schema) : List String :=
  (schema.columns.filter (·.field.isRefreshedAfterUpdate)).map Column.stableName

end Tabula
