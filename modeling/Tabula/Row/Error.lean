import Tabula.Cell.Normal

/-! What can be wrong with a write of a row. -/
namespace Tabula

inductive RowError
  | rowDoesNotExist (table : TableId) (row : RowId)
  | unknownField (name : String)
  | invalidValue (field : String) (reason : CellError)
  | readOnlyField (field : String)
  | tableMismatch (expected found : TableId)
  | storeClosed
  deriving DecidableEq, Repr

def RowError.message : RowError → String
  | rowDoesNotExist table row => s!"row {row.text} does not exist in table {table.text}"
  | unknownField name => s!"field '{name}' does not exist"
  | invalidValue field reason => s!"invalid value for field '{field}': {reason.message}"
  | readOnlyField field => s!"field '{field}' is computed and cannot be written"
  | tableMismatch expected found =>
    s!"row belongs to table {found.text}, expected table {expected.text}"
  | storeClosed => "row store lock poisoned"

end Tabula
