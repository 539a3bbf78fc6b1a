import Tabula.Cell.Display
import Tabula.Predicate.Basic
import Tabula.Row.Basic

/-! Which rows a restriction accepts. -/
namespace Tabula

def Field.accepts (field : Field) (test : CellTest) (value : Value) : Bool :=
  test.accepts value (field.searchText value)

def Field.testFault? (field : Field) (test : CellTest) (value : Value) : Option Fault :=
  test.fault? value (field.textFault? value)

def Field.checkedAccepts (field : Field) (test : CellTest) (value : Value) : Except Fault Bool :=
  unlessFault (field.testFault? test value) (field.accepts test value)

/-- Of the system columns, only numbers have a text. -/
def systemText : Value → Option String
  | .number amount => some amount.normalize.text
  | _ => none

def CellTest.acceptsColumn (test : CellTest) (schema : Schema) (row : Row) : ColumnKey → Bool
  | .field id =>
    match schema.column? id with
    | some column => column.field.accepts test (row.cell column)
    | none => false
  | .system column => test.accepts (row.systemValue column) (systemText (row.systemValue column))

def CellTest.columnFault? (test : CellTest) (schema : Schema) (row : Row) : ColumnKey → Option Fault
  | .field id => do
    let column ← schema.column? id
    column.field.testFault? test (row.cell column)
  | .system column => test.fault? (row.systemValue column) none

mutual

/-- A test of a column that the schema does not show accepts no row. -/
def Predicate.accepts (schema : Schema) (row : Row) : Predicate → Bool
  | .everything => true
  | .nothing => false
  | .allOf parts => allAccept schema row parts
  | .anyOf parts => anyAccepts schema row parts
  | .not part => !part.accepts schema row
  | .test column test => test.acceptsColumn schema row column
  | .rowIs id => row.id == id

def allAccept (schema : Schema) (row : Row) : List Predicate → Bool
  | [] => true
  | part :: parts => part.accepts schema row && allAccept schema row parts

def anyAccepts (schema : Schema) (row : Row) : List Predicate → Bool
  | [] => false
  | part :: parts => part.accepts schema row || anyAccepts schema row parts

end

mutual

/-- The fault that evaluating a restriction on a row meets. Parts behind the one that decides are not
evaluated. -/
def Predicate.fault? (schema : Schema) (row : Row) : Predicate → Option Fault
  | .allOf parts => allFault? schema row parts
  | .anyOf parts => anyFault? schema row parts
  | .not part => part.fault? schema row
  | .test column test => test.columnFault? schema row column
  | .everything | .nothing | .rowIs _ => none

def allFault? (schema : Schema) (row : Row) : List Predicate → Option Fault
  | [] => none
  | part :: parts =>
    (part.fault? schema row).or (if part.accepts schema row then allFault? schema row parts else none)

def anyFault? (schema : Schema) (row : Row) : List Predicate → Option Fault
  | [] => none
  | part :: parts =>
    (part.fault? schema row).or (if part.accepts schema row then none else anyFault? schema row parts)

end

end Tabula
