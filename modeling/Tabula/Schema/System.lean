import Tabula.Cell.Spec
import Tabula.Filter.Op

/-! The columns that every row has besides its fields. -/
namespace Tabula

inductive SystemColumn
  | id
  | order
  | createdOn
  | updatedOn
  deriving DecidableEq, Repr

namespace SystemColumn

def all : List SystemColumn := [id, order, createdOn, updatedOn]

def name : SystemColumn → String
  | id => "id"
  | order => "order"
  | createdOn => "created_on"
  | updatedOn => "updated_on"

def reservedNames : List String := all.map name

def spec : SystemColumn → ColumnSpec
  | id => { physical := .integer, nullable := false }
  | order => { physical := .decimal 40 20, nullable := false }
  | createdOn | updatedOn => { physical := .timestamp, nullable := false }

def filterOps : SystemColumn → List FilterOp
  | createdOn | updatedOn => [.dateEqual, .dateNotEqual, .dateBefore, .dateAfter]
  | id | order => []

def filterable? (name : String) : Option SystemColumn := [createdOn, updatedOn].find? (·.name = name)

end SystemColumn
end Tabula
