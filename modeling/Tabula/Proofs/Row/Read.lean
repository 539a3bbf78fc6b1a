import Tabula.Predicate.Eval
import Tabula.Query.Order

/-! What tests and orderings read of a row: for each field that the schema shows, one cell. -/
namespace Tabula

/-- What a row holds of a field through a schema. -/
def Schema.read? (schema : Schema) (row : Row) (id : FieldId) : Option (Field × Value) :=
  (schema.column? id).map fun column => (column.field, row.cell column)

variable {schema : Schema} {row : Row} {id : FieldId}

theorem acceptsColumn_field (test : CellTest) :
    test.acceptsColumn schema row (.field id) =
      (schema.read? row id).any fun found => found.1.accepts test found.2 := by
  unfold CellTest.acceptsColumn Schema.read?
  dsimp only
  cases schema.column? id <;> rfl

theorem columnFault?_field (test : CellTest) :
    test.columnFault? schema row (.field id) =
      (schema.read? row id).bind fun found => found.1.testFault? test found.2 := by
  unfold CellTest.columnFault? Schema.read?
  dsimp only
  cases schema.column? id <;> rfl

theorem orderKeys_eq (terms : List OrderTerm) :
    schema.orderKeys terms row = terms.map fun term =>
      ((schema.read? row term.field).map fun found => found.1.orderKey found.2).getD .null := by
  unfold Schema.orderKeys Schema.read?
  apply List.map_congr_left
  intro term _
  cases schema.column? term.field <;> rfl

end Tabula
