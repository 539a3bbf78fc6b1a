import Tabula.Cell.Display
import Tabula.Predicate.Basic
import Tabula.Schema.Basic
import Tabula.Text.Blank

/-! Searches: rows with the sought text in a cell, or with the sought number as identifier. -/
namespace Tabula
open Text

/-- The row whose number is written so; other spellings of the number name no row. -/
def canonicalRow? (text : String) : Option RowId := do
  let id : RowId := ⟨← word64? text⟩
  if id.text = text then some id else none

def Schema.searchPredicate (schema : Schema) (matchRowId : Bool) (text : String) : Predicate :=
  if isBlankText text then .everything
  else
    let tests := (schema.columns.filter (·.field.isSearchable)).map fun column =>
      Predicate.test (.field column.id) (.contains (fold text))
    let rows := if matchRowId then (canonicalRow? (trim text)).toList.map Predicate.rowIs else []
    .any (tests ++ rows)

end Tabula
