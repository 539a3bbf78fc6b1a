import Tabula.Proofs.Except
import Tabula.Proofs.Schema.Positions

/-! Composed schemas: their columns and those of the whole table. -/
namespace Tabula.Schema

variable {table : Table} {options : ComposeOptions} {schema : Schema}

theorem eq_ofTable (composed : compose table options = .ok schema) :
    schema = ofTable table options :=
  (unlessFault_eq_ok.1 composed).2.symm

theorem map_id_columnsOf (table : Table) (options : ComposeOptions) :
    (columnsOf table options).map Column.id = table.fields.map Field.id := by
  unfold columnsOf
  rw [List.map_map]
  rfl

theorem map_field_columnsOf (table : Table) (options : ComposeOptions) :
    (columnsOf table options).map Column.field = table.fields := by
  unfold columnsOf
  rw [List.map_map]
  exact List.map_id table.fields

theorem mem_tableColumns (composed : compose table options = .ok schema) {column : Column}
    (member : column ∈ schema.columns) : column ∈ schema.tableColumns := by
  cases eq_ofTable composed
  unfold ofTable at member ⊢
  dsimp only at member ⊢
  split at member
  · exact member
  · exact (List.mem_filter.1 member).1

theorem table_eq (composed : compose table options = .ok schema) : schema.table = table.id := by
  cases eq_ofTable composed
  rfl

theorem map_field_whole (composed : compose table options = .ok schema) :
    schema.whole.columns.map Column.field = table.fields := by
  cases eq_ofTable composed
  exact map_field_columnsOf table options

theorem map_id_whole (composed : compose table options = .ok schema) :
    schema.whole.columns.map Column.id = table.fields.map Field.id := by
  cases eq_ofTable composed
  exact map_id_columnsOf table options

theorem field_mem (composed : compose table options = .ok schema) {column : Column}
    (member : column ∈ schema.columns) : column.field ∈ table.fields := by
  rw [← map_field_whole composed]
  exact List.mem_map_of_mem (mem_tableColumns composed member)

/-- In the whole schema a user-facing name means what it means in the table. -/
theorem fieldNamed?_whole (composed : compose table options = .ok schema) (name : String) :
    (schema.whole.named? name).map Column.field = table.fieldNamed? name := by
  unfold Table.fieldNamed?
  rw [named?_eq, ← map_field_whole composed, List.find?_map]
  rfl

theorem exists_column (composed : compose table options = .ok schema) {field : Field}
    (member : field ∈ table.fields) : ∃ column ∈ schema.whole.columns, column.field = field := by
  cases eq_ofTable composed
  exact ⟨_, List.mem_map.2 ⟨field, member, rfl⟩, rfl⟩

theorem column?_mem {id : FieldId} {column : Column} (found : schema.column? id = some column) :
    column ∈ schema.columns ∧ column.id = id :=
  of_columnAt? found

theorem resolve?_mem {name : String} {column : Column}
    (found : schema.resolve? name = some column) : column ∈ schema.columns := by
  unfold resolve? attribute? stable? at found
  split at found <;> exact (of_columnAt? found).1

end Tabula.Schema
