import Tabula.Proofs.Db.FormulaCells

/-!
Rows whose formulas have nothing left to compute: each formula's cell is its value over the row itself.
Every pass over a table whose formulas read backwards leaves such a row, and another pass over it
changes nothing.
-/
namespace Tabula

/-- Each formula names plain fields, formula fields before its own in field order, or no field at all. -/
def Table.WellOrdered (table : Table) : Prop :=
  ∀ front field behind source result expr, table.fields = front ++ field :: behind →
    field.kind = .computed source result → Formula.parse source = .ok expr →
    ∀ name ∈ expr.fieldNames, ∀ named, table.fieldNamed? name = some named →
      named.kind.isComputed = false ∨ named ∈ front

/-- One cell for each field, and in each formula's the value of the formula over the row itself. -/
structure Table.Settled (table : Table) (row : RowId) (cells : Cells) : Prop where
  keys : ∀ id, (cells.find? id).isSome = true ↔ id ∈ table.fields.map Field.id
  fixed : ∀ field ∈ table.fields, ∀ source result, field.kind = .computed source result →
    ∃ cell, cells.find? field.id = some cell ∧
      formulaCell (Schema.ofTable table {}) row cells source result = .ok cell

variable {table : Table} {options : ComposeOptions} {schema : Schema} {row : RowId} {cells : Cells}

/-- What a formula reads of a row depends on the fields alone, not on the view of the schema. -/
theorem formulaScope_eq {left right : Schema}
    (same : left.columns.map Column.field = right.columns.map Column.field) (row : RowId)
    (cells : Cells) : formulaScope left row cells = formulaScope right row cells := by
  have read (schema : Schema) (name : String) :
      (schema.named? name).map (fun column => formulaScalar column (cellOf cells column)) =
        ((schema.columns.map Column.field).find? (·.name = name)).map fun field =>
          formulaScalar ⟨field, ""⟩ (cellOf cells ⟨field, ""⟩) := by
    rw [Schema.named?_eq, List.find?_map, Option.map_map]
    rfl
  unfold formulaScope
  simp only [read, same]

theorem formulaCell_whole (composed : Schema.compose table options = .ok schema) (source : String)
    (result : ResultType) :
    formulaCell schema.whole row cells source result =
      formulaCell (Schema.ofTable table {}) row cells source result := by
  have same : schema.whole.columns.map Column.field =
      (Schema.ofTable table {}).columns.map Column.field := by
    rw [Schema.map_field_whole composed]
    exact (Schema.map_field_columnsOf table {}).symm
  unfold formulaCell formulaValue
  rw [formulaScope_eq same]

theorem readsBack_of_wellOrdered (composed : Schema.compose table options = .ok schema)
    (distinct : (schema.whole.columns.map Column.id).Nodup) (ordered : table.WellOrdered)
    {column : Column} (member : column ∈ schema.whole.columns) {source : String} {result : ResultType}
    (kind : column.field.kind = .computed source result) :
    schema.whole.ReadsBack column.id source := by
  intro expr parsed name used other found
  have named := Schema.fieldNamed?_whole composed name
  rw [found] at named
  obtain ⟨front, behind, split⟩ := List.append_of_mem member
  have fields := Schema.map_field_whole composed
  rw [split, List.map_append, List.map_cons] at fields
  rw [Schema.named?_eq] at found
  have otherMember : other ∈ schema.whole.columns := List.mem_of_find?_eq_some found
  unfold Schema.pending
  rw [split] at distinct otherMember ⊢
  rw [dropWhile_of_split distinct]
  intro pending
  rcases ordered _ _ _ _ _ _ fields.symm kind parsed name used _ named.symm with plain | earlier
  · exact not_mem_formulaIds distinct otherMember plain (mem_formulaIds_append_right pending)
  · obtain ⟨first, inside, same⟩ := List.mem_map.1 earlier
    rw [List.map_append, List.nodup_append] at distinct
    have sameId : first.id = other.id := congrArg Field.id same
    exact distinct.2.2 _ (List.mem_map_of_mem inside) _ (mem_ids_of_mem_formulaIds pending) sameId

/-- A pass over cells of the table's fields, all its plain ones among them, leaves a settled row. -/
theorem settled_of_compute (composed : Schema.compose table options = .ok schema)
    (distinct : (table.fields.map Field.id).Nodup) (ordered : table.WellOrdered) {start : Cells}
    {computation : Computation} (run : compute schema.whole row start = .ok computation)
    (within : ∀ id, (start.find? id).isSome = true → id ∈ table.fields.map Field.id)
    (filled : ∀ field ∈ table.fields, field.kind.isComputed = false →
      (start.find? field.id).isSome = true) :
    table.Settled row computation.cells where
  keys := by
    intro id
    rw [isSome_of_computed run]
    constructor
    · rintro (earlier | computed)
      · exact within id earlier
      · rw [← Schema.map_id_whole composed]
        exact mem_ids_of_mem_formulaIds computed
    · intro member
      obtain ⟨field, inside, rfl⟩ := List.mem_map.1 member
      cases computed : field.kind.isComputed with
      | false => exact .inl (filled field inside computed)
      | true =>
        obtain ⟨column, shown, rfl⟩ := Schema.exists_column composed inside
        exact .inr (List.mem_map.2 ⟨column, List.mem_filter.2 ⟨shown, computed⟩, rfl⟩)
  fixed := by
    intro field member source result kind
    rw [← Schema.map_id_whole composed] at distinct
    obtain ⟨column, shown, rfl⟩ := Schema.exists_column composed member
    obtain ⟨cell, found, value⟩ :=
      formulaCell_of_compute distinct (fun _ _ => rfl) run shown kind
    refine ⟨cell, found, ?_⟩
    rw [← formulaCell_whole composed, ← value]
    exact (formulaCell_cellsMet result
      (readsBack_of_wellOrdered composed distinct ordered shown kind)).symm

theorem computeColumn_of_fixed {so : Computation} {column : Column} {source : String}
    {result : ResultType} {cell : Value} (kind : column.field.kind = .computed source result)
    (found : so.cells.find? column.id = some cell)
    (value : formulaCell schema row so.cells source result = .ok cell) :
    ∃ next, computeColumn schema row so column = .ok next ∧ next.cells = so.cells := by
  unfold formulaCell at value
  rcases computeColumn_cases schema row kind so with
    ⟨other, evaluated, step⟩ | ⟨error, evaluated, step⟩ | ⟨fault, evaluated, step⟩
  · rw [evaluated] at value
    cases value
    exact ⟨_, step, IdMap.insert_of_find? found⟩
  · rw [evaluated] at value
    cases value
    exact ⟨_, step, IdMap.insert_of_find? found⟩
  · rw [evaluated] at value
    cases value

theorem computed_of_fixed {columns : List Column} {so : Computation}
    (fixed : ∀ column ∈ columns, ∀ source result, column.field.kind = .computed source result →
      ∃ cell, so.cells.find? column.id = some cell ∧
        formulaCell schema row so.cells source result = .ok cell) :
    ∃ last, columns.foldlM (computeColumn schema row) so = .ok last ∧ last.cells = so.cells := by
  induction columns generalizing so with
  | nil => exact ⟨so, rfl, rfl⟩
  | cons column rest ih =>
    have stepped : ∃ next, computeColumn schema row so column = .ok next ∧ next.cells = so.cells := by
      cases kind : column.field.kind with
      | stored type => exact ⟨so, computeColumn_of_stored (by rw [kind]; rfl), rfl⟩
      | computed source result =>
        obtain ⟨cell, found, value⟩ := fixed column List.mem_cons_self source result kind
        exact computeColumn_of_fixed kind found value
    obtain ⟨next, step, same⟩ := stepped
    rw [← same] at fixed
    obtain ⟨last, run, kept⟩ := ih fun other member => fixed other (List.mem_cons_of_mem _ member)
    refine ⟨last, ?_, kept.trans same⟩
    rw [List.foldlM_cons]
    exact bind_eq_ok.2 ⟨next, step, run⟩

theorem compute_of_settled (composed : Schema.compose table options = .ok schema)
    (settled : table.Settled row cells) :
    ∃ computation, compute schema.whole row cells = .ok computation ∧ computation.cells = cells := by
  unfold compute
  apply computed_of_fixed
  intro column member source result kind
  have inside : column.field ∈ table.fields := by
    rw [← Schema.map_field_whole composed]
    exact List.mem_map_of_mem member
  obtain ⟨cell, found, value⟩ := settled.fixed _ inside source result kind
  refine ⟨cell, found, ?_⟩
  rw [formulaCell_whole composed]
  exact value

end Tabula
