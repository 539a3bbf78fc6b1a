import Mathlib.Logic.Relation
import Tabula.Proofs.Db.FormulaCells

/-!
What formula cells owe to the identifier of their row. A formula depends on it if it reads it, or if it
names a formula computed before it that depends on it in turn; any other comes to the same in every row
with the same cells.
-/
namespace Tabula

/-- The formula of the target names the source, a formula that is computed before it. -/
def Schema.Feeds (schema : Schema) (source target : Column) : Prop :=
  ∃ front behind written result expr name, schema.columns = front ++ target :: behind ∧
    source ∈ front ∧ source.field.kind.isComputed = true ∧
    target.field.kind = .computed written result ∧ Formula.parse written = .ok expr ∧
    name ∈ expr.fieldNames ∧ schema.named? name = some source

/-- The list of what must be refreshed after an insert names neither the column nor any formula that
feeds it, over however many steps. -/
def Schema.IsSettled (schema : Schema) (column : Column) : Prop :=
  ∀ source, Relation.ReflTransGen schema.Feeds source column →
    source.stableName ∉ schema.refreshedAfterInsert

section
variable {schema : Schema} {source target column : Column} {written : String} {result : ResultType}

theorem Schema.IsSettled.of_feeds (settled : schema.IsSettled target)
    (feeds : schema.Feeds source target) : schema.IsSettled source := by
  intro first chain
  exact settled first (chain.tail feeds)

theorem Schema.not_isRefreshedAfterInsert (member : column ∈ schema.columns)
    (unlisted : column.stableName ∉ schema.refreshedAfterInsert) :
    column.field.isRefreshedAfterInsert = false := by
  rw [Bool.eq_false_iff]
  intro refreshed
  apply unlisted
  exact List.mem_map_of_mem (List.mem_filter.2 ⟨member, refreshed⟩)

theorem Field.isRefreshedAfterInsert_of_parse {field : Field} {expr : Formula.Expr}
    (kind : field.kind = .computed written result) (parsed : Formula.parse written = .ok expr) :
    field.isRefreshedAfterInsert = expr.readsRowId := by
  have formula : field.formula? = some (written, result) := by
    unfold Field.formula?
    rw [kind]
  unfold Field.isRefreshedAfterInsert
  rw [formula]
  dsimp only
  rw [parsed]
  rfl

theorem exists_computed (formula : column.field.kind.isComputed = true) :
    ∃ written result, column.field.kind = .computed written result := by
  cases kind : column.field.kind with
  | stored type =>
    rw [kind] at formula
    cases formula
  | computed written result => exact ⟨written, result, rfl⟩

theorem formulaValue_of_rows {first second : RowId} {left right : Cells}
    (unread : ∀ expr, Formula.parse written = .ok expr → expr.readsRowId = false)
    (fields : ∀ expr, Formula.parse written = .ok expr → ∀ name ∈ expr.fieldNames,
      ∀ column, schema.named? name = some column → left.find? column.id = right.find? column.id) :
    formulaValue schema first left written result = formulaValue schema second right written result := by
  have cells : formulaValue schema first left written result =
      formulaValue schema first right written result := formulaValue_congr result fields
  rw [cells]
  unfold formulaValue
  cases parsed : Formula.parse written with
  | error error => rfl
  | ok expr =>
    change expr.evaluate _ result = expr.evaluate _ result
    refine Formula.evaluate_congr expr result ?_ fun _ _ => rfl
    intro reads
    rw [unread expr parsed] at reads
    cases reads

theorem Schema.named?_mem {name : String} (found : schema.named? name = some column) :
    column ∈ schema.columns := by
  rw [named?_eq] at found
  exact List.mem_of_find?_eq_some found

theorem find?_of_same_met (distinct : (schema.columns.map Column.id).Nodup) {so : Computation}
    {first second : RowId} {before behind rest : List Column} {leftMet rightMet left right : Computation}
    (split : schema.columns = (before ++ column :: behind) ++ rest)
    (kind : column.field.kind = .computed written result)
    (one : before.foldlM (computeColumn schema first) so = .ok leftMet)
    (other : before.foldlM (computeColumn schema second) so = .ok rightMet)
    (same : formulaValue schema first leftMet.cells written result =
      formulaValue schema second rightMet.cells written result)
    (leftRun : (before ++ column :: behind).foldlM (computeColumn schema first) so = .ok left)
    (rightRun : (before ++ column :: behind).foldlM (computeColumn schema second) so = .ok right) :
    left.cells.find? column.id = right.cells.find? column.id := by
  rw [split, List.map_append, List.nodup_append] at distinct
  obtain ⟨leftCell, leftFound, leftValue⟩ := find?_of_met kind distinct.1 one leftRun
  obtain ⟨rightCell, rightFound, rightValue⟩ := find?_of_met kind distinct.1 other rightRun
  unfold formulaCell at leftValue rightValue
  rw [same, rightValue] at leftValue
  cases leftValue
  rw [leftFound, rightFound]

/-- When the pass comes to a settled column, its formula has one value in all rows that began with the
same cells. -/
theorem formulaValue_of_settled (distinct : (schema.columns.map Column.id).Nodup) {start : Cells}
    {first second : RowId} {front behind : List Column} {left right : Computation}
    (split : schema.columns = front ++ column :: behind)
    (settled : schema.IsSettled column) (kind : column.field.kind = .computed written result)
    (one : front.foldlM (computeColumn schema first) { cells := start } = .ok left)
    (other : front.foldlM (computeColumn schema second) { cells := start } = .ok right) :
    formulaValue schema first left.cells written result =
      formulaValue schema second right.cells written result := by
  -- A formula that this one names and that the pass has computed is settled too, with less before it.
  induction length : front.length using Nat.strongRecOn
    generalizing front behind column written result left right with
  | _ size ih =>
    have member : column ∈ schema.columns := by
      rw [split]
      exact List.mem_append_right _ List.mem_cons_self
    apply formulaValue_of_rows
    · intro expr parsed
      rw [← Field.isRefreshedAfterInsert_of_parse kind parsed]
      exact Schema.not_isRefreshedAfterInsert member (settled column .refl)
    · intro expr parsed name used named found
      by_cases computed : named.id ∈ formulaIds front
      · obtain ⟨earlier, among, same⟩ := List.mem_map.1 computed
        obtain ⟨inside, formula⟩ := List.mem_filter.1 among
        have shown : earlier ∈ schema.columns := by
          rw [split]
          exact List.mem_append_left _ inside
        have own : earlier = named :=
          List.inj_on_of_nodup_map distinct shown (Schema.named?_mem found) same
        subst own
        have feeds : schema.Feeds earlier column :=
          ⟨front, behind, written, result, expr, name, split, inside, formula, kind, parsed, used, found⟩
        obtain ⟨source, declared, earlierKind⟩ := exists_computed formula
        obtain ⟨before, after, rfl⟩ := List.append_of_mem inside
        have leftParts := one
        have rightParts := other
        rw [List.foldlM_append, bind_eq_ok] at leftParts rightParts
        obtain ⟨leftMet, leftBefore, _⟩ := leftParts
        obtain ⟨rightMet, rightBefore, _⟩ := rightParts
        have shorter : before.length < size := by
          rw [← length, List.length_append, List.length_cons]
          omega
        have place : schema.columns = before ++ earlier :: (after ++ column :: behind) := by
          rw [split, List.append_assoc, List.cons_append]
        have met := ih before.length shorter place (settled.of_feeds feeds) earlierKind leftBefore
          rightBefore rfl
        exact find?_of_same_met distinct split earlierKind leftBefore rightBefore met one other
      · rw [find?_of_computed one computed, find?_of_computed other computed]

end

/-- A settled formula leaves the same in all rows that begin with the same cells: whenever the pass comes
to it, it has one outcome, and once the pass is through, one cell. The tables of a catalog have distinct
identifiers by `Catalog.Reached.distinct`. -/
theorem cells_of_settled_formula {table : Table} {options : ComposeOptions} {schema : Schema}
    {column : Column} {written : String} {result : ResultType}
    (composed : Schema.compose table options = .ok schema)
    (distinct : (table.fields.map Field.id).Nodup) (member : column ∈ schema.whole.columns)
    (kind : column.field.kind = .computed written result) (settled : schema.whole.IsSettled column)
    (start : Cells) (first second : RowId) :
    (∀ front behind left right, schema.whole.columns = front ++ column :: behind →
      front.foldlM (computeColumn schema.whole first) { cells := start } = .ok left →
      front.foldlM (computeColumn schema.whole second) { cells := start } = .ok right →
      formulaCell schema.whole first left.cells written result =
        formulaCell schema.whole second right.cells written result) ∧
    ∀ left right, compute schema.whole first start = .ok left →
      compute schema.whole second start = .ok right →
      ∃ cell, left.cells.find? column.id = some cell ∧ right.cells.find? column.id = some cell := by
  rw [← Schema.map_id_whole composed] at distinct
  constructor
  · intro front behind left right split one other
    unfold formulaCell
    rw [formulaValue_of_settled distinct split settled kind one other]
  · intro left right one other
    obtain ⟨front, behind, split⟩ := List.append_of_mem member
    unfold compute at one other
    rw [split] at one other
    have leftParts := one
    have rightParts := other
    rw [List.foldlM_append, bind_eq_ok] at leftParts rightParts
    obtain ⟨leftMet, leftBefore, _⟩ := leftParts
    obtain ⟨rightMet, rightBefore, _⟩ := rightParts
    have met := formulaValue_of_settled distinct split settled kind leftBefore rightBefore
    have whole : schema.whole.columns = (front ++ column :: behind) ++ [] := by
      rw [List.append_nil]
      exact split
    have same := find?_of_same_met distinct whole kind leftBefore rightBefore met one other
    rw [split] at distinct
    obtain ⟨cell, found, _⟩ := find?_of_met kind distinct leftBefore one
    exact ⟨cell, found, same ▸ found⟩

/-! A formula that reads the identifier of its row, one that names it, and one that names another. -/

def numberedTable : Table where
  id := ⟨3⟩
  database := ⟨2⟩
  name := "Numbered"
  order := 1
  fields :=
    [⟨⟨4⟩, ⟨3⟩, "Number", 1, false, .computed "row_id()" .text⟩,
      ⟨⟨5⟩, ⟨3⟩, "Link", 2, false, .computed "field('Number')" .text⟩,
      ⟨⟨6⟩, ⟨3⟩, "Mark", 3, false, .computed "'x'" .text⟩,
      ⟨⟨7⟩, ⟨3⟩, "Copy", 4, false, .computed "field('Mark')" .text⟩]

abbrev numberedSchema : Schema := Schema.ofTable numberedTable {}

theorem parse_rowId : Formula.parse "row_id()" = .ok .rowId := by
  have cut : Formula.tokens "row_id()" = .ok [⟨0, .name "row_id"⟩, ⟨6, .leftParen⟩, ⟨7, .rightParen⟩] := by
    decide +kernel
  exact Formula.parse_of_derives cut (Formula.derives_call (by decide) .noArguments .rowId)

theorem parse_number : Formula.parse "field('Number')" = .ok (.field "Number") := by
  have written : "field(" ++ Formula.literal '\'' "Number" ++ ")" = "field('Number')" := by decide
  rw [← written]
  exact Formula.parse_field_literal (by decide) "Number"

theorem parse_mark : Formula.parse "field('Mark')" = .ok (.field "Mark") := by
  have written : "field(" ++ Formula.literal '\'' "Mark" ++ ")" = "field('Mark')" := by decide
  rw [← written]
  exact Formula.parse_field_literal (by decide) "Mark"

def rowText (row : RowId) : Value := .text (Decimal.ofWord row.val).normalize.text

def numberedCells (row : RowId) : Cells :=
  ((IdMap.insert default ⟨4⟩ (rowText row) : Cells).insert ⟨5⟩ (rowText row)).insert ⟨6⟩ (.text "x")
    |>.insert ⟨7⟩ (.text "x")

theorem compute_numbered (row : RowId) :
    compute numberedSchema.whole row {} = .ok ⟨numberedCells row, 4, []⟩ := by
  unfold compute
  change List.foldlM _ _ [_, _, _, _] = _
  simp only [List.foldlM_cons, List.foldlM_nil, computeColumn, formulaValue_of_parse parse_rowId,
    formulaValue_of_parse parse_number, formulaValue_of_parse parse_mark,
    formulaValue_of_parse parse_second]
  rfl

def numberedColumn (place : Fin 4) : Column := numberedSchema.whole.columns[place]

theorem refreshedAfterInsert_numbered : numberedSchema.whole.refreshedAfterInsert = ["field_4"] := by
  have number : (numberedColumn 0).field.isRefreshedAfterInsert = true :=
    Field.isRefreshedAfterInsert_of_parse rfl parse_rowId
  have link : (numberedColumn 1).field.isRefreshedAfterInsert = false :=
    Field.isRefreshedAfterInsert_of_parse rfl parse_number
  have mark : (numberedColumn 2).field.isRefreshedAfterInsert = false :=
    Field.isRefreshedAfterInsert_of_parse rfl parse_second
  have copy : (numberedColumn 3).field.isRefreshedAfterInsert = false :=
    Field.isRefreshedAfterInsert_of_parse rfl parse_mark
  have columns : numberedSchema.whole.columns =
    [numberedColumn 0, numberedColumn 1, numberedColumn 2, numberedColumn 3] := rfl
  unfold Schema.refreshedAfterInsert
  rw [columns]
  simp only [List.filter_cons, number, link, mark, copy]
  decide

theorem rowText_ne : rowText ⟨1⟩ ≠ rowText ⟨2⟩ := by decide +kernel

theorem isSettled_copy : numberedSchema.whole.IsSettled (numberedColumn 3) := by
  have ofCopy : ∀ source, numberedSchema.whole.Feeds source (numberedColumn 3) →
      source = numberedColumn 2 := by
    rintro source ⟨front, behind, written, result, expr, name, -, -, -, kind, parsed, used, found⟩
    cases kind
    rw [parse_mark] at parsed
    cases parsed
    rw [List.mem_singleton.1 used] at found
    exact (Option.some.inj found).symm
  have ofMark : ∀ source, ¬ numberedSchema.whole.Feeds source (numberedColumn 2) := by
    rintro source ⟨front, behind, written, result, expr, name, -, -, -, kind, parsed, used, found⟩
    cases kind
    rw [parse_second] at parsed
    cases parsed
    cases used
  intro source chain
  rw [refreshedAfterInsert_numbered]
  obtain rfl | ⟨mark, above, feeds⟩ := chain.cases_tail
  · decide
  · obtain rfl := ofCopy mark feeds
    obtain rfl | ⟨other, _, none⟩ := above.cases_tail
    · decide
    · exact absurd none (ofMark other)

theorem cells_of_copied_mark :
    ∃ left right, compute numberedSchema.whole ⟨1⟩ {} = .ok left ∧
      compute numberedSchema.whole ⟨2⟩ {} = .ok right ∧
      left.cells.find? ⟨4⟩ ≠ right.cells.find? ⟨4⟩ ∧
      ∃ cell, left.cells.find? ⟨7⟩ = some cell ∧ right.cells.find? ⟨7⟩ = some cell := by
  refine ⟨_, _, compute_numbered ⟨1⟩, compute_numbered ⟨2⟩, ?_, ?_⟩
  · intro same
    exact rowText_ne (Option.some.inj same)
  · have settled := cells_of_settled_formula (rfl : Schema.compose numberedTable {} = .ok numberedSchema)
      (by decide) (List.getElem_mem _ : numberedColumn 3 ∈ _) rfl isSettled_copy {} ⟨1⟩ ⟨2⟩
    exact settled.2 _ _ (compute_numbered ⟨1⟩) (compute_numbered ⟨2⟩)

/-- A formula that the list does not name can still differ from row to row: it names one that reads the
identifier. -/
theorem not_all_unlisted_cells_same :
    ¬ ∀ (table : Table) (options : ComposeOptions) (schema : Schema) (column : Column),
      Schema.compose table options = .ok schema → (table.fields.map Field.id).Nodup →
      column ∈ schema.whole.columns → column.field.kind.isComputed = true →
      column.stableName ∉ schema.whole.refreshedAfterInsert →
      ∀ (start : Cells) (first second : RowId) (left right : Computation),
        compute schema.whole first start = .ok left → compute schema.whole second start = .ok right →
        left.cells.find? column.id = right.cells.find? column.id := by
  intro refuted
  have unlisted : (numberedColumn 1).stableName ∉ numberedSchema.whole.refreshedAfterInsert := by
    rw [refreshedAfterInsert_numbered]
    decide
  have equal := refuted numberedTable {} numberedSchema (numberedColumn 1) rfl (by decide)
    (List.getElem_mem _) rfl unlisted {} ⟨1⟩ ⟨2⟩ _ _ (compute_numbered ⟨1⟩) (compute_numbered ⟨2⟩)
  exact rowText_ne (Option.some.inj equal)

end Tabula
