import Tabula.Proofs.Query.OrderText
import Tabula.Proofs.Schema.NameChars

/-!
Orderings by the keys of columns. A key means its column unless another column has it as its user-facing
name, since references are looked up among these first.
-/
namespace Tabula

/-- The signs that a term can begin with in the attribute view, with the direction that each asks for. -/
def orderSigns : List (String × Bool) := [("", false), ("+", false), ("-", true)]

namespace Schema

variable {table : Table} {options : ComposeOptions} {schema : Schema} {column : Column}
  {only : Option (List FieldId)} {sign : String × Bool}

theorem signed_attributeName (composed : compose table options = .ok schema)
    (view : schema.attributeMode = true) (member : column ∈ schema.columns)
    (among : sign ∈ orderSigns) :
    schema.Signed (sign.1 ++ column.attributeName).toList sign.2 column.attributeName.toList := by
  obtain ⟨_, chars⟩ := attributeName_chars (mem_columnsOf composed member)
  have unmarked {mark : Char} (reserved : mark ∈ [',', '+', '-']) (reference : List Char) :
      column.attributeName.toList ≠ mark :: reference := by
    intro begins
    have allowed := chars mark (begins ▸ List.mem_cons_self)
    exact allowed.ne_mark reserved rfl
  rw [String.toList_append]
  simp only [orderSigns, List.mem_cons, List.not_mem_nil, or_false] at among
  rcases among with rfl | rfl | rfl
  · exact .plain _ (unmarked (by decide)) fun _ => unmarked (by decide)
  · exact .plus _ view
  · exact .minus _

theorem Means.mem {reference : List Char} (means : schema.Means reference column) :
    column ∈ schema.columns := by
  cases means with
  | named _ member | keyed _ member | numbered _ member => exact member

theorem splitOn_attributeName (composed : compose table options = .ok schema)
    (member : column ∈ schema.columns) (among : sign ∈ orderSigns) :
    (sign.1 ++ column.attributeName).toList ≠ [] ∧
      (sign.1 ++ column.attributeName).toList.splitOn ',' = [(sign.1 ++ column.attributeName).toList] := by
  obtain ⟨filled, chars⟩ := attributeName_chars (mem_columnsOf composed member)
  have marks : ∀ sign ∈ orderSigns, ',' ∉ sign.1.toList := by decide
  rw [String.toList_append]
  refine ⟨List.append_ne_nil_of_right_ne_nil _ filled, List.splitOn_eq_singleton ?_⟩
  rw [List.mem_append, not_or]
  refine ⟨marks sign among, ?_⟩
  intro comma
  exact (chars ',' comma).ne_mark (by decide) rfl

/-- A key means its column exactly if it is the user-facing name of no other. -/
theorem means_attributeName (composed : compose table options = .ok schema)
    (named : (table.fields.map Field.name).Nodup) (view : schema.attributeMode = true)
    (member : column ∈ schema.columns) :
    schema.Means column.attributeName.toList column ↔
      ∀ other ∈ schema.columns, other.field.name = column.attributeName → other = column := by
  constructor
  · intro means other inside shadow
    cases means with
    | named _ _ own =>
      exact name_inj composed named inside member (shadow.trans (String.toList_inj.1 own).symm)
    | keyed _ _ _ free => exact absurd (congrArg String.toList shadow) (free other inside)
    | numbered other => cases view.symm.trans other
  · intro alone
    by_cases own : column.field.name = column.attributeName
    · exact .named view member (congrArg String.toList own)
    · refine .keyed view member rfl ?_
      intro other inside same
      have shadow := String.toList_inj.1 same
      obtain rfl := alone other inside shadow
      exact own shadow

end Schema

/-- In the attribute view, a column that orderings may name is named by its key, with any sign, exactly as
long as no other column that the schema shows has the key as its user-facing name. -/
theorem order_by_key {catalog : Catalog} {log : Catalog.Log} {place : TableId} {table : Table}
    {options : ComposeOptions} {schema : Schema} {column : Column} {only : Option (List FieldId)}
    (reached : catalog.Reached log) (room : catalog.HasRoom) (found : catalog.table? place = some table)
    (composed : Schema.compose table options = .ok schema) (view : schema.attributeMode = true)
    (member : column ∈ schema.columns) (offered : schema.Offers only column)
    (ordered : column.field.isOrderable = true) :
    ∀ sign ∈ orderSigns,
      (schema.readOrder only (sign.1 ++ schema.keyOf column) = .ok [⟨column.id, sign.2⟩] ↔
        ∀ other ∈ schema.columns, other.field.name = schema.keyOf column → other = column) := by
  intro sign among
  have distinct := reached.distinct room found
  have named := ((reached.consistent room).arranged place table found).named
  have represents := Schema.represents composed distinct
  have key : schema.keyOf column = column.attributeName := if_pos view
  have signed := Schema.signed_attributeName composed view member among
  obtain ⟨filled, pieces⟩ := Schema.splitOn_attributeName composed member among
  have written : sign.1 ++ column.attributeName ≠ "" := by
    intro empty
    rw [empty] at filled
    exact filled rfl
  rw [key, Schema.readOrder_eq written, pieces, mapM_eq_ok, List.forall₂_cons,
    Schema.readTerm_eq_ok composed named distinct,
    ← Schema.means_attributeName composed named view member]
  constructor
  · rintro ⟨reads, _⟩
    generalize same : (⟨column.id, sign.2⟩ : OrderTerm) = term at reads
    cases reads with
    | @term _ reference other split means _ _ =>
      have parts := (Schema.splitTerm_eq.2 signed).symm.trans (Schema.splitTerm_eq.2 split)
      cases parts
      have one : other = column :=
        Schema.eq_of_id distinct (Schema.mem_columnsOf composed means.mem)
          (Schema.mem_columnsOf composed member) (congrArg OrderTerm.field same).symm
      rw [one] at means
      exact means
  · intro means
    exact ⟨.term signed means offered ordered, .nil⟩

/-! A field without a word in its name, and one that has the key of the first as its name. -/

def shadowTable : Table where
  id := ⟨3⟩
  database := ⟨2⟩
  name := "Shadows"
  order := 1
  fields :=
    [⟨⟨4⟩, ⟨3⟩, "!!!", 0, false, .stored .boolean⟩, ⟨⟨5⟩, ⟨3⟩, "field_4", 1, false, .stored .boolean⟩]

def shadowSchema : Schema := .ofTable shadowTable { attributeNames := true }

theorem exists_shadows : ∃ (catalog : Catalog) (log : Catalog.Log), catalog.Reached log ∧
    catalog.HasRoom ∧ catalog.table? ⟨3⟩ = some shadowTable := by
  have before := Catalog.Reached.start
    |>.edit (.createWorkspace "home")
    |>.edit (.createDatabase ⟨1⟩ "shop")
    |>.edit (.createTable ⟨2⟩ "Shadows")
    |>.edit (.addField ⟨3⟩ "!!!" (.stored .boolean))
  have reached := before.edit (.addField ⟨3⟩ "field_4" (.stored .boolean))
  refine ⟨_, _, reached, reached.hasRoom (by decide +kernel), ?_⟩
  have placed := (before.consistent (before.hasRoom (by decide +kernel))).placed
  have added := @Catalog.of_addField _ _ placed ⟨3⟩ "field_4" (.stored .boolean) 5
    (Prod.ext (by decide +kernel) rfl)
  obtain ⟨table, stored, _, found⟩ := added
  have first : some table = some { shadowTable with fields := shadowTable.fields.take 1 } :=
    stored.symm.trans (by decide +kernel)
  cases first
  have sorted : shadowTable.fields.mergeSort Field.notAfter = shadowTable.fields :=
    List.mergeSort_of_pairwise (by decide)
  exact found.trans (congrArg (fun fields => some { shadowTable with fields }) sorted)
theorem order_by_shadowing_key :
    shadowSchema.readOrder none "-field_5" = .ok [⟨⟨5⟩, true⟩] := by
  obtain ⟨catalog, log, reached, room, found⟩ := exists_shadows
  have composed : Schema.compose shadowTable { attributeNames := true } = .ok shadowSchema := rfl
  have member : shadowSchema.columns[1] ∈ shadowSchema.columns := List.getElem_mem _
  have offered : shadowSchema.Offers none shadowSchema.columns[1] := ⟨rfl, rfl⟩
  have reads := order_by_key reached room found composed rfl member offered rfl ("-", true) (by decide)
  have alone : ∀ other ∈ shadowSchema.columns,
      other.field.name = shadowSchema.keyOf shadowSchema.columns[1] → other = shadowSchema.columns[1] := by
    decide +kernel
  exact reads.2 alone

/-- A key that is the user-facing name of another column names that one. -/
theorem not_all_keys_name_their_columns :
    ¬ ∀ (catalog : Catalog) (log : Catalog.Log) (place : TableId) (table : Table)
      (options : ComposeOptions) (schema : Schema) (column : Column),
      catalog.Reached log → catalog.HasRoom → catalog.table? place = some table →
      Schema.compose table options = .ok schema → schema.attributeMode = true →
      column ∈ schema.columns → schema.isQueryable column.id = true →
      column.field.isOrderable = true →
      ∀ sign ∈ orderSigns,
        schema.readOrder none (sign.1 ++ schema.keyOf column) = .ok [⟨column.id, sign.2⟩] := by
  intro refuted
  obtain ⟨catalog, log, reached, room, found⟩ := exists_shadows
  have composed : Schema.compose shadowTable { attributeNames := true } = .ok shadowSchema := rfl
  have named := refuted catalog log ⟨3⟩ shadowTable _ shadowSchema shadowSchema.columns[0] reached room
    found composed rfl (List.getElem_mem _) rfl rfl ("", false) (by decide)
  revert named
  decide +kernel

end Tabula
