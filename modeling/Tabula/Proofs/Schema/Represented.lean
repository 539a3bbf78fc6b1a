import Tabula.Proofs.Schema.Compose
import Tabula.Proofs.Schema.Naming
import Tabula.Row.Record

/-!
What a composed schema is: the fields that were asked for, each found under its identifier and its two
names and under nothing else.
-/
namespace Tabula

/-- Both lists count; with neither, everything is asked for. -/
def ComposeOptions.asksFor (options : ComposeOptions) (id : FieldId) : Bool :=
  options.fields.any (·.contains id) || options.fieldIds.any (·.contains id) ||
    (options.fields.isNone && options.fieldIds.isNone)

def ComposeOptions.unrestricted (options : ComposeOptions) : ComposeOptions :=
  { options with fields := none, fieldIds := none }

/-- The object that a row is written as. -/
def Record.entries (record : Record) : List (String × Json) :=
  ("id", record.id.json) :: ("order", .text record.row.order.text) ::
    record.schema.columns.map fun column =>
      (record.schema.keyOf column, cellJson column (record.valueOf column))

/-- The schema shows what the options ask for of the table, and finds it. -/
structure Schema.Represents (schema : Schema) (table : Table) (options : ComposeOptions) : Prop where
  fields_eq : schema.columns.map Column.field =
    table.fields.filter fun field => options.asksFor field.id
  column?_iff : ∀ id column,
    schema.column? id = some column ↔ column ∈ schema.columns ∧ column.id = id
  stable?_iff : ∀ name column,
    schema.stable? name = some column ↔ column ∈ schema.columns ∧ column.stableName = name
  attribute?_iff : ∀ name column,
    schema.attribute? name = some column ↔ column ∈ schema.columns ∧ column.attributeName = name
  byId_lt : ∀ entry ∈ schema.byId, entry.2 < schema.columns.length
  byStable_lt : ∀ entry ∈ schema.byStable, entry.2 < schema.columns.length
  byAttribute_lt : ∀ entry ∈ schema.byAttribute, entry.2 < schema.columns.length
  byName_lt : ∀ entry ∈ schema.byName, entry.2 < schema.columns.length
  isQueryable_iff : ∀ id, schema.isQueryable id = true ↔
    (∃ column ∈ schema.columns, column.id = id) ∧ ∀ ids, options.fieldIds = some ids → id ∈ ids
  compose_unrestricted : Schema.compose table options.unrestricted = .ok schema.whole
  whole_fields_eq : schema.whole.columns.map Column.field = table.fields
  columns_eq : schema.columns = schema.whole.columns.filter fun column => options.asksFor column.id
  keyOf_inj : ∀ left ∈ schema.columns, ∀ right ∈ schema.columns,
    schema.keyOf left = schema.keyOf right → left = right
  keyOf_not_mem : ∀ column ∈ schema.columns, schema.keyOf column ∉ SystemColumn.reservedNames
  json_eq : ∀ row, Record.json ⟨schema, row⟩ = .object (Record.entries ⟨schema, row⟩)
  keys_nodup : ∀ row, ((Record.entries ⟨schema, row⟩).map Prod.fst).Nodup

namespace Json

theorem foldr_putEntry {entries : List (String × Json)} (distinct : (entries.map Prod.fst).Nodup) :
    entries.foldr (fun (key, value) later => putEntry key value later) [] = entries := by
  induction entries with
  | nil => rfl
  | cons entry rest ih =>
    rw [List.map_cons, List.nodup_cons] at distinct
    rw [List.foldr_cons, ih distinct.2]
    change (if rest.any (·.1 = entry.1) then rest else entry :: rest) = entry :: rest
    apply if_neg
    intro again
    obtain ⟨other, member, same⟩ := List.any_eq_true.1 again
    apply distinct.1
    rw [← of_decide_eq_true same]
    exact List.mem_map_of_mem member

theorem ofEntries_eq {entries : List (String × Json)} (distinct : (entries.map Prod.fst).Nodup) :
    ofEntries entries = .object entries := by
  unfold ofEntries
  rw [foldr_putEntry distinct]

end Json

namespace Schema

variable {table : Table} {options : ComposeOptions} {schema : Schema} {column : Column}

section
variable {κ : Type} {key : Column → κ}

theorem lt_of_mem_lastPositions {entry : κ × Nat}
    (member : entry ∈ lastPositions key schema.columns) : entry.2 < schema.columns.length :=
  (mem_lastPositions.1 member).lt_length

theorem lt_of_mem_firstPositions [BEq κ] {entry : κ × Nat}
    (member : entry ∈ firstPositions key schema.columns) : entry.2 < schema.columns.length :=
  (standsAt_of_mem_firstPositions member).lt_length

variable [BEq κ] [LawfulBEq κ]

theorem isSome_lookup_lastPositions (wanted : κ) :
    ((lastPositions key schema.columns).lookup wanted).isSome = true ↔
      ∃ column ∈ schema.columns, key column = wanted := by
  constructor
  · intro known
    rw [← isSome_columnAt? key wanted, Option.isSome_iff_exists] at known
    obtain ⟨column, found⟩ := known
    exact ⟨column, of_columnAt? found⟩
  · intro present
    obtain ⟨column, member, rfl⟩ := present
    obtain ⟨position, stands⟩ := List.getElem?_of_mem member
    have entry : (key column, position) ∈ lastPositions key schema.columns :=
      mem_lastPositions.2 ⟨column, stands, rfl⟩
    exact List.lookup_isSome_iff.2 ⟨_, entry, BEq.rfl⟩

theorem columnAt?_eq_some {wanted : κ}
    (own : ∀ left ∈ schema.columns, ∀ right ∈ schema.columns, key left = key right → left = right) :
    schema.columnAt? ((lastPositions key schema.columns).lookup wanted) = some column ↔
      column ∈ schema.columns ∧ key column = wanted := by
  refine ⟨of_columnAt?, ?_⟩
  intro present
  obtain ⟨member, same⟩ := present
  have known := (isSome_lookup_lastPositions wanted).2 ⟨column, member, same⟩
  rw [← isSome_columnAt? key wanted, Option.isSome_iff_exists] at known
  obtain ⟨other, found⟩ := known
  obtain ⟨inside, alike⟩ := of_columnAt? found
  rw [found, own other inside column member (alike.trans same.symm)]

end

/-- A column has the name that its field has among all fields of the table. -/
theorem find?_attributeName (member : column ∈ columnsOf table options) :
    (attributeNames options.isReserved table.fields).find? column.id = some column.attributeName := by
  unfold columnsOf at member
  obtain ⟨field, inside, rfl⟩ := List.mem_map.1 member
  have named := (isSome_attributeNames options.isReserved table.fields field.id).2
    (List.mem_map_of_mem inside)
  obtain ⟨name, found⟩ := Option.isSome_iff_exists.1 named
  simp only [Column.id, found, Option.getD_some]

theorem takes_of_mem_columnsOf (member : column ∈ columnsOf table options) :
    ∃ field ∈ table.fields, field.id = column.id ∧
      field.Takes options.isReserved table.fields column.attributeName :=
  takes_of_attributeNames (find?_attributeName member)

theorem columns_ofTable (table : Table) (options : ComposeOptions) :
    (ofTable table options).columns =
      (columnsOf table options).filter fun column => options.asksFor column.id := by
  unfold ofTable ComposeOptions.selected? ComposeOptions.asksFor
  cases options.fields <;> cases options.fieldIds <;> simp

theorem eq_of_id (distinct : (table.fields.map Field.id).Nodup) {left right : Column}
    (leftMember : left ∈ columnsOf table options) (rightMember : right ∈ columnsOf table options)
    (same : left.id = right.id) : left = right := by
  rw [← map_id_columnsOf table options] at distinct
  exact List.inj_on_of_nodup_map distinct leftMember rightMember same

theorem eq_of_stableName (distinct : (table.fields.map Field.id).Nodup) {left right : Column}
    (leftMember : left ∈ columnsOf table options) (rightMember : right ∈ columnsOf table options)
    (same : left.stableName = right.stableName) : left = right :=
  eq_of_id distinct leftMember rightMember (Id.stableName_inj.1 same)

theorem eq_of_attributeName (distinct : (table.fields.map Field.id).Nodup) {left right : Column}
    (leftMember : left ∈ columnsOf table options) (rightMember : right ∈ columnsOf table options)
    (same : left.attributeName = right.attributeName) : left = right := by
  obtain ⟨first, inside, firstId, takes⟩ := takes_of_mem_columnsOf leftMember
  obtain ⟨second, insideToo, secondId, takesToo⟩ := takes_of_mem_columnsOf rightMember
  rw [← same] at takesToo
  apply eq_of_id distinct leftMember rightMember
  rw [← firstId, ← secondId]
  exact takes.id_eq inside takesToo insideToo

/-- System columns keep their names for themselves: a name that is given to a field was checked, or it
ends in a number. -/
theorem attributeName_not_mem (member : column ∈ columnsOf table options) :
    column.attributeName ∉ SystemColumn.reservedNames := by
  obtain ⟨field, _, _, takes⟩ := takes_of_mem_columnsOf member
  generalize column.attributeName = name at takes
  cases takes with
  | stable => exact not_mem_systemNames (endsInDigit_stableName field.id)
  | alone candidate =>
    have free := (candidate?_eq_some.1 candidate).2.2.1
    unfold ComposeOptions.isReserved at free
    rw [Bool.or_eq_false_iff, decide_eq_false_iff_not] at free
    exact free.1
  | shared => exact not_mem_systemNames (endsInDigit_qualifiedName _ field)

theorem stableName_not_mem (column : Column) : column.stableName ∉ SystemColumn.reservedNames :=
  not_mem_systemNames (endsInDigit_stableName column.id)

theorem mem_columnsOf (composed : compose table options = .ok schema)
    (member : column ∈ schema.columns) : column ∈ columnsOf table options := by
  have shown := mem_tableColumns composed member
  rw [eq_ofTable composed] at shown
  exact shown

theorem isSome_lookup_byId (id : FieldId) :
    (schema.byId.lookup id).isSome = true ↔ ∃ column ∈ schema.columns, column.id = id :=
  isSome_lookup_lastPositions id

theorem keyOf_inj (composed : compose table options = .ok schema)
    (distinct : (table.fields.map Field.id).Nodup) {left right : Column}
    (leftMember : left ∈ schema.columns) (rightMember : right ∈ schema.columns)
    (same : schema.keyOf left = schema.keyOf right) : left = right := by
  have leftInside := mem_columnsOf composed leftMember
  have rightInside := mem_columnsOf composed rightMember
  unfold keyOf at same
  split at same
  · exact eq_of_attributeName distinct leftInside rightInside same
  · exact eq_of_stableName distinct leftInside rightInside same

theorem keyOf_not_mem (composed : compose table options = .ok schema)
    (member : column ∈ schema.columns) : schema.keyOf column ∉ SystemColumn.reservedNames := by
  unfold keyOf
  split
  · exact attributeName_not_mem (mem_columnsOf composed member)
  · exact stableName_not_mem column

theorem nodup_map_id (composed : compose table options = .ok schema)
    (distinct : (table.fields.map Field.id).Nodup) : (schema.columns.map Column.id).Nodup := by
  rw [← map_id_columnsOf table options] at distinct
  rw [eq_ofTable composed, columns_ofTable]
  exact distinct.sublist (List.filter_sublist.map _)

theorem nodup_columns (composed : compose table options = .ok schema)
    (distinct : (table.fields.map Field.id).Nodup) : schema.columns.Nodup :=
  (nodup_map_id composed distinct).of_map _

theorem nodup_keys (composed : compose table options = .ok schema)
    (distinct : (table.fields.map Field.id).Nodup) (row : Row) :
    ((Record.entries ⟨schema, row⟩).map Prod.fst).Nodup := by
  have keys : (Record.entries ⟨schema, row⟩).map Prod.fst =
      "id" :: "order" :: schema.columns.map schema.keyOf := by
    unfold Record.entries
    rw [List.map_cons, List.map_cons, List.map_map]
    rfl
  have free : ∀ name ∈ SystemColumn.reservedNames, name ∉ schema.columns.map schema.keyOf := by
    intro name system member
    obtain ⟨column, inside, rfl⟩ := List.mem_map.1 member
    exact keyOf_not_mem composed inside system
  have own : (schema.columns.map schema.keyOf).Nodup :=
    List.Nodup.map_on (fun _ left _ right => keyOf_inj composed distinct left right)
      (nodup_columns composed distinct)
  have order := List.nodup_cons.2 ⟨free "order" (by decide), own⟩
  have id : "id" ∉ "order" :: schema.columns.map schema.keyOf :=
    List.not_mem_cons_of_ne_of_not_mem (by decide) (free "id" (by decide))
  rw [keys]
  exact List.nodup_cons.2 ⟨id, order⟩

theorem compose_unrestricted (composed : compose table options = .ok schema) :
    compose table options.unrestricted = .ok schema.whole := by
  obtain ⟨sound, rfl⟩ := unlessFault_eq_ok.1 composed
  exact unlessFault_eq_ok.2 ⟨sound, rfl⟩

theorem isQueryable_iff (composed : compose table options = .ok schema) (id : FieldId) :
    schema.isQueryable id = true ↔ (∃ column ∈ schema.columns, column.id = id) ∧
      ∀ ids, options.fieldIds = some ids → id ∈ ids := by
  have allowed : schema.allowed = options.fieldIds := by rw [eq_ofTable composed, ofTable]
  unfold isQueryable
  rw [Bool.and_eq_true, isSome_lookup_byId, allowed]
  cases options.fieldIds <;> simp

theorem columns_eq (composed : compose table options = .ok schema) :
    schema.columns = schema.whole.columns.filter fun column => options.asksFor column.id := by
  cases eq_ofTable composed
  exact columns_ofTable table options

theorem fields_eq (composed : compose table options = .ok schema) :
    schema.columns.map Column.field = table.fields.filter fun field => options.asksFor field.id := by
  rw [columns_eq composed, ← map_field_whole composed, List.filter_map]
  rfl

/-- An identifier that is asked for means the last field of the table with it, and no other means any. -/
theorem map_field_column? (composed : compose table options = .ok schema) (id : FieldId) :
    (schema.column? id).map Column.field =
      if options.asksFor id then table.fields.reverse.find? (·.id = id) else none := by
  have fields : table.fields.reverse = schema.whole.columns.reverse.map Column.field := by
    rw [← map_field_whole composed, List.map_reverse]
  rw [column?_eq, columns_eq composed, ← List.filter_reverse, List.find?_filter, fields,
    List.find?_map]
  split
  · rename_i asked
    congr 2
    funext column
    change decide (_ ∧ _) = decide (column.id = id)
    grind
  · rename_i unasked
    rw [Option.map_eq_none_iff, List.find?_eq_none]
    intro column _
    grind

theorem asksFor_of_mem (composed : compose table options = .ok schema)
    (member : column ∈ schema.columns) : options.asksFor column.id = true := by
  rw [columns_eq composed] at member
  exact (List.mem_filter.1 member).2

theorem represents (composed : compose table options = .ok schema)
    (distinct : (table.fields.map Field.id).Nodup) : schema.Represents table options where
  fields_eq := fields_eq composed
  column?_iff _ _ := columnAt?_eq_some fun _ left _ right =>
    eq_of_id distinct (mem_columnsOf composed left) (mem_columnsOf composed right)
  stable?_iff _ _ := columnAt?_eq_some fun _ left _ right =>
    eq_of_stableName distinct (mem_columnsOf composed left) (mem_columnsOf composed right)
  attribute?_iff _ _ := columnAt?_eq_some fun _ left _ right =>
    eq_of_attributeName distinct (mem_columnsOf composed left) (mem_columnsOf composed right)
  byId_lt _ := lt_of_mem_lastPositions
  byStable_lt _ := lt_of_mem_lastPositions
  byAttribute_lt _ := lt_of_mem_lastPositions
  byName_lt _ := lt_of_mem_firstPositions
  isQueryable_iff := isQueryable_iff composed
  compose_unrestricted := compose_unrestricted composed
  whole_fields_eq := map_field_whole composed
  columns_eq := columns_eq composed
  keyOf_inj _ left _ right := keyOf_inj composed distinct left right
  keyOf_not_mem _ := keyOf_not_mem composed
  json_eq row := Json.ofEntries_eq (nodup_keys composed distinct row)
  keys_nodup := nodup_keys composed distinct

end Schema

/-- With identifiers of their own, the fields of a table give a schema that represents it, whatever the
options ask for, unless one of them has no shape. -/
theorem compose_represents {table : Table} (distinct : (table.fields.map Field.id).Nodup)
    (options : ComposeOptions) :
    (∃ schema, Schema.compose table options = .ok schema ∧ schema.Represents table options) ∨
      ∃ field ∈ table.fields, ∃ fault, field.kind.specFault? = some fault ∧
        Schema.compose table options = .error fault := by
  cases broken : Schema.fault? table with
  | none =>
    have composed := unlessFault_eq_ok.2 ⟨broken, (rfl : Schema.ofTable table options = _)⟩
    exact .inl ⟨_, composed, Schema.represents composed distinct⟩
  | some fault =>
    obtain ⟨field, member, shapeless⟩ := List.exists_of_findSome?_eq_some broken
    refine .inr ⟨field, member, fault, shapeless, ?_⟩
    unfold Schema.compose
    rw [broken]
    rfl

def rivalTable : Table where
  id := ⟨3⟩
  database := ⟨2⟩
  name := "Rivals"
  order := 1
  fields := rivalFields

def rivalOptions : ComposeOptions where
  fields := some [⟨6⟩, ⟨9⟩]
  fieldIds := some [⟨4⟩]
  attributeNames := true

theorem compose_represents_rivals :
    ∃ schema, Schema.compose rivalTable rivalOptions = .ok schema ∧
      schema.Represents rivalTable rivalOptions ∧
      schema.columns.map schema.keyOf = ["field_4", "name_field_4"] := by
  have distinct : (rivalTable.fields.map Field.id).Nodup := by decide
  have shaped : ∀ field ∈ rivalTable.fields, field.kind.specFault? = none := by decide
  rcases compose_represents distinct rivalOptions with
    ⟨schema, composed, represents⟩ | ⟨field, member, fault, shapeless, _⟩
  · refine ⟨schema, composed, represents, ?_⟩
    rw [Schema.eq_ofTable composed]
    decide +kernel
  · rw [shaped field member] at shapeless
    cases shapeless

end Tabula
