import Tabula.Proofs.Db.Perform
import Tabula.Proofs.Schema.Represented

/-!
Reserved names among the attribute names of a schema. A name that a field has of its own is checked; a
name that is made for it, because others have the same, is not.
-/
namespace Tabula

/-- No column but one with this as its stable name is meant to have the name. -/
def Db.Reserves (db : Db) (options : ComposeOptions) (name : String) : Prop :=
  name ∈ SystemColumn.reservedNames ∨ name ∈ options.reservedNames ∨ name ∈ db.config.reservedNames

def Db.composeOptions (db : Db) (options : ComposeOptions) : ComposeOptions :=
  { options with reservedNames := options.reservedNames ++ db.config.reservedNames }

/-- The field shares a name that it could have had, and the name made for it is reserved. -/
structure Field.IsMisnamed (db : Db) (options : ComposeOptions) (fields : List Field) (field : Field) :
    Prop where
  filled : sanitize field.name ≠ ""
  free : ¬ db.Reserves options (sanitize field.name)
  plain : hasStableShape (sanitize field.name) = false
  shared : ∃ other ∈ fields, other.id ≠ field.id ∧ sanitize other.name = sanitize field.name
  reserved : db.Reserves options (qualifiedName (sanitize field.name) field)

section
variable {db : Db} {table : Table} {options : ComposeOptions} {schema : Schema} {column : Column}
  {reserved : String → Bool} {fields : List Field} {field : Field} {name : String}

theorem isReserved_composeOptions :
    (db.composeOptions options).isReserved name = true ↔ db.Reserves options name := by
  simp [Db.composeOptions, ComposeOptions.isReserved, Db.Reserves]

theorem Field.Takes.of_reserved (takes : field.Takes reserved fields name)
    (taken : reserved name = true) :
    name = field.stableName ∨
      candidate? reserved field = some (sanitize field.name) ∧
        name = qualifiedName (sanitize field.name) field := by
  cases takes with
  | stable => exact .inl rfl
  | alone candidate =>
    rw [(candidate?_eq_some.1 candidate).2.2.1] at taken
    cases taken
  | shared candidate =>
    obtain ⟨rfl, _⟩ := candidate?_eq_some.1 candidate
    exact .inr ⟨candidate, rfl⟩

theorem isSoleCandidate_eq_false (distinct : (fields.map Field.id).Nodup) (member : field ∈ fields)
    (candidate : candidate? reserved field = some name) :
    isSoleCandidate reserved fields name = false ↔
      ∃ other ∈ fields, other.id ≠ field.id ∧ candidate? reserved other = some name := by
  constructor
  · intro several
    -- If no other field has it, the fields that have it are the occurrences of this one, which is one.
    by_contra alone
    push Not at alone
    have once : fields.countP (candidate? reserved · = some name) = fields.count field := by
      apply List.countP_congr
      intro other inside
      rw [decide_eq_true_eq, beq_iff_eq]
      constructor
      · intro alike
        by_contra different
        exact alone other inside
          (fun same => different (List.inj_on_of_nodup_map distinct inside member same)) alike
      · intro same
        rw [same]
        exact candidate
    have single : fields.count field = 1 :=
      List.count_eq_one_of_mem (List.Nodup.of_map _ distinct) member
    rw [isSoleCandidate_iff.2 (once.trans single)] at several
    cases several
  · intro shared
    obtain ⟨other, inside, apart, alike⟩ := shared
    by_contra sole
    rw [Bool.not_eq_false] at sole
    exact apart (congrArg Field.id (eq_of_isSoleCandidate sole inside alike member candidate))

theorem attributeName_of_mem_columns (distinct : (table.fields.map Field.id).Nodup)
    (composed : Schema.compose table options = .ok schema) (member : column ∈ schema.columns) :
    column.field ∈ table.fields ∧
      column.attributeName = column.field.attributeName options.isReserved table.fields := by
  have inside : column.field ∈ table.fields := by
    rw [← Schema.map_field_whole composed]
    exact List.mem_map_of_mem (Schema.mem_tableColumns composed member)
  have named := Schema.find?_attributeName (Schema.mem_columnsOf composed member)
  rw [Column.id, find?_attributeNames distinct inside] at named
  exact ⟨inside, (Option.some.inj named).symm⟩

theorem Field.isMisnamed_iff (distinct : (fields.map Field.id).Nodup) (member : field ∈ fields)
    (reserves : ∀ name, reserved name = true ↔ db.Reserves options name) :
    field.IsMisnamed db options fields ↔
      ∃ name, candidate? reserved field = some name ∧ isSoleCandidate reserved fields name = false ∧
        reserved (qualifiedName name field) = true := by
  constructor
  · intro misnamed
    have free : reserved (sanitize field.name) = false := by
      rw [Bool.eq_false_iff, ne_eq, reserves]
      exact misnamed.free
    have candidate (other : Field) (same : sanitize other.name = sanitize field.name) :
        candidate? reserved other = some (sanitize field.name) :=
      candidate?_eq_some.2 ⟨same, misnamed.filled, free, misnamed.plain⟩
    obtain ⟨other, inside, apart, same⟩ := misnamed.shared
    exact ⟨_, candidate field rfl, (isSoleCandidate_eq_false distinct member (candidate field rfl)).2
      ⟨other, inside, apart, candidate other same⟩, (reserves _).2 misnamed.reserved⟩
  · intro shared
    obtain ⟨name, candidate, several, taken⟩ := shared
    obtain ⟨other, inside, apart, alike⟩ :=
      (isSoleCandidate_eq_false distinct member candidate).1 several
    obtain ⟨rfl, filled, free, plain⟩ := candidate?_eq_some.1 candidate
    rw [Bool.eq_false_iff, ne_eq, reserves] at free
    exact ⟨filled, free, plain, ⟨other, inside, apart, (candidate?_eq_some.1 alike).1⟩,
      (reserves _).1 taken⟩

/-- A name that is reserved is nobody's candidate, so nothing keeps a field from being called so. -/
theorem attributeName_of_shared (candidate : candidate? reserved field = some name)
    (several : isSoleCandidate reserved fields name = false)
    (taken : reserved (qualifiedName name field) = true) :
    field.attributeName reserved fields = qualifiedName name field := by
  have nobody : isSoleCandidate reserved fields (qualifiedName name field) = false := by
    by_contra sole
    rw [Bool.not_eq_false] at sole
    obtain ⟨other, _, given⟩ := exists_candidate sole
    rw [(candidate?_eq_some.1 given).2.2.1] at taken
    cases taken
  unfold Field.attributeName
  simp [candidate, several, nobody]

theorem shared_of_attributeName (taken : reserved (field.attributeName reserved fields) = true)
    (unlike : field.attributeName reserved fields ≠ field.stableName) :
    ∃ name, candidate? reserved field = some name ∧ isSoleCandidate reserved fields name = false ∧
      field.attributeName reserved fields = qualifiedName name field := by
  unfold Field.attributeName at taken unlike ⊢
  cases candidate : candidate? reserved field with
  | none =>
    rw [candidate] at unlike
    exact absurd rfl unlike
  | some name =>
    simp only [candidate] at taken unlike ⊢
    split at taken
    · rw [(candidate?_eq_some.1 candidate).2.2.1] at taken
      cases taken
    · rename_i several
      rw [Bool.not_eq_true] at several
      split at taken
      · rename_i claimed
        simp [several, claimed] at unlike
      · rename_i unclaimed
        exact ⟨name, rfl, several, by simp [several, unclaimed]⟩

end

/-- No attribute name is that of a system column. One that is reserved otherwise is the column's own
stable name, or was made from a name that was free; among fields with identifiers of their own, the
second happens to the misnamed fields exactly. -/
theorem attributeName_reserved {db : Db} {table : Table} {options : ComposeOptions} {schema : Schema}
    {column : Column} (composed : db.compose table options = .ok schema)
    (member : column ∈ schema.columns) :
    column.attributeName ∉ SystemColumn.reservedNames ∧
      (db.Reserves options column.attributeName → column.attributeName = column.stableName ∨
        ∃ field ∈ table.fields, field.id = column.id ∧ ¬ db.Reserves options (sanitize field.name) ∧
          column.attributeName = qualifiedName (sanitize field.name) column.field) ∧
      ((table.fields.map Field.id).Nodup →
        ((db.Reserves options column.attributeName ∧ column.attributeName ≠ column.stableName) ↔
          column.field.IsMisnamed db options table.fields)) := by
  have composed : Schema.compose table (db.composeOptions options) = .ok schema := composed
  have inside := Schema.mem_columnsOf composed member
  refine ⟨Schema.attributeName_not_mem inside, ?_, ?_⟩
  · intro taken
    obtain ⟨field, present, same, takes⟩ := Schema.takes_of_mem_columnsOf inside
    have stable : field.stableName = column.stableName := congrArg Id.stableName same
    rcases takes.of_reserved (isReserved_composeOptions.2 taken) with own | ⟨candidate, made⟩
    · exact .inl (own.trans stable)
    · refine .inr ⟨field, present, same, ?_, ?_⟩
      · rw [← isReserved_composeOptions, (candidate?_eq_some.1 candidate).2.2.1]
        exact Bool.false_ne_true
      · rw [made, qualifiedName, stable]
        rfl
  · intro distinct
    obtain ⟨present, named⟩ := attributeName_of_mem_columns distinct composed member
    rw [named, Field.isMisnamed_iff distinct present fun _ => isReserved_composeOptions]
    constructor
    · intro reserved
      obtain ⟨taken, unlike⟩ := reserved
      rw [← isReserved_composeOptions] at taken
      obtain ⟨name, candidate, several, made⟩ := shared_of_attributeName taken unlike
      rw [made] at taken
      exact ⟨name, candidate, several, taken⟩
    · intro shared
      obtain ⟨name, candidate, several, taken⟩ := shared
      rw [attributeName_of_shared candidate several taken, ← isReserved_composeOptions]
      refine ⟨taken, fun same => ?_⟩
      have shaped := hasStableShape_stableName column.id
      change hasStableShape column.stableName = true at shaped
      rw [← same, hasStableShape_qualifiedName] at shaped
      cases shaped

/-! Two fields with one name, and the name that one of them gets for it reserved. -/

def twinTable : Table where
  id := ⟨3⟩
  database := ⟨2⟩
  name := "Twins"
  order := 1
  fields := [⟨⟨4⟩, ⟨3⟩, "Name", 1, true, .stored .longText⟩,
    ⟨⟨5⟩, ⟨3⟩, "name", 2, false, .stored .longText⟩]

def twinOptions : ComposeOptions where
  attributeNames := true

def strictConfig : Config where
  reservedNames := ["name_field_4"]

def twinSchema : Schema :=
  .ofTable twinTable { twinOptions with reservedNames := strictConfig.reservedNames }

def twinColumn : Column := ⟨⟨⟨4⟩, ⟨3⟩, "Name", 1, true, .stored .longText⟩, "name_field_4"⟩

theorem compose_twin :
    ({ config := strictConfig, clock := .epoch } : Db).compose twinTable twinOptions =
      .ok twinSchema := by
  have shaped : Schema.fault? twinTable = none := by decide
  exact unlessFault_eq_ok.2 ⟨shaped, rfl⟩

theorem twinColumn_mem : twinColumn ∈ twinSchema.columns := by decide +kernel

theorem reserves_twin : ({ config := strictConfig, clock := .epoch } : Db).Reserves twinOptions
    twinColumn.attributeName :=
  .inr (.inr List.mem_cons_self)

theorem attributeName_reserved_twin :
    twinColumn ∈ twinSchema.columns ∧
      twinColumn.field.IsMisnamed { config := strictConfig, clock := .epoch } twinOptions
        twinTable.fields := by
  obtain ⟨_, _, exactly⟩ := attributeName_reserved compose_twin twinColumn_mem
  have distinct : (twinTable.fields.map Field.id).Nodup := by decide
  have unlike : twinColumn.attributeName ≠ twinColumn.stableName := by decide +kernel
  exact ⟨twinColumn_mem, (exactly distinct).1 ⟨reserves_twin, unlike⟩⟩

/-- Not all reserved names are avoided. -/
theorem not_all_reserved_names_avoided :
    ¬ ∀ (db : Db) (table : Table) (options : ComposeOptions) (schema : Schema) (column : Column),
      (table.fields.map Field.id).Nodup → db.compose table options = .ok schema →
      column ∈ schema.columns → db.Reserves options column.attributeName →
        column.attributeName = column.stableName := by
  intro refuted
  have avoided := refuted _ _ _ _ _ (by decide) compose_twin twinColumn_mem reserves_twin
  exact absurd avoided (by decide +kernel)

end Tabula
