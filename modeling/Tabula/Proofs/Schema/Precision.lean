import Tabula.Proofs.Catalog.Reached
import Tabula.Proofs.Schema.Represented

/-!
Which tables compose: all but those with a number column, plain or computed, of more digits than a
precision can count. In a composed schema the shapes of number columns have room for the whole digits
beside the places.
-/
namespace Tabula

theorem Physical.fault?_eq_some {physical : Physical} {fault : Fault} :
    physical.fault? = some fault ↔ fault = .precisionExceeded ∧
      ∃ precision scale, physical = .decimal precision scale ∧ precisionLimit ≤ precision := by
  cases physical with
  | decimal precision scale => simp [fault?, eq_comm, and_comm]
  | _ => simp [fault?]

theorem CellType.physical_eq_decimal {type : CellType} {precision scale : Nat} :
    type.spec.physical = .decimal precision scale ↔ ∃ format, type = .number format ∧
      scale = format.places.toNat ∧ precision = scale + wholeDigits := by
  constructor
  · intro shape
    cases type with
    | number format =>
      cases shape
      exact ⟨format, rfl, rfl, Nat.add_comm _ _⟩
    | date format =>
      unfold spec at shape
      dsimp only at shape
      split at shape <;> cases shape
    | _ => cases shape
  · rintro ⟨format, rfl, rfl, rfl⟩
    rw [Nat.add_comm]
    rfl

namespace FieldKind
variable {kind : FieldKind}

/-- Numbers whose places and whole digits together are more than a precision can count. -/
def IsTooPrecise (kind : FieldKind) : Prop :=
  ∃ format, kind.cellType = .number format ∧ precisionLimit ≤ format.places.toNat + wholeDigits

theorem physical_spec (kind : FieldKind) : kind.spec.physical = kind.cellType.spec.physical := by
  cases kind <;> rfl

theorem specFault?_eq_some {fault : Fault} :
    kind.specFault? = some fault ↔ fault = .precisionExceeded ∧ kind.IsTooPrecise := by
  unfold specFault?
  rw [Physical.fault?_eq_some, physical_spec]
  apply and_congr_right'
  constructor
  · rintro ⟨precision, scale, shape, exceeds⟩
    obtain ⟨format, type, rfl, rfl⟩ := CellType.physical_eq_decimal.1 shape
    exact ⟨format, type, exceeds⟩
  · rintro ⟨format, type, exceeds⟩
    exact ⟨_, _, CellType.physical_eq_decimal.2 ⟨format, type, rfl, rfl⟩, exceeds⟩

theorem specFault?_eq_none : kind.specFault? = none ↔ ¬ kind.IsTooPrecise := by
  rw [Option.eq_none_iff_forall_ne_some]
  constructor
  · intro sound exceeds
    exact sound _ (specFault?_eq_some.2 ⟨rfl, exceeds⟩)
  · intro counted fault broken
    exact counted (specFault?_eq_some.1 broken).2

end FieldKind

/-- The column's shape is a decimal if it is a number column, and only then: of as many places as the
format has, with room for the whole digits before them, and with a precision that can be counted. -/
structure Column.HasRoom (column : Column) : Prop where
  decimal_iff : ∀ precision scale, column.spec.physical = .decimal precision scale ↔
    ∃ format, column.field.type = .number format ∧ scale = format.places.toNat ∧
      precision = scale + wholeDigits
  precision_lt : ∀ precision scale, column.spec.physical = .decimal precision scale →
    precision < precisionLimit

theorem Column.hasRoom {column : Column} (counted : ¬ column.field.kind.IsTooPrecise) :
    column.HasRoom := by
  have decimals (precision scale : Nat) : column.spec.physical = .decimal precision scale ↔
      ∃ format, column.field.type = .number format ∧ scale = format.places.toNat ∧
        precision = scale + wholeDigits := by
    unfold spec
    rw [FieldKind.physical_spec]
    exact CellType.physical_eq_decimal
  refine ⟨decimals, ?_⟩
  intro precision scale shape
  obtain ⟨format, type, rfl, rfl⟩ := (decimals precision scale).1 shape
  exact Nat.lt_of_not_le fun exceeds => counted ⟨format, type, exceeds⟩

namespace Schema
variable {table : Table}

theorem fault?_eq_none : fault? table = none ↔ ∀ field ∈ table.fields, ¬ field.kind.IsTooPrecise := by
  unfold fault?
  simp only [List.findSome?_eq_none_iff, FieldKind.specFault?_eq_none]

theorem of_fault?_eq_some {fault : Fault} (broken : fault? table = some fault) :
    fault = .precisionExceeded ∧ ∃ field ∈ table.fields, field.kind.IsTooPrecise := by
  obtain ⟨field, member, shapeless⟩ := List.exists_of_findSome?_eq_some broken
  obtain ⟨same, exceeds⟩ := FieldKind.specFault?_eq_some.1 shapeless
  exact ⟨same, field, member, exceeds⟩

end Schema

/-- Whatever the options ask for, a table composes unless one of its fields, asked for or not, is of
numbers that are too precise. The schema and that of the whole table, which composes alike and has a column
for each field, give all number columns their room. -/
theorem compose_unless_too_precise (table : Table) (options : ComposeOptions) :
    (∃ schema, Schema.compose table options = .ok schema ∧
      Schema.compose table options.unrestricted = .ok schema.whole ∧
      schema.whole.columns.map Column.field = table.fields ∧
      (∀ field ∈ table.fields, ¬ field.kind.IsTooPrecise) ∧
      ∀ column ∈ schema.columns ++ schema.whole.columns, column.HasRoom) ∨
    (∃ field ∈ table.fields, field.kind.IsTooPrecise) ∧
      Schema.compose table options = .error .precisionExceeded := by
  cases broken : Schema.fault? table with
  | none =>
    have counted := Schema.fault?_eq_none.1 broken
    have composed := unlessFault_eq_ok.2 ⟨broken, (rfl : Schema.ofTable table options = _)⟩
    have unrestricted := Schema.compose_unrestricted composed
    refine .inl ⟨_, composed, unrestricted, Schema.map_field_whole composed, counted, ?_⟩
    intro column member
    apply Column.hasRoom
    apply counted
    rcases List.mem_append.1 member with shown | inside
    · exact Schema.field_mem composed shown
    · exact Schema.field_mem unrestricted inside
  | some fault =>
    obtain ⟨rfl, exceeding⟩ := Schema.of_fault?_eq_some broken
    refine .inr ⟨exceeding, ?_⟩
    unfold Schema.compose
    rw [broken]
    rfl

/-! A number column of one digit more than a precision can count. -/

def preciseTable : Table where
  id := ⟨3⟩
  database := ⟨2⟩
  name := "Measures"
  order := 1
  fields := [⟨⟨4⟩, ⟨3⟩, "Ratio", 0, false, .stored (.number ⟨4294967246, false⟩)⟩]

theorem exists_precise : ∃ (catalog : Catalog) (log : Catalog.Log), catalog.Reached log ∧
    catalog.table? ⟨3⟩ = some preciseTable := by
  have reached := Catalog.Reached.start
    |>.edit (.createWorkspace "home")
    |>.edit (.createDatabase ⟨1⟩ "lab")
    |>.edit (.createTable ⟨2⟩ "Measures")
    |>.edit (.addField ⟨3⟩ "Ratio" (.stored (.number ⟨4294967246, false⟩)))
  exact ⟨_, _, reached, by decide +kernel⟩

/-- Such a table can be without a schema, even without one that leaves the field out. -/
theorem not_all_tables_compose :
    ¬ ∀ (catalog : Catalog) (log : Catalog.Log) (id : TableId) (table : Table)
      (options : ComposeOptions), catalog.Reached log → catalog.table? id = some table →
      ∃ schema, Schema.compose table options = .ok schema := by
  intro refuted
  obtain ⟨catalog, log, reached, found⟩ := exists_precise
  obtain ⟨schema, composed⟩ := refuted catalog log ⟨3⟩ preciseTable { fields := some [] } reached found
  cases composed

end Tabula
