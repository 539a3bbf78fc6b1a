import Tabula.Proofs.Schema.Represented
import Tabula.Query.Order

/-! What references to columns mean, in either view of a schema. -/
namespace Tabula
open Text

theorem digits?_eq_some {digits : List Char} {number : Nat} :
    digits? digits = some number ↔
      digits ≠ [] ∧ (∀ c ∈ digits, isDigit c = true) ∧ digitsValue digits = number := by
  unfold digits?
  simp [and_assoc]

namespace Schema

/-- What a reference means. In the attribute view this is a user-facing name, or the attribute name of a
column whose attribute name is no user-facing name. In the other it is an identifier, with or without the
mark of stable names before it. -/
inductive Means (schema : Schema) (reference : List Char) (column : Column) : Prop
  | named (view : schema.attributeMode = true) (member : column ∈ schema.columns)
      (own : column.field.name.toList = reference)
  | keyed (view : schema.attributeMode = true) (member : column ∈ schema.columns)
      (own : column.attributeName.toList = reference)
      (free : ∀ other ∈ schema.columns, other.field.name.toList ≠ reference)
  | numbered (view : schema.attributeMode = false) (member : column ∈ schema.columns)
      (digits : List Char) (split : reference = digits ∨ reference = stableMark ++ digits)
      (filled : digits ≠ []) (numeric : ∀ c ∈ digits, isDigit c = true)
      (own : digitsValue digits = column.id.val.toNat)

section
variable {schema : Schema} {column : Column} {reference : List Char}

def stableReference? (reference : List Char) : Option FieldId := do
  let number ← digits? ((afterStart? stableMark reference).getD reference)
  if number < UInt64.size then some ⟨UInt64.ofNat number⟩ else none

theorem referenced?_of_stable (stable : schema.attributeMode = false)
    (reference : List Char) :
    schema.referenced? reference = (stableReference? reference).bind schema.column? := by
  unfold referenced? stableReference?
  rw [stable, if_neg Bool.false_ne_true]
  cases digits? ((afterStart? stableMark reference).getD reference) with
  | none => rfl
  | some number =>
    change (if _ then _ else _) = (if _ then _ else _ : Option FieldId).bind _
    split <;> rfl

theorem reference_digits {digits : List Char} (filled : digits ≠ [])
    (numeric : ∀ c ∈ digits, isDigit c = true)
    (split : reference = digits ∨ reference = stableMark ++ digits) :
    (afterStart? stableMark reference).getD reference = digits := by
  rcases split with rfl | rfl
  · cases found : afterStart? stableMark reference with
    | none => rfl
    | some rest =>
      have begins := afterStart?_eq_some.1 found
      have letter : 'f' ∈ reference := by
        rw [begins]
        exact List.mem_append_left _ (by decide)
      exact absurd (numeric _ letter) (by decide)
  · rw [afterStart?_eq_some.2 rfl]
    rfl

theorem split_digits (reference : List Char) :
    reference = (afterStart? stableMark reference).getD reference ∨
      reference = stableMark ++ (afterStart? stableMark reference).getD reference := by
  cases found : afterStart? stableMark reference with
  | none => exact .inl rfl
  | some rest => exact .inr (afterStart?_eq_some.1 found)

/-- A reference in the stable view means the identifier that it is the numeral of. -/
theorem stableReference?_eq_some {id : FieldId} :
    stableReference? reference = some id ↔
      ∃ digits, (reference = digits ∨ reference = stableMark ++ digits) ∧ digits ≠ [] ∧
        (∀ c ∈ digits, isDigit c = true) ∧ digitsValue digits = id.val.toNat := by
  unfold stableReference?
  rw [Option.bind_eq_bind, Option.bind_eq_some_iff]
  constructor
  · rintro ⟨number, read, found⟩
    obtain ⟨filled, numeric, value⟩ := digits?_eq_some.1 read
    split at found
    · rename_i small
      cases found
      refine ⟨_, split_digits reference, filled, numeric, ?_⟩
      rw [value, UInt64.toNat_ofNat_of_lt' small]
    · cases found
  · rintro ⟨digits, split, filled, numeric, value⟩
    refine ⟨id.val.toNat, ?_, ?_⟩
    · rw [reference_digits filled numeric split]
      exact digits?_eq_some.2 ⟨filled, numeric, value⟩
    · rw [if_pos id.val.toNat_lt, UInt64.ofNat_toNat]

variable {table : Table} {options : ComposeOptions} (composed : compose table options = .ok schema)
  (named : (table.fields.map Field.name).Nodup)
include composed named

theorem name_inj {left right : Column} (leftMember : left ∈ schema.columns)
    (rightMember : right ∈ schema.columns) (same : left.field.name = right.field.name) : left = right := by
  rw [← map_field_whole composed, List.map_map] at named
  rw [columns_eq composed] at leftMember rightMember
  exact List.inj_on_of_nodup_map named (List.mem_filter.1 leftMember).1
    (List.mem_filter.1 rightMember).1 same

theorem named?_eq_some {name : String} :
    schema.named? name = some column ↔ column ∈ schema.columns ∧ column.field.name = name := by
  rw [named?_eq]
  constructor
  · intro found
    exact ⟨List.mem_of_find?_eq_some found, by simpa using List.find?_some found⟩
  · rintro ⟨member, own⟩
    cases found : schema.columns.find? (·.field.name = name) with
    | none =>
      have missing := List.find?_eq_none.1 found column member
      simp [own] at missing
    | some other =>
      have same : other.field.name = name := by simpa using List.find?_some found
      have one := name_inj composed named (List.mem_of_find?_eq_some found) member (same.trans own.symm)
      rw [one]

variable (distinct : (table.fields.map Field.id).Nodup)
include distinct

/-- References are looked up as what they mean. -/
theorem referenced?_eq_some :
    schema.referenced? reference = some column ↔ schema.Means reference column := by
  have represents := Schema.represents composed distinct
  cases view : schema.attributeMode with
  | true =>
    have text (name : String) : name = String.ofList reference ↔ name.toList = reference := by
      rw [← String.toList_inj, String.toList_ofList]
    unfold referenced?
    dsimp only
    rw [if_pos view, Option.or_eq_some_iff, represents.attribute?_iff, named?_eq_some composed named,
      text, text]
    constructor
    · rintro (⟨member, own⟩ | ⟨unnamed, member, own⟩)
      · exact .named view member own
      · refine .keyed view member own ?_
        intro other inside same
        have found := (named?_eq_some composed named).2 ⟨inside, (text _).2 same⟩
        rw [unnamed] at found
        cases found
    · intro means
      cases means with
      | named _ member own => exact .inl ⟨member, own⟩
      | keyed _ member own free =>
        refine .inr ⟨?_, member, own⟩
        cases found : schema.named? (String.ofList reference) with
        | none => rfl
        | some other =>
          obtain ⟨inside, same⟩ := (named?_eq_some composed named).1 found
          exact absurd ((text _).1 same) (free other inside)
      | numbered other => cases view.symm.trans other
  | false =>
    rw [referenced?_of_stable view, Option.bind_eq_some_iff]
    simp only [represents.column?_iff, stableReference?_eq_some]
    constructor
    · rintro ⟨id, ⟨digits, split, filled, numeric, value⟩, member, rfl⟩
      exact .numbered view member digits split filled numeric value
    · intro means
      cases means with
      | named other => cases view.symm.trans other
      | keyed other => cases view.symm.trans other
      | numbered _ member digits split filled numeric own =>
        exact ⟨column.id, ⟨digits, split, filled, numeric, own⟩, member, rfl⟩

end
end Schema
end Tabula
