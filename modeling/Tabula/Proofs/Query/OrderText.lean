import Tabula.Proofs.Catalog.History
import Tabula.Proofs.Query.Reference

/-!
The texts of orderings: which terms the pieces between commas spell, in either view of a schema, and
what is wrong with a text that is none.
-/
namespace Tabula
open Text

theorem pieces_eq (mark : Char) (chars : List Char) : pieces mark chars = chars.splitOn mark := by
  induction chars with
  | nil => rfl
  | cons c rest ih =>
    unfold pieces
    rw [ih, List.splitOn_cons_eq_if_modifyHead]
    by_cases same : c = mark
    · simp [same]
    · rw [if_neg same, if_neg (by simpa using same)]
      cases parts : rest.splitOn mark with
      | nil => exact absurd parts (List.splitOn_ne_nil mark rest)
      | cons piece others => rfl

namespace Schema

/-- How a term falls into a direction and a reference. Only the attribute view knows a plus. -/
inductive Signed (schema : Schema) : List Char → Bool → List Char → Prop
  | minus (reference : List Char) : Signed schema ('-' :: reference) true reference
  | plus (reference : List Char) (view : schema.attributeMode = true) :
      Signed schema ('+' :: reference) false reference
  | plain (term : List Char) (minus : ∀ reference, term ≠ '-' :: reference)
      (plus : schema.attributeMode = true → ∀ reference, term ≠ '+' :: reference) :
      Signed schema term false term

def Offers (schema : Schema) (only : Option (List FieldId)) (column : Column) : Prop :=
  schema.isQueryable column.id = true ∧ allowedBy only column.id = true

/-- A piece of an ordering reads as a term: it means a column that may be named and that has an order. -/
inductive ReadsAs (schema : Schema) (only : Option (List FieldId)) (piece : List Char) : OrderTerm → Prop
  | term {descending : Bool} {reference : List Char} {column : Column}
      (signed : schema.Signed piece descending reference) (means : schema.Means reference column)
      (offered : schema.Offers only column) (ordered : column.field.isOrderable = true) :
      ReadsAs schema only piece ⟨column.id, descending⟩

/-- What is wrong with a piece: the column that it means has no order, or it means none that may be
named. -/
inductive FailsAs (schema : Schema) (only : Option (List FieldId)) (piece : List Char) :
    QueryError → Prop
  | impossible {descending : Bool} {reference : List Char} {column : Column}
      (signed : schema.Signed piece descending reference) (means : schema.Means reference column)
      (offered : schema.Offers only column) (unordered : column.field.isOrderable = false) :
      FailsAs schema only piece
        (.orderByFieldNotPossible (String.ofList reference) column.field.tag.name)
  | unknown {descending : Bool} {reference : List Char}
      (signed : schema.Signed piece descending reference)
      (nothing : ∀ column, schema.Means reference column → ¬ schema.Offers only column) :
      FailsAs schema only piece (.orderByFieldNotFound (String.ofList reference))

/-- A text that names a column in an ordering: a sign and its user-facing name in the attribute view; its
stable name or its identifier, with a minus for descending, in the other. -/
inductive Spells (schema : Schema) (column : Column) : Bool → String → Prop
  | minus (view : schema.attributeMode = true) : Spells schema column true ("-" ++ column.field.name)
  | plus (view : schema.attributeMode = true) : Spells schema column false ("+" ++ column.field.name)
  | stable (view : schema.attributeMode = false) : Spells schema column false column.stableName
  | stableDown (view : schema.attributeMode = false) : Spells schema column true ("-" ++ column.stableName)
  | number (view : schema.attributeMode = false) : Spells schema column false column.id.text
  | numberDown (view : schema.attributeMode = false) : Spells schema column true ("-" ++ column.id.text)

section
variable {table : Table} {options : ComposeOptions} {schema : Schema} {column : Column}
  {reference term : List Char} {descending : Bool} {only : Option (List FieldId)}

theorem splitTerm_eq : schema.splitTerm term = (descending, reference) ↔
    schema.Signed term descending reference := by
  constructor
  · intro split
    unfold splitTerm at split
    split at split
    · cases split
      exact .minus _
    · split at split
      · rename_i view
        cases split
        exact .plus _ view
      · rename_i view
        cases split
        exact .plain _ nofun fun other => absurd other view
    · rename_i minus plus
      cases split
      exact .plain _ minus fun _ => plus
  · intro signed
    cases signed with
    | minus => rfl
    | plus _ view => exact if_pos view
    | plain _ minus plus =>
      unfold splitTerm
      split
      · exact absurd rfl (minus _)
      · split
        · rename_i view
          exact absurd rfl (plus view _)
        · rfl
      · rfl

theorem offers_iff : (schema.isQueryable column.id && allowedBy only column.id) = true ↔
    schema.Offers only column := Bool.and_eq_true_iff

theorem reads_or_fails (schema : Schema) (only : Option (List FieldId)) (piece : List Char) :
    (∃ read, schema.ReadsAs only piece read) ∨ ∃ error, schema.FailsAs only piece error := by
  have signed : schema.Signed piece (schema.splitTerm piece).1 (schema.splitTerm piece).2 :=
    splitTerm_eq.1 rfl
  by_cases known : ∃ column, schema.Means (schema.splitTerm piece).2 column ∧ schema.Offers only column
  · obtain ⟨column, means, offered⟩ := known
    cases ordered : column.field.isOrderable with
    | true => exact .inl ⟨_, .term signed means offered ordered⟩
    | false => exact .inr ⟨_, .impossible signed means offered ordered⟩
  · refine .inr ⟨_, .unknown signed ?_⟩
    intro column means offered
    exact known ⟨column, means, offered⟩

theorem readOrder_eq {order : String} (filled : order ≠ "") :
    schema.readOrder only order = (order.toList.splitOn ',').mapM (schema.readTerm only) := by
  unfold readOrder
  rw [if_neg (by simpa using filled), pieces_eq]

section
variable (composed : compose table options = .ok schema)
  (named : (table.fields.map Field.name).Nodup) (distinct : (table.fields.map Field.id).Nodup)
include composed named distinct

theorem readTerm_of_means (signed : schema.Signed term descending reference)
    (means : schema.Means reference column) :
    schema.readTerm only term =
      if !(schema.isQueryable column.id && allowedBy only column.id) then
        .error (.orderByFieldNotFound (String.ofList reference))
      else if !column.field.isOrderable then
        .error (.orderByFieldNotPossible (String.ofList reference) column.field.tag.name)
      else .ok ⟨column.id, descending⟩ := by
  have found := (referenced?_eq_some composed named distinct).2 means
  unfold readTerm
  rw [splitTerm_eq.2 signed]
  dsimp only
  rw [found]

theorem readTerm_of_nothing (signed : schema.Signed term descending reference)
    (nothing : ∀ column, ¬ schema.Means reference column) :
    schema.readTerm only term = .error (.orderByFieldNotFound (String.ofList reference)) := by
  have missing : schema.referenced? reference = none := by
    rw [Option.eq_none_iff_forall_ne_some]
    intro column found
    exact nothing column ((referenced?_eq_some composed named distinct).1 found)
  unfold readTerm
  rw [splitTerm_eq.2 signed]
  dsimp only
  rw [missing]

theorem readTerm_of_reads {read : OrderTerm} (reads : schema.ReadsAs only term read) :
    schema.readTerm only term = .ok read := by
  cases reads with
  | term signed means offered ordered =>
    rw [readTerm_of_means composed named distinct signed means, offers_iff.2 offered, ordered]
    rfl

theorem readTerm_of_fails {error : QueryError} (fails : schema.FailsAs only term error) :
    schema.readTerm only term = .error error := by
  cases fails with
  | impossible signed means offered unordered =>
    rw [readTerm_of_means composed named distinct signed means, offers_iff.2 offered, unordered]
    rfl
  | @unknown _ reference signed nothing =>
    by_cases known : ∃ column, schema.Means reference column
    · obtain ⟨column, means⟩ := known
      have barred : (schema.isQueryable column.id && allowedBy only column.id) = false := by
        rw [Bool.eq_false_iff]
        exact fun offered => nothing column means (offers_iff.1 offered)
      rw [readTerm_of_means composed named distinct signed means, barred]
      rfl
    · exact readTerm_of_nothing composed named distinct signed (not_exists.1 known)

theorem readTerm_eq_ok {read : OrderTerm} :
    schema.readTerm only term = .ok read ↔ schema.ReadsAs only term read := by
  refine ⟨?_, readTerm_of_reads composed named distinct⟩
  intro done
  rcases reads_or_fails schema only term with ⟨other, reads⟩ | ⟨error, fails⟩
  · cases done.symm.trans (readTerm_of_reads composed named distinct reads)
    exact reads
  · cases done.symm.trans (readTerm_of_fails composed named distinct fails)

theorem readTerm_eq_error {error : QueryError} :
    schema.readTerm only term = .error error ↔ schema.FailsAs only term error := by
  refine ⟨?_, readTerm_of_fails composed named distinct⟩
  intro failed
  rcases reads_or_fails schema only term with ⟨read, reads⟩ | ⟨other, fails⟩
  · cases failed.symm.trans (readTerm_of_reads composed named distinct reads)
  · cases failed.symm.trans (readTerm_of_fails composed named distinct fails)
    exact fails

end

/-- A spelling of a column reads as a term for it. -/
theorem reads_of_spells {text : String} (member : column ∈ schema.columns)
    (spells : schema.Spells column descending text) (offered : schema.Offers only column)
    (ordered : column.field.isOrderable = true) :
    schema.ReadsAs only text.toList ⟨column.id, descending⟩ := by
  have plain {digits : List Char} (view : schema.attributeMode = false)
      (numeric : ∀ c ∈ digits, isDigit c = true) : schema.Signed digits false digits := by
    refine .plain digits ?_ fun other => absurd (view.symm.trans other) Bool.false_ne_true
    rintro reference rfl
    exact absurd (numeric '-' List.mem_cons_self) (by decide)
  have number (view : schema.attributeMode = false) : schema.Means column.id.text.toList column :=
    .numbered view member _ (.inl rfl) column.id.text_ne_nil (fun _ => Id.isDigit_of_mem_text)
      column.id.digitsValue_text
  have stable (view : schema.attributeMode = false) : schema.Means column.stableName.toList column :=
    .numbered view member _ (.inr column.id.toList_stableName) column.id.text_ne_nil
      (fun _ => Id.isDigit_of_mem_text) column.id.digitsValue_text
  cases spells with
  | minus view =>
    rw [String.toList_append]
    exact .term (.minus _) (.named view member rfl) offered ordered
  | plus view =>
    rw [String.toList_append]
    exact .term (.plus _ view) (.named view member rfl) offered ordered
  | stable view =>
    refine .term (.plain _ ?_ fun other => absurd (view.symm.trans other) Bool.false_ne_true)
      (stable view) offered ordered
    intro reference same
    have begins : 'f' :: _ = '-' :: reference := column.id.toList_stableName.symm.trans same
    cases begins
  | stableDown view =>
    rw [String.toList_append]
    exact .term (.minus _) (stable view) offered ordered
  | number view =>
    exact .term (plain view fun _ => Id.isDigit_of_mem_text) (number view) offered ordered
  | numberDown view =>
    rw [String.toList_append]
    exact .term (.minus _) (number view) offered ordered

theorem comma_not_mem_of_spells {text : String} (spells : schema.Spells column descending text)
    (plain : schema.attributeMode = true → ',' ∉ column.field.name.toList) : ',' ∉ text.toList := by
  have number : ',' ∉ column.id.text.toList := by
    intro member
    exact absurd (Id.isDigit_of_mem_text member) (by decide)
  have stable : ',' ∉ column.stableName.toList := by
    change ',' ∉ column.id.stableName.toList
    rw [Id.toList_stableName, List.mem_append, not_or]
    exact ⟨by decide, number⟩
  have signed {sign : String} {name : String} (mark : ',' ∉ sign.toList) (free : ',' ∉ name.toList) :
      ',' ∉ (sign ++ name).toList := by
    rw [String.toList_append, List.mem_append, not_or]
    exact ⟨mark, free⟩
  cases spells with
  | minus view | plus view => exact signed (by decide) (plain view)
  | stable => exact stable
  | number => exact number
  | stableDown => exact signed (by decide) stable
  | numberDown => exact signed (by decide) number

theorem ne_nil_of_spells {text : String} (spells : schema.Spells column descending text) :
    text.toList ≠ [] := by
  have signed {sign name : String} (mark : sign.toList ≠ []) : (sign ++ name).toList ≠ [] := by
    rw [String.toList_append]
    exact List.append_ne_nil_of_left_ne_nil mark _
  cases spells with
  | minus | plus | stableDown | numberDown => exact signed (by decide)
  | stable =>
    change column.id.stableName.toList ≠ []
    rw [Id.toList_stableName]
    exact List.append_ne_nil_of_right_ne_nil _ column.id.text_ne_nil
  | number => exact column.id.text_ne_nil

theorem splitOn_of_spells {terms : List (Column × Bool)} {texts : List String} (some : terms ≠ [])
    (spelled : List.Forall₂ (fun term text => schema.Spells term.1 term.2 text) terms texts)
    (plain : schema.attributeMode = true → ∀ term ∈ terms, ',' ∉ term.1.field.name.toList) :
    (",".intercalate texts).toList.splitOn ',' = texts.map String.toList := by
  rw [String.toList_intercalate]
  apply List.splitOn_intercalate
  · intro piece member
    obtain ⟨text, inside, rfl⟩ := List.mem_map.1 member
    obtain ⟨term, among, spells⟩ := exists_of_mem_of_forall₂ spelled inside
    exact comma_not_mem_of_spells spells fun view => plain view term among
  · intro none
    cases spelled with
    | nil => exact some rfl
    | cons _ _ => cases none

end

/-- A column that orderings may name, with a direction, and a text that names it. -/
def Spelled (schema : Schema) (only : Option (List FieldId)) (term : Column × Bool) (text : String) :
    Prop :=
  term.1 ∈ schema.columns ∧ schema.Offers only term.1 ∧ term.1.field.isOrderable = true ∧
    schema.Spells term.1 term.2 text

end Schema

/-- Texts of orderings read as what they spell: columns that may be named and that have an order, spelled
and joined by commas, come back as they were given. Any other text reads as one term for each of its
pieces, or fails with what is wrong with the first piece that reads as none. -/
theorem order_text_round_trip {catalog : Catalog} {log : Catalog.Log} {place : TableId} {table : Table}
    {options : ComposeOptions} {schema : Schema} (reached : catalog.Reached log)
    (room : catalog.HasRoom) (found : catalog.table? place = some table)
    (composed : Schema.compose table options = .ok schema) (only : Option (List FieldId)) :
    (∀ terms texts, terms ≠ [] → List.Forall₂ (schema.Spelled only) terms texts →
      (schema.attributeMode = true → ∀ term ∈ terms, ',' ∉ term.1.field.name.toList) →
      schema.readOrder only (",".intercalate texts) =
        .ok (terms.map fun term => ⟨term.1.id, term.2⟩)) ∧
    ∀ order, order ≠ "" →
      (∀ terms, schema.readOrder only order = .ok terms ↔
        List.Forall₂ (schema.ReadsAs only) (order.toList.splitOn ',') terms) ∧
      ∀ error, schema.readOrder only order = .error error ↔
        ∃ front piece behind, order.toList.splitOn ',' = front ++ piece :: behind ∧
          (∀ earlier ∈ front, ∃ term, schema.ReadsAs only earlier term) ∧
          schema.FailsAs only piece error := by
  have distinct := reached.distinct room found
  have named := ((reached.consistent room).arranged place table found).named
  constructor
  · intro terms texts some spelled plain
    have parts := Schema.splitOn_of_spells some
      (spelled.imp fun term text given => given.2.2.2) plain
    have filled : ",".intercalate texts ≠ "" := by
      intro empty
      rw [empty] at parts
      have blank : [] ∈ texts.map String.toList := parts ▸ List.mem_singleton_self []
      obtain ⟨text, inside, none⟩ := List.mem_map.1 blank
      obtain ⟨_, _, _, _, _, spells⟩ := exists_of_mem_of_forall₂ spelled inside
      exact Schema.ne_nil_of_spells spells none
    rw [Schema.readOrder_eq filled, parts, mapM_eq_ok]
    rw [List.forall₂_map_left_iff, List.forall₂_map_right_iff]
    refine spelled.flip.imp ?_
    rintro text ⟨column, descending⟩ ⟨member, offered, ordered, spells⟩
    exact (Schema.readTerm_eq_ok composed named distinct).2
      (Schema.reads_of_spells member spells offered ordered)
  · intro order filled
    rw [Schema.readOrder_eq filled]
    constructor
    · intro terms
      rw [mapM_eq_ok]
      simp only [Schema.readTerm_eq_ok composed named distinct]
    · intro error
      rw [mapM_eq_error]
      simp only [Schema.readTerm_eq_ok composed named distinct,
        Schema.readTerm_eq_error composed named distinct]

/-! A field whose name begins like a descending term. -/

def markedTable : Table where
  id := ⟨3⟩
  database := ⟨2⟩
  name := "Marked"
  order := 1
  fields := [⟨⟨4⟩, ⟨3⟩, "-Rank", 0, false, .stored .boolean⟩]

def markedSchema : Schema := .ofTable markedTable { attributeNames := true }

theorem exists_marked : ∃ (catalog : Catalog) (log : Catalog.Log), catalog.Reached log ∧
    catalog.HasRoom ∧ catalog.table? ⟨3⟩ = some markedTable := by
  have reached := Catalog.Reached.start
    |>.edit (.createWorkspace "home")
    |>.edit (.createDatabase ⟨1⟩ "shop")
    |>.edit (.createTable ⟨2⟩ "Marked")
    |>.edit (.addField ⟨3⟩ "-Rank" (.stored .boolean))
  exact ⟨_, _, reached, reached.hasRoom (by decide), by decide +kernel⟩

theorem order_text_of_marked_name :
    markedSchema.readOrder none "--Rank,+-Rank" = .ok [⟨⟨4⟩, true⟩, ⟨⟨4⟩, false⟩] := by
  obtain ⟨catalog, log, reached, room, found⟩ := exists_marked
  have composed : Schema.compose markedTable { attributeNames := true } = .ok markedSchema := rfl
  obtain ⟨reads, _⟩ := order_text_round_trip reached room found composed none
  have member : markedSchema.columns[0] ∈ markedSchema.columns := List.getElem_mem _
  have plain : ∀ term ∈ [(markedSchema.columns[0], true), (markedSchema.columns[0], false)],
      ',' ∉ term.1.field.name.toList := by decide
  have descending : markedSchema.Spelled none (markedSchema.columns[0], true) "--Rank" :=
    ⟨member, ⟨rfl, rfl⟩, rfl, .minus rfl⟩
  have ascending : markedSchema.Spelled none (markedSchema.columns[0], false) "+-Rank" :=
    ⟨member, ⟨rfl, rfl⟩, rfl, .plus rfl⟩
  exact reads [_, _] ["--Rank", "+-Rank"] nofun (.cons descending (.cons ascending .nil)) fun _ => plain

end Tabula
