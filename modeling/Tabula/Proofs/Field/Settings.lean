import Mathlib.Data.List.Nodup
import Mathlib.Logic.Relation
import Tabula.Field.Json

/-!
What a reader of an object sees: the values under the keys that it knows, or their defaults. An entry with
another key changes nothing, nor does an entry that only spells out a default.
-/
namespace Tabula

namespace Json

/-- The keys that a reader knows, each with what stands for a missing value, where it may be missing. -/
abbrev Settings := List (String × Option Json)

def Settings.keys (settings : Settings) : List String := settings.map Prod.fst

def keys? (json : Json) : Option (List String) := json.entries?.map (·.map Prod.fst)

/-- The value that counts under a key. -/
def value? (settings : Settings) (entries : List (String × Json)) (key : String) : Option Json :=
  (entries.lookup key).or (settings.lookup key).join

/-- Other entries that say the same: there is one more with a key that is unknown, or one less that held its
default. -/
inductive Respells (settings : Settings) : List (String × Json) → List (String × Json) → Prop
  | unknown {front back : List (String × Json)} {key : String} {value : Json}
    (strange : settings.lookup key = none) :
    Respells settings (front ++ back) (front ++ (key, value) :: back)
  | default {front back : List (String × Json)} {key : String} {value : Json}
    (initial : settings.lookup key = some (some value)) (missing : (front ++ back).lookup key = none) :
    Respells settings (front ++ (key, value) :: back) (front ++ back)

variable {settings : Settings} {left right front back : List (String × Json)} {key other : String}

theorem value?_of_required (known : settings.lookup key = some none) (entries : List (String × Json)) :
    value? settings entries key = entries.lookup key := by
  unfold value?
  rw [known, Option.join_some, Option.or_none]

theorem lookup_insert_of_ne {value : Json} (apart : other ≠ key) :
    (front ++ (key, value) :: back).lookup other = (front ++ back).lookup other := by
  rw [List.lookup_append, List.lookup_append, List.lookup_cons, beq_false_of_ne apart]

theorem lookup_insert_of_missing {value : Json} (missing : (front ++ back).lookup key = none) :
    (front ++ (key, value) :: back).lookup key = some value := by
  rw [List.lookup_append, Option.or_eq_none_iff] at missing
  rw [List.lookup_append, missing.1, Option.none_or, List.lookup_cons, beq_self_eq_true]

theorem Respells.value?_eq (same : Respells settings left right) (known : settings.lookup key ≠ none) :
    value? settings left key = value? settings right key := by
  unfold value?
  cases same with
  | @unknown front back other value strange =>
    have apart : key ≠ other := by
      rintro rfl
      exact known strange
    rw [lookup_insert_of_ne apart]
  | @default front back other value initial missing =>
    by_cases here : key = other
    · subst here
      rw [lookup_insert_of_missing missing, missing, initial]
      rfl
    · rw [lookup_insert_of_ne here]

theorem Respells.lookup_eq (same : Respells settings left right) (known : settings.lookup key = some none) :
    left.lookup key = right.lookup key := by
  have counted : value? settings left key = value? settings right key :=
    same.value?_eq (by simp [known])
  rwa [value?_of_required known, value?_of_required known] at counted

/-! Many changes at once. -/

section
open Relation (ReflTransGen)
variable {entries others : List (String × Json)}

theorem lookup_eq_none {key : String} (absent : key ∉ entries.map Prod.fst) :
    entries.lookup key = none := by
  rw [List.lookup_eq_none_iff]
  intro entry member
  rw [bne_iff_ne]
  rintro rfl
  exact absent (List.mem_map_of_mem member)

/-- Any number of entries with unknown keys may be added. -/
theorem respellings_append (strange : ∀ entry ∈ others, settings.lookup entry.1 = none) :
    ReflTransGen (Respells settings) entries (entries ++ others) := by
  induction others generalizing entries with
  | nil => rw [List.append_nil]
  | cons entry others ih =>
    obtain ⟨first, later⟩ := List.forall_mem_cons.1 strange
    have added : Respells settings (entries ++ []) (entries ++ [entry]) := .unknown first
    rw [List.append_nil] at added
    have rest := @ih (entries ++ [entry]) later
    rw [List.append_assoc] at rest
    exact .head added rest

/-- Any of the entries that hold their defaults may be left out. -/
theorem respellings_filter (leftOut : String → Bool) (apart : ((left ++ entries).map Prod.fst).Nodup)
    (initial : ∀ entry ∈ entries, leftOut entry.1 = true →
      settings.lookup entry.1 = some (some entry.2)) :
    ReflTransGen (Respells settings) (left ++ entries)
      (left ++ entries.filter fun entry => !leftOut entry.1) := by
  induction entries generalizing left with
  | nil => exact .refl
  | cons entry rest ih =>
    obtain ⟨first, later⟩ := List.forall_mem_cons.1 initial
    cases out : leftOut entry.1 with
    | true =>
      rw [List.map_append, List.map_cons, List.nodup_middle, List.nodup_cons, ← List.map_append] at apart
      have dropped : Respells settings (left ++ entry :: rest) (left ++ rest) :=
        .default (first out) (lookup_eq_none apart.1)
      rw [List.filter_cons_of_neg (by simp [out])]
      exact .head dropped (ih apart.2 later)
    | false =>
      rw [List.filter_cons_of_pos (by simp [out])]
      have kept := @ih (left ++ [entry]) (by simpa using apart) later
      simpa using kept

theorem respellings_object {Whole : Json → Json → Prop} {tag : Json}
    (step : ∀ {left right : List (String × Json)}, left.lookup "type" = some tag →
      Respells settings left right → Whole (.object left) (.object right))
    (known : settings.lookup "type" = some none) (named : left.lookup "type" = some tag)
    (same : ReflTransGen (Respells settings) left right) :
    ReflTransGen Whole (.object left) (.object right) ∧ right.lookup "type" = some tag := by
  induction same with
  | refl => exact ⟨.refl, named⟩
  | tail _ last ih =>
    obtain ⟨before, there⟩ := ih
    exact ⟨.tail before (step there last), last.lookup_eq known ▸ there⟩

end
end Json

/-! The keys of a field kind and of its parts. -/

def NumberFormat.settings : Json.Settings :=
  [("decimal_places", some (.natural 0)), ("negative", some (.bool false))]

def DateFormat.settings : Json.Settings :=
  [("format", some (.text "EU")), ("include_time", some (.bool false)), ("time_format", some (.text "24"))]

def SelectOption.settings : Json.Settings := [("id", none), ("value", none), ("color", none)]

def ResultType.settings (tag : FieldTag) : Json.Settings :=
  ("type", none) :: match tag with
  | .number => NumberFormat.settings
  | .date => DateFormat.settings
  | _ => []

def FieldKind.settings (tag : FieldTag) : Json.Settings :=
  ("type", none) :: match tag with
  | .text => [("text_default", some .null)]
  | .number => NumberFormat.settings
  | .date => DateFormat.settings
  | .singleSelect | .multipleSelect => [("options", some (.list []))]
  | .linkRow => [("link_table_id", none)]
  | .formula => [("formula", none), ("result", none)]
  | .ai => [("prompt", some (.text ""))]
  | .longText | .boolean | .file | .phoneNumber => []

inductive SelectOption.Respells : Json → Json → Prop
  | entries {left right : List (String × Json)} (same : Json.Respells settings left right) :
    Respells (.object left) (.object right)

inductive ResultType.Respells : Json → Json → Prop
  | entries {tag : FieldTag} {left right : List (String × Json)}
    (named : left.lookup "type" = some (.text tag.name))
    (same : Json.Respells (settings tag) left right) : Respells (.object left) (.object right)

/-- One change to the object of a kind that leaves the kind as it is: of its own entries, of those of one of
its choices, or of those of a formula's result. -/
inductive FieldKind.Respells : Json → Json → Prop
  | entries {tag : FieldTag} {left right : List (String × Json)}
    (named : left.lookup "type" = some (.text tag.name))
    (same : Json.Respells (settings tag) left right) : Respells (.object left) (.object right)
  | choice {front back : List (String × Json)} {before after : List Json} {choice other : Json}
    (same : SelectOption.Respells choice other) :
    Respells (.object (front ++ ("options", .list (before ++ choice :: after)) :: back))
      (.object (front ++ ("options", .list (before ++ other :: after)) :: back))
  | result {front back : List (String × Json)} {result other : Json}
    (same : ResultType.Respells result other) :
    Respells (.object (front ++ ("result", result) :: back))
      (.object (front ++ ("result", other) :: back))

/-! Readers look at nothing but what counts under the keys that they know. Under two of them a value is
itself read by parts: there it is enough that it is read alike. -/

namespace FieldKind

/-- Two values under a key that the reader of a kind cannot tell apart. -/
def SameUnder (key : String) (left right : Json) : Prop :=
  if key = "options" then SelectOption.listOfJson? left = SelectOption.listOfJson? right
  else if key = "result" then ResultType.ofInnerJson? left = ResultType.ofInnerJson? right
  else left = right

def ReadsUnder {α : Type} (key : String) (read : Json → Option α) : Prop :=
  ∀ {left right : Json}, SameUnder key left right → read left = read right

def Agree (settings : Json.Settings) (left right : List (String × Json)) : Prop :=
  ∀ key, settings.lookup key ≠ none →
    Option.Rel (SameUnder key) (Json.value? settings left key) (Json.value? settings right key)

theorem sameUnder_refl (key : String) (json : Json) : SameUnder key json json := by
  unfold SameUnder
  split
  · rfl
  · split <;> rfl

theorem rel_sameUnder_refl (key : String) (value : Option Json) :
    Option.Rel (SameUnder key) value value := by
  cases value with
  | none => exact .none
  | some json => exact .some (sameUnder_refl key json)

theorem readsUnder_options : ReadsUnder "options" SelectOption.listOfJson? := id

theorem readsUnder_result : ReadsUnder "result" ResultType.ofInnerJson? := id

theorem readsUnder_plain {α : Type} {key : String} {read : Json → Option α}
    (plain : key ∉ ["options", "result"]) : ReadsUnder key read := by
  intro left right alike
  obtain ⟨notOptions, notResult⟩ : key ≠ "options" ∧ key ≠ "result" := by simpa using plain
  unfold SameUnder at alike
  rw [if_neg notOptions, if_neg notResult] at alike
  rw [alike]

namespace Agree
variable {settings : Json.Settings} {left right front back : List (String × Json)} {key : String}

theorem of_respells (same : Json.Respells settings left right) : Agree settings left right := by
  intro key known
  rw [same.value?_eq known]
  exact rel_sameUnder_refl key _

theorem of_sameUnder {value other : Json} (alike : SameUnder key value other) :
    Agree settings (front ++ (key, value) :: back) (front ++ (key, other) :: back) := by
  intro asked _
  by_cases here : asked = key
  · subst here
    unfold Json.value?
    rw [List.lookup_append, List.lookup_append, List.lookup_cons, List.lookup_cons, beq_self_eq_true]
    cases front.lookup asked with
    | none => exact .some alike
    | some shown => exact .some (sameUnder_refl asked shown)
  · unfold Json.value?
    rw [Json.lookup_insert_of_ne here, Json.lookup_insert_of_ne here]
    exact rel_sameUnder_refl asked _

section
variable {α : Type} {read : Json → Option α}

theorem bind_value? (agree : Agree settings left right) (known : settings.lookup key ≠ none)
    (reads : ReadsUnder key read) :
    (Json.value? settings left key).bind read = (Json.value? settings right key).bind read := by
  have alike := agree key known
  generalize Json.value? settings left key = value at alike
  generalize Json.value? settings right key = other at alike
  cases alike with
  | none => rfl
  | some same => exact reads same

theorem required (agree : Agree settings left right) (reads : ReadsUnder key read)
    (known : settings.lookup key = some none) :
    Json.required left key read = Json.required right key read := by
  have same := agree.bind_value? (by simp [known]) reads
  rwa [Json.value?_of_required known, Json.value?_of_required known] at same

theorem optional {initial : Json} {default : α} (agree : Agree settings left right)
    (reads : ReadsUnder key read) (known : settings.lookup key = some (some initial))
    (stands : read initial = some default) :
    Json.optional left key default read = Json.optional right key default read := by
  have same (entries : List (String × Json)) :
      (Json.value? settings entries key).bind read = Json.optional entries key default read := by
    unfold Json.value? Json.optional
    rw [known]
    cases entries.lookup key with
    | none => exact stands
    | some json => rfl
  rw [← same, ← same]
  exact agree.bind_value? (by simp [known]) reads

end
end Agree
end FieldKind

section
open FieldKind
variable {left right : List (String × Json)}

theorem NumberFormat.ofJson?_congr (agree : Agree (("type", none) :: settings) left right) :
    ofJson? (.object left) = ofJson? (.object right) := by
  have places : ReadsUnder "decimal_places" Json.word32? := readsUnder_plain (by decide)
  have negative : ReadsUnder "negative" Json.bool? := readsUnder_plain (by decide)
  have zero : Json.word32? (.natural 0) = some 0 := rfl
  simp only [ofJson?, Json.parts?, Option.bind_eq_bind, Option.bind_some, agree.optional places rfl zero,
    agree.optional negative rfl rfl]

theorem DateFormat.ofJson?_congr (agree : Agree (("type", none) :: settings) left right) :
    ofJson? (.object left) = ofJson? (.object right) := by
  have style : ReadsUnder "format" DateStyle.ofJson? := readsUnder_plain (by decide)
  have time : ReadsUnder "include_time" Json.bool? := readsUnder_plain (by decide)
  have clock : ReadsUnder "time_format" ClockStyle.ofJson? := readsUnder_plain (by decide)
  have eu : DateStyle.ofJson? (.text "EU") = some .eu := by decide
  have hours24 : ClockStyle.ofJson? (.text "24") = some .hours24 := by decide
  simp only [ofJson?, Json.parts?, Option.bind_eq_bind, Option.bind_some, agree.optional style rfl eu,
    agree.optional time rfl rfl, agree.optional clock rfl hours24]

theorem SelectOption.ofJson?_congr (agree : Agree settings left right) :
    ofJson? (.object left) = ofJson? (.object right) := by
  have id : ReadsUnder "id" (Id.ofJson? : Json → Option OptionId) := readsUnder_plain (by decide)
  have value : ReadsUnder "value" Json.text? := readsUnder_plain (by decide)
  have color : ReadsUnder "color" Json.text? := readsUnder_plain (by decide)
  simp only [ofJson?, Json.parts?, Option.bind_eq_bind, Option.bind_some, agree.required id rfl,
    agree.required value rfl, agree.required color rfl]

theorem ResultType.ofInnerJson?_congr {tag : FieldTag} (agree : Agree (settings tag) left right)
    (leftNamed : left.lookup "type" = some (.text tag.name))
    (rightNamed : right.lookup "type" = some (.text tag.name)) :
    ofInnerJson? (.object left) = ofInnerJson? (.object right) := by
  simp only [ofInnerJson?, ofTagged?, Json.tagged?, leftNamed, rightNamed, Option.map_some,
    Option.bind_eq_bind, Option.bind_some, FieldTag.ofName?_name]
  cases tag with
  | number => exact congrArg (Option.map _) (NumberFormat.ofJson?_congr agree)
  | date => exact congrArg (Option.map _) (DateFormat.ofJson?_congr agree)
  | _ => rfl

theorem FieldKind.ofJson?_congr {tag : FieldTag} (agree : Agree (settings tag) left right)
    (leftNamed : left.lookup "type" = some (.text tag.name))
    (rightNamed : right.lookup "type" = some (.text tag.name)) :
    ofJson? (.object left) = ofJson? (.object right) := by
  simp only [ofJson?, setting?, Json.parts?, Json.tagged?, leftNamed, rightNamed, Option.map_some,
    Option.bind_eq_bind, Option.bind_some, Json.text?, FieldTag.ofName?_name]
  cases tag with
  | text =>
    have initial : ReadsUnder "text_default" (Json.nullable? Json.text?) :=
      readsUnder_plain (by decide)
    exact congrArg (Option.map _) (agree.optional initial rfl rfl)
  | number => exact congrArg (Option.map _) (NumberFormat.ofJson?_congr agree)
  | date => exact congrArg (Option.map _) (DateFormat.ofJson?_congr agree)
  | singleSelect | multipleSelect =>
    have none : SelectOption.listOfJson? (.list []) = some [] := rfl
    exact congrArg (Option.map _) (agree.optional readsUnder_options rfl none)
  | linkRow =>
    have target : ReadsUnder "link_table_id" (Id.ofJson? : Json → Option TableId) :=
      readsUnder_plain (by decide)
    exact congrArg (Option.map _) (agree.required target rfl)
  | formula =>
    have source : ReadsUnder "formula" Json.text? := readsUnder_plain (by decide)
    simp only [agree.required source rfl, agree.required readsUnder_result rfl]
  | ai =>
    have prompt : ReadsUnder "prompt" Json.text? := readsUnder_plain (by decide)
    exact congrArg (Option.map _) (agree.optional prompt rfl rfl)
  | longText | boolean | file | phoneNumber => rfl

theorem FieldKind.ofJson?_of_unnamed {entries : List (String × Json)}
    (unnamed : ∀ tag : FieldTag, entries.lookup "type" ≠ some (.text tag.name)) :
    ofJson? (.object entries) = none := by
  unfold ofJson?
  simp only [Json.tagged?]
  cases found : entries.lookup "type" with
  | none => rfl
  | some json =>
    cases json with
    | text name =>
      have unknown : FieldTag.ofName? name = none := by
        rw [FieldTag.ofName?, List.find?_eq_none]
        intro tag _ same
        exact unnamed tag (by rw [found, of_decide_eq_true same])
      simp [Json.text?, unknown]
    | _ => rfl

end

/-! One change leaves what is read as it is. -/

theorem SelectOption.ofJson?_respells {left right : Json} (same : Respells left right) :
    ofJson? left = ofJson? right := by
  cases same with
  | entries same => exact ofJson?_congr (.of_respells same)

theorem SelectOption.listOfJson?_respells {before after : List Json} {left right : Json}
    (same : Respells left right) :
    listOfJson? (.list (before ++ left :: after)) = listOfJson? (.list (before ++ right :: after)) := by
  simp only [listOfJson?, Json.items?, Option.bind_eq_bind, Option.bind_some, List.mapM_append,
    List.mapM_cons, ofJson?_respells same]

theorem ResultType.ofInnerJson?_respells {left right : Json} (same : Respells left right) :
    ofInnerJson? left = ofInnerJson? right := by
  cases same with
  | @entries tag left right named same =>
    have tags : left.lookup "type" = right.lookup "type" := same.lookup_eq rfl
    exact ofInnerJson?_congr (.of_respells same) named (tags ▸ named)

theorem FieldKind.ofJson?_of_sameUnder {front back : List (String × Json)} {key : String}
    {value other : Json} (apart : "type" ≠ key) (alike : SameUnder key value other) :
    ofJson? (.object (front ++ (key, value) :: back)) =
      ofJson? (.object (front ++ (key, other) :: back)) := by
  have tags (value : Json) : (front ++ (key, value) :: back).lookup "type" = (front ++ back).lookup "type" :=
    Json.lookup_insert_of_ne apart
  by_cases named : ∃ tag : FieldTag, (front ++ back).lookup "type" = some (.text tag.name)
  · obtain ⟨tag, named⟩ := named
    exact ofJson?_congr (.of_sameUnder alike) ((tags value).trans named) ((tags other).trans named)
  · rw [ofJson?_of_unnamed, ofJson?_of_unnamed]
    · exact fun tag same => named ⟨tag, (tags other).symm.trans same⟩
    · exact fun tag same => named ⟨tag, (tags value).symm.trans same⟩

theorem FieldKind.ofJson?_respells {left right : Json} (same : Respells left right) :
    ofJson? left = ofJson? right := by
  cases same with
  | @entries tag left right named same =>
    have tags : left.lookup "type" = right.lookup "type" := same.lookup_eq rfl
    exact ofJson?_congr (.of_respells same) named (tags ▸ named)
  | choice same =>
    exact ofJson?_of_sameUnder (by decide) (SelectOption.listOfJson?_respells same)
  | result same =>
    exact ofJson?_of_sameUnder (by decide) (ResultType.ofInnerJson?_respells same)

end Tabula
