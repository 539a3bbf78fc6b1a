import Tabula.Proofs.Field.Settings

/-!
Field kinds as JSON and back. A kind is read as it was written; so it is when keys that it does not know are
added anywhere, and when keys that have a default are left out where they hold it.
-/
namespace Tabula

theorem Json.natural?_natural (number : Nat) : (natural number).natural? = some number := by
  simp [natural, natural?]

theorem Json.word32?_natural (number : UInt32) : (natural number.toNat).word32? = some number := by
  have small : number.toNat < UInt32.size := number.toNat_lt
  unfold word32?
  rw [natural?_natural, Option.filter_some, if_pos (decide_eq_true small), Option.map_some,
    UInt32.ofNat_toNat]

theorem Json.word64?_natural (number : UInt64) : (natural number.toNat).word64? = some number := by
  have small : number.toNat < UInt64.size := number.toNat_lt
  unfold word64?
  rw [natural?_natural, Option.filter_some, if_pos (decide_eq_true small), Option.map_some,
    UInt64.ofNat_toNat]

theorem Id.ofJson?_json {entity : Entity} (id : Id entity) : ofJson? id.json = some id := by
  unfold ofJson? json
  rw [Json.word64?_natural]
  rfl

theorem DateStyle.ofJson?_name (style : DateStyle) : ofJson? (.text style.name) = some style := by
  cases style <;> decide

theorem ClockStyle.ofJson?_name (style : ClockStyle) : ofJson? (.text style.name) = some style := by
  cases style <;> decide

theorem NumberFormat.ofJson?_tagged (tag : FieldTag) (format : NumberFormat) :
    ofJson? (tagged tag format.entries) = some format := by
  simp [ofJson?, tagged, entries, Json.parts?, Json.optional, List.lookup_cons, Json.word32?_natural,
    Json.bool?]

theorem DateFormat.ofJson?_tagged (tag : FieldTag) (format : DateFormat) :
    ofJson? (tagged tag format.entries) = some format := by
  simp [ofJson?, tagged, entries, Json.parts?, Json.optional, List.lookup_cons, DateStyle.ofJson?_name,
    ClockStyle.ofJson?_name, Json.bool?]

namespace SelectOption

theorem ofJson?_json (choice : SelectOption) : ofJson? choice.json = some choice := by
  simp [ofJson?, json, Json.parts?, Json.required, List.lookup_cons, Id.ofJson?_json, Json.text?]

theorem listOfJson?_listJson (choices : List SelectOption) :
    listOfJson? (listJson choices) = some choices := by
  have all : (choices.map json).mapM ofJson? = some choices := by
    induction choices with
    | nil => rfl
    | cons choice others ih =>
      rw [List.map_cons, List.mapM_cons, ofJson?_json, ih]
      rfl
  exact all

end SelectOption

theorem tagged?_tagged (tag : FieldTag) (entries : List (String × Json)) :
    (tagged tag entries).tagged? = some (.text tag.name, tagged tag entries) := rfl

theorem ResultType.ofInnerJson?_json (result : ResultType) : ofInnerJson? result.json = some result := by
  cases result with
  | text => rfl
  | boolean => rfl
  | number format =>
    simp [ofInnerJson?, ofTagged?, json, tagged?_tagged, FieldTag.ofName?_name,
      NumberFormat.ofJson?_tagged]
  | date format =>
    simp [ofInnerJson?, ofTagged?, json, tagged?_tagged, FieldTag.ofName?_name,
      DateFormat.ofJson?_tagged]

namespace FieldKind

theorem nullable?_ofNullable (initial : Option String) :
    Json.nullable? Json.text? (Json.ofNullable .text initial) = some initial := by
  cases initial <;> rfl

theorem ofJson?_json (kind : FieldKind) : ofJson? kind.json = some kind := by
  cases kind with
  | stored type =>
    simp only [ofJson?, json, tagged?_tagged, Option.bind_eq_bind, Option.bind_some, Json.text?,
      FieldTag.ofName?_name]
    -- The key of a setting is found behind the tag by evaluation.
    cases type with
    | text initial => exact congrArg (Option.map _) (nullable?_ofNullable initial)
    | number format => exact congrArg (Option.map _) (NumberFormat.ofJson?_tagged .number format)
    | date format => exact congrArg (Option.map _) (DateFormat.ofJson?_tagged .date format)
    | singleSelect choices | multipleSelect choices =>
      exact congrArg (Option.map _) (SelectOption.listOfJson?_listJson choices)
    | linkRow target => exact congrArg (Option.map _) target.ofJson?_json
    | ai prompt => rfl
    | longText | boolean | file | phoneNumber => rfl
  | computed formula result =>
    simp only [ofJson?, json, tagged?_tagged, Option.bind_eq_bind, Option.bind_some, Json.text?,
      FieldTag.ofName?_name]
    exact congrArg (Option.bind · _) result.ofInnerJson?_json

theorem ofJson?_of_respellings {left right : Json} (same : Relation.ReflTransGen Respells left right) :
    ofJson? left = ofJson? right := by
  induction same with
  | refl => rfl
  | tail _ last ih => exact ih.trans (ofJson?_respells last)

/-- Every key that is known is written, and no other. -/
theorem keys?_json (kind : FieldKind) : kind.json.keys? = some (settings kind.tag).keys := by
  cases kind with
  | stored type => cases type <;> rfl
  | computed formula result => rfl

end FieldKind

theorem ResultType.keys?_json (result : ResultType) :
    result.json.keys? = some (settings result.cellType.tag).keys := by
  cases result <;> rfl

/-- A field kind is read as it was written, with all the keys that the kind, its choices and its result know.
Keys that are unknown there may be added anywhere, and keys that have a default may be left out where they
hold it: an object is read as before, or refused as before. -/
theorem field_kind_round_trip :
    (∀ kind : FieldKind, FieldKind.ofJson? kind.json = some kind ∧
      kind.json.keys? = some (FieldKind.settings kind.tag).keys) ∧
    (∀ choice : SelectOption, choice.json.keys? = some SelectOption.settings.keys) ∧
    (∀ result : ResultType, result.json.keys? = some (ResultType.settings result.cellType.tag).keys) ∧
    ∀ left right : Json, Relation.ReflTransGen FieldKind.Respells left right →
      FieldKind.ofJson? left = FieldKind.ofJson? right :=
  ⟨fun kind => ⟨kind.ofJson?_json, kind.keys?_json⟩, fun _ => rfl, ResultType.keys?_json,
    fun _ _ => FieldKind.ofJson?_of_respellings⟩

def countEntries (result : List (String × Json)) : List (String × Json) :=
  [("type", .text "formula"), ("formula", .text "1"), ("result", .object result)]

/-- The result loses all its settings, and the formula gets two notes, one under a key of other kinds. -/
theorem respellings_count : Relation.ReflTransGen FieldKind.Respells
    (FieldKind.computed "1" (.number {})).json
    (.object (countEntries [("type", .text "number")] ++ [("note", .null), ("options", .null)])) := by
  let leftOut (_key : String) : Bool := true
  have defaults : ∀ entry ∈ ({} : NumberFormat).entries, leftOut entry.1 = true →
      (ResultType.settings .number).lookup entry.1 = some (some entry.2) :=
    List.forall_mem_cons.2 ⟨fun _ => rfl, List.forall_mem_singleton.2 fun _ => rfl⟩
  have strange : ∀ entry ∈ [("note", Json.null), ("options", .null)],
      (FieldKind.settings .formula).lookup entry.1 = none :=
    List.forall_mem_cons.2 ⟨rfl, List.forall_mem_singleton.2 rfl⟩
  have shorter : Relation.ReflTransGen ResultType.Respells (ResultType.number {}).json
      (.object [("type", .text "number")]) :=
    (Json.respellings_object (@ResultType.Respells.entries .number) rfl rfl
      (@Json.respellings_filter _ [("type", .text "number")] _ leftOut (by decide) defaults)).1
  have noted : Relation.ReflTransGen FieldKind.Respells
      (.object (countEntries [("type", .text "number")]))
      (.object (countEntries [("type", .text "number")] ++ [("note", .null), ("options", .null)])) :=
    (Json.respellings_object (@FieldKind.Respells.entries .formula) rfl rfl
      (Json.respellings_append strange)).1
  have inside := shorter.lift (fun result => Json.object
    ([("type", .text "formula"), ("formula", .text "1")] ++ ("result", result) :: []))
    fun _ _ => FieldKind.Respells.result
  exact inside.trans noted

/-- A formula read from an object that has no settings for its result, and two entries that say nothing. -/
theorem round_trip_of_count :
    Relation.ReflTransGen FieldKind.Respells (FieldKind.computed "1" (.number {})).json
      (.object (countEntries [("type", .text "number")] ++ [("note", .null), ("options", .null)])) ∧
    FieldKind.ofJson? (.object
      (countEntries [("type", .text "number")] ++ [("note", .null), ("options", .null)])) =
        some (.computed "1" (.number {})) := by
  obtain ⟨reads, _, _, respelled⟩ := field_kind_round_trip
  exact ⟨respellings_count, (respelled _ _ respellings_count).symm.trans (reads _).1⟩

end Tabula
