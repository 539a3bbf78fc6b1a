import Tabula.Proofs.IdMap
import Tabula.Proofs.Schema.StableName

/-!
Attribute names as a rule: what a field is called follows from the fields as a set, without regard to
the order in which they are named, and no two fields are called the same.
-/
namespace Tabula

/-- One field alone has the name as its candidate. -/
def isSoleCandidate (reserved : String → Bool) (fields : List Field) (name : String) : Bool :=
  (fields.filterMap (candidate? reserved)).count name == 1

def Field.attributeName (reserved : String → Bool) (fields : List Field) (field : Field) : String :=
  match candidate? reserved field with
  | none => field.stableName
  | some name =>
    if isSoleCandidate reserved fields name then name
    else if isSoleCandidate reserved fields (qualifiedName name field) then field.stableName
    else qualifiedName name field

/-- How a field can come by a name. -/
inductive Field.Takes (reserved : String → Bool) (fields : List Field) (field : Field) : String → Prop
  | stable : Takes reserved fields field field.stableName
  | alone {name : String} (candidate : candidate? reserved field = some name)
      (sole : isSoleCandidate reserved fields name = true) : Takes reserved fields field name
  | shared {name : String} (candidate : candidate? reserved field = some name)
      (several : isSoleCandidate reserved fields name = false)
      (free : isSoleCandidate reserved fields (qualifiedName name field) = false) :
      Takes reserved fields field (qualifiedName name field)

/-- What a field is called while some names are given away. -/
def Field.nameBeside (reserved unique : String → Bool) (taken : List String) (field : Field) : String :=
  match candidate? reserved field with
  | none => field.stableName
  | some name =>
    if unique name then name
    else if qualifiedName name field ∈ taken then field.stableName
    else qualifiedName name field

section
variable {reserved : String → Bool} {fields rest others : List Field} {field left right : Field}
  {name : String} {taken : List String} {id : FieldId}

theorem candidate?_eq_some :
    candidate? reserved field = some name ↔
      sanitize field.name = name ∧ name ≠ "" ∧ reserved name = false ∧ hasStableShape name = false := by
  unfold candidate?
  dsimp only
  constructor
  · intro found
    split at found
    · cases found
    · rename_i free
      cases found
      simp only [Bool.or_eq_true, not_or, Bool.not_eq_true, String.isEmpty_eq_false_iff] at free
      exact ⟨rfl, free.1.1, free.1.2, free.2⟩
  · intro fit
    obtain ⟨rfl, filled, free, plain⟩ := fit
    simp [filled, free, plain]

theorem isSoleCandidate_iff :
    isSoleCandidate reserved fields name = true ↔
      fields.countP (candidate? reserved · = some name) = 1 := by
  unfold isSoleCandidate
  rw [beq_iff_eq, List.count, List.countP_filterMap]
  apply Eq.congr_left
  apply List.countP_congr
  intro field _
  cases candidate? reserved field <;> simp

theorem eq_of_isSoleCandidate (sole : isSoleCandidate reserved fields name = true)
    (leftMember : left ∈ fields) (leftCandidate : candidate? reserved left = some name)
    (rightMember : right ∈ fields) (rightCandidate : candidate? reserved right = some name) :
    left = right := by
  rw [isSoleCandidate_iff, List.countP_eq_length_filter, List.length_eq_one_iff] at sole
  obtain ⟨only, same⟩ := sole
  have one {field : Field} (member : field ∈ fields)
      (candidate : candidate? reserved field = some name) : field = only := by
    rw [← List.mem_singleton, ← same]
    exact List.mem_filter.2 ⟨member, decide_eq_true candidate⟩
  rw [one leftMember leftCandidate, one rightMember rightCandidate]

theorem exists_candidate (sole : isSoleCandidate reserved fields name = true) :
    ∃ field ∈ fields, candidate? reserved field = some name := by
  rw [isSoleCandidate_iff] at sole
  have present : 0 < fields.countP (candidate? reserved · = some name) := by omega
  obtain ⟨field, member, candidate⟩ := List.countP_pos_iff.1 present
  exact ⟨field, member, of_decide_eq_true candidate⟩

namespace Field.Takes

theorem eq_stableName (takes : field.Takes reserved fields name)
    (shaped : hasStableShape name = true) : name = field.stableName := by
  cases takes with
  | stable => rfl
  | alone candidate _ =>
    rw [(candidate?_eq_some.1 candidate).2.2.2] at shaped
    cases shaped
  | shared =>
    rw [hasStableShape_qualifiedName] at shaped
    cases shaped

theorem id_eq (leftTakes : left.Takes reserved fields name) (leftMember : left ∈ fields)
    (rightTakes : right.Takes reserved fields name) (rightMember : right ∈ fields) :
    left.id = right.id := by
  -- A name of the stable form tells its identifier. Of the others, candidates are apart from names with
  -- an identifier behind them because these are only taken while nobody has them as a candidate.
  by_cases shaped : hasStableShape name = true
  · have same : left.stableName = right.stableName := by
      rw [← leftTakes.eq_stableName shaped, ← rightTakes.eq_stableName shaped]
    exact Id.stableName_inj.1 same
  · cases leftTakes with
    | stable => exact absurd (hasStableShape_stableName left.id) shaped
    | alone leftCandidate sole =>
      cases rightTakes with
      | stable => exact absurd (hasStableShape_stableName right.id) shaped
      | alone rightCandidate _ =>
        rw [eq_of_isSoleCandidate sole leftMember leftCandidate rightMember rightCandidate]
      | shared _ _ free =>
        rw [sole] at free
        cases free
    | @shared front leftCandidate several free =>
      generalize same : qualifiedName front left = given at rightTakes
      cases rightTakes with
      | stable =>
        rw [same] at shaped
        exact absurd (hasStableShape_stableName right.id) shaped
      | alone _ sole =>
        rw [← same, free] at sole
        cases sole
      | shared => exact id_of_qualifiedName same

end Field.Takes

theorem takes_nameBeside (field : Field)
    (given : ∀ name, isSoleCandidate reserved fields name = true → name ∈ taken) :
    field.Takes reserved fields
      (field.nameBeside reserved (isSoleCandidate reserved fields) taken) := by
  unfold Field.nameBeside
  split
  · exact .stable
  · rename_i name candidate
    split
    · rename_i sole
      exact .alone candidate sole
    · rename_i several
      split
      · exact .stable
      · rename_i free
        exact .shared candidate (Bool.eq_false_iff.2 several)
          (Bool.eq_false_iff.2 fun sole => free (given _ sole))

theorem assignNames_cons (reserved unique : String → Bool) (taken : List String) (field : Field)
    (fields : List Field) :
    ∃ later, assignNames reserved unique taken (field :: fields) =
        (field.id, field.nameBeside reserved unique taken) ::
          assignNames reserved unique later fields ∧
      (later = taken ∨ ∃ name, later = qualifiedName name field :: taken) := by
  unfold Field.nameBeside
  rw [assignNames]
  cases candidate? reserved field with
  | none => exact ⟨taken, rfl, .inl rfl⟩
  | some name =>
    dsimp only
    split
    · exact ⟨taken, rfl, .inl rfl⟩
    · split
      · exact ⟨taken, rfl, .inl rfl⟩
      · exact ⟨_, rfl, .inr ⟨name, rfl⟩⟩

theorem map_fst_assignNames (reserved unique : String → Bool) (taken : List String)
    (fields : List Field) :
    (assignNames reserved unique taken fields).map Prod.fst = fields.map Field.id := by
  induction fields generalizing taken with
  | nil => rfl
  | cons field rest ih =>
    obtain ⟨later, named, _⟩ := assignNames_cons reserved unique taken field rest
    rw [named, List.map_cons, ih, List.map_cons]

theorem takes_of_mem_assignNames
    (given : ∀ name, isSoleCandidate reserved fields name = true → name ∈ taken)
    (member : (id, name) ∈ assignNames reserved (isSoleCandidate reserved fields) taken rest) :
    ∃ field ∈ rest, field.id = id ∧ field.Takes reserved fields name := by
  induction rest generalizing taken with
  | nil => cases member
  | cons first rest ih =>
    obtain ⟨later, named, grown⟩ :=
      assignNames_cons reserved (isSoleCandidate reserved fields) taken first rest
    rw [named] at member
    rcases List.mem_cons.1 member with new | after
    · cases new
      exact ⟨first, List.mem_cons_self, rfl, takes_nameBeside first given⟩
    · have givenLater : ∀ name, isSoleCandidate reserved fields name = true → name ∈ later := by
        intro name sole
        rcases grown with rfl | ⟨_, rfl⟩
        · exact given name sole
        · exact List.mem_cons_of_mem _ (given name sole)
      obtain ⟨field, inside, takes⟩ := ih givenLater after
      exact ⟨field, List.mem_cons_of_mem _ inside, takes⟩

/-- Names that were given on the way are in nobody's way: they end in other identifiers. -/
theorem assignNames_eq_map (distinct : (rest.map Field.id).Nodup)
    (agree : ∀ field ∈ rest, ∀ name, qualifiedName name field ∈ taken ↔
      isSoleCandidate reserved fields (qualifiedName name field) = true) :
    assignNames reserved (isSoleCandidate reserved fields) taken rest =
      rest.map fun field => (field.id, field.attributeName reserved fields) := by
  -- As far as the fields to come can tell, `taken` holds the sole candidates and nothing else.
  induction rest generalizing taken with
  | nil => rfl
  | cons first rest ih =>
    rw [List.map_cons, List.nodup_cons] at distinct
    obtain ⟨later, named, grown⟩ :=
      assignNames_cons reserved (isSoleCandidate reserved fields) taken first rest
    have agreeLater : ∀ field ∈ rest, ∀ name, qualifiedName name field ∈ later ↔
        isSoleCandidate reserved fields (qualifiedName name field) = true := by
      intro field inside name
      have before := agree field (List.mem_cons_of_mem _ inside) name
      rcases grown with rfl | ⟨given, rfl⟩
      · exact before
      · have apart : qualifiedName name field ≠ qualifiedName given first := by
          intro same
          apply distinct.1
          rw [← id_of_qualifiedName same]
          exact List.mem_map_of_mem inside
        rw [List.mem_cons, or_iff_right apart]
        exact before
    have here : first.nameBeside reserved (isSoleCandidate reserved fields) taken =
        first.attributeName reserved fields := by
      unfold Field.nameBeside Field.attributeName
      simp only [agree first List.mem_cons_self]
    rw [named, ih distinct.2 agreeLater, here, List.map_cons]

theorem mem_soleCandidates :
    name ∈ (fields.filterMap (candidate? reserved)).filter (isSoleCandidate reserved fields) ↔
      isSoleCandidate reserved fields name = true := by
  rw [List.mem_filter, and_iff_right_iff_imp]
  intro sole
  exact List.mem_filterMap.2 (exists_candidate sole)

theorem attributeNames_eq (reserved : String → Bool) (fields : List Field) :
    attributeNames reserved fields =
      IdMap.insertAll {} (assignNames reserved (isSoleCandidate reserved fields)
        ((fields.filterMap (candidate? reserved)).filter (isSoleCandidate reserved fields)) fields) :=
  rfl

theorem isSome_attributeNames (reserved : String → Bool) (fields : List Field) (id : FieldId) :
    ((attributeNames reserved fields).find? id).isSome = true ↔ id ∈ fields.map Field.id := by
  rw [attributeNames_eq, IdMap.isSome_find?_insertAll, map_fst_assignNames]
  simp

theorem takes_of_attributeNames (found : (attributeNames reserved fields).find? id = some name) :
    ∃ field ∈ fields, field.id = id ∧ field.Takes reserved fields name := by
  rw [attributeNames_eq] at found
  rcases IdMap.of_find?_insertAll found with member | empty
  · exact takes_of_mem_assignNames (fun _ => mem_soleCandidates.2) member
  · cases empty

/-- Every field is called as the rule says. -/
theorem find?_attributeNames (distinct : (fields.map Field.id).Nodup) (member : field ∈ fields) :
    (attributeNames reserved fields).find? field.id = some (field.attributeName reserved fields) := by
  rw [attributeNames_eq, assignNames_eq_map distinct fun _ _ _ => mem_soleCandidates]
  have distinctIds : ((fields.map fun field => (field.id, field.attributeName reserved fields)).map
      Prod.fst).Nodup := by
    rw [List.map_map]
    exact distinct
  exact IdMap.find?_insertAll_of_mem {} distinctIds (List.mem_map_of_mem member)

theorem attributeName_of_perm (same : others.Perm fields) (field : Field) :
    field.attributeName reserved others = field.attributeName reserved fields := by
  have sole : isSoleCandidate reserved others = isSoleCandidate reserved fields := by
    funext name
    unfold isSoleCandidate
    rw [(same.filterMap _).count_eq]
  unfold Field.attributeName
  rw [sole]

theorem attributeNames_of_perm (distinct : (fields.map Field.id).Nodup) (same : others.Perm fields) :
    attributeNames reserved others = attributeNames reserved fields := by
  have distinctToo : (others.map Field.id).Nodup := (same.map Field.id).nodup_iff.2 distinct
  apply IdMap.ext_find?
  intro id
  by_cases member : id ∈ fields.map Field.id
  · obtain ⟨field, inside, rfl⟩ := List.mem_map.1 member
    rw [find?_attributeNames distinct inside, find?_attributeNames distinctToo (same.mem_iff.2 inside),
      attributeName_of_perm same]
  · have absent : ∀ fields : List Field, id ∉ fields.map Field.id →
        (attributeNames reserved fields).find? id = none := by
      intro fields outside
      rw [← isSome_attributeNames reserved, Bool.not_eq_true, Option.isSome_eq_false_iff,
        Option.isNone_iff_eq_none] at outside
      exact outside
    rw [absent fields member, absent others ((same.map Field.id).mem_iff.not.2 member)]

end

/-- Exactly the fields have names, each the one that the rule says. No two have the same, a name of the
stable form belongs to the field with that number, and the order of the fields plays no part. -/
theorem attributeNames_determined {reserved : String → Bool} {fields : List Field}
    (distinct : (fields.map Field.id).Nodup) :
    let names := attributeNames reserved fields
    (∀ id, (names.find? id).isSome = true ↔ id ∈ fields.map Field.id) ∧
      (∀ field ∈ fields, names.find? field.id = some (field.attributeName reserved fields)) ∧
      (∀ left right name, names.find? left = some name → names.find? right = some name →
        left = right) ∧
      (∀ id name, names.find? id = some name → hasStableShape name = true → name = id.stableName) ∧
      ∀ others, others.Perm fields → attributeNames reserved others = names := by
  intro names
  refine ⟨isSome_attributeNames reserved fields, fun _ => find?_attributeNames distinct, ?_, ?_,
    fun _ => attributeNames_of_perm distinct⟩
  · intro left right name leftFound rightFound
    obtain ⟨_, leftMember, rfl, leftTakes⟩ := takes_of_attributeNames leftFound
    obtain ⟨_, rightMember, rfl, rightTakes⟩ := takes_of_attributeNames rightFound
    exact leftTakes.id_eq leftMember rightTakes rightMember
  · intro id name found shaped
    obtain ⟨field, _, rfl, takes⟩ := takes_of_attributeNames found
    exact takes.eq_stableName shaped

/-! Two fields with one candidate, and a third that has the qualified name of the first as its own. -/

def rivalFields : List Field :=
  [⟨⟨4⟩, ⟨3⟩, "Name", 1, false, .stored .longText⟩,
    ⟨⟨5⟩, ⟨3⟩, "name", 2, false, .stored .longText⟩,
    ⟨⟨6⟩, ⟨3⟩, "Name field 4", 3, false, .stored .longText⟩]

theorem attributeNames_rivals :
    attributeNames (fun _ => false) rivalFields.reverse = attributeNames (fun _ => false) rivalFields ∧
      (attributeNames (fun _ => false) rivalFields).find? ⟨4⟩ = some "field_4" ∧
      (attributeNames (fun _ => false) rivalFields).find? ⟨5⟩ = some "name_field_5" ∧
      (attributeNames (fun _ => false) rivalFields).find? ⟨6⟩ = some "name_field_4" := by
  have distinct : (rivalFields.map Field.id).Nodup := by decide
  obtain ⟨_, called, _, _, any⟩ := attributeNames_determined distinct
  have first := called rivalFields[0] (List.getElem_mem (by decide))
  have second := called rivalFields[1] (List.getElem_mem (by decide))
  have third := called rivalFields[2] (List.getElem_mem (by decide))
  refine ⟨any _ (List.reverse_perm _), first.trans (congrArg some ?_),
    second.trans (congrArg some ?_), third.trans (congrArg some ?_)⟩
  all_goals decide +kernel

end Tabula
