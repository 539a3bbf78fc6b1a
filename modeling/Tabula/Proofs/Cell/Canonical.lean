import Mathlib.Data.List.Nodup
import Tabula.Proofs.Cell.Utc

/-!
The cells that a column stores, said apart from how given values become them. Normalizing gives such a
cell, and leaves one as it is.
-/
namespace Tabula

/-- The cells that a column of a type stores. -/
inductive CellType.Stores : CellType → Value → Prop
  | null {type : CellType} (nullable : type.spec.nullable = true) : Stores type .null
  | text {initial : Option String} {content : String} : Stores (.text initial) (.text content)
  | longText {content : String} : Stores .longText (.text content)
  | ai {prompt content : String} : Stores (.ai prompt) (.text content)
  | phoneNumber {content : String} (fits : content.length ≤ phoneNumberRoom)
      (plain : content.toList.all isPhoneChar = true) : Stores .phoneNumber (.text content)
  | number {format : NumberFormat} {amount : Decimal} (rounded : amount.scale ≤ format.places.toNat)
      (signed : amount.negative = true → amount.isZero = true ∨ format.negative = true) :
      Stores (.number format) (.number amount)
  | bool {flag : Bool} : Stores .boolean (.bool flag)
  | day {format : DateFormat} {date : Day} (untimed : format.includeTime = false) :
      Stores (.date format) (.day date)
  | instant {format : DateFormat} {time : Instant} (timed : format.includeTime = true)
      (utc : time.offset = 0) : Stores (.date format) (.instant time)
  | files {attachments : List Attachment} (named : ∀ file ∈ attachments, file.name.isEmpty = false) :
      Stores .file (.files attachments)
  | option {choices : List SelectOption} {chosen : OptionId}
      (known : ((CellType.singleSelect choices).choice? chosen).isSome = true) :
      Stores (.singleSelect choices) (.option chosen)
  | options {choices : List SelectOption} {chosen : List OptionId} (distinct : chosen.Nodup)
      (known : ∀ id ∈ chosen, ((CellType.multipleSelect choices).choice? id).isSome = true) :
      Stores (.multipleSelect choices) (.options chosen)
  | links {target : TableId} {rows : List RowId} (distinct : rows.Nodup) :
      Stores (.linkRow target) (.links rows)

section
variable {α : Type} [DecidableEq α]

theorem firstOccurrences_append_singleton (items : List α) (last : α) :
    firstOccurrences (items ++ [last]) =
      if last ∈ firstOccurrences items then firstOccurrences items
      else firstOccurrences items ++ [last] := by
  unfold firstOccurrences
  rw [List.foldl_append]
  rfl

theorem mem_firstOccurrences {items : List α} {item : α} :
    item ∈ firstOccurrences items ↔ item ∈ items := by
  induction items using List.reverseRecOn with
  | nil => rfl
  | append_singleton front last ih =>
    rw [firstOccurrences_append_singleton, List.mem_append, ← ih, List.mem_singleton]
    split
    · rename_i seen
      constructor
      · exact .inl
      · rintro (earlier | rfl)
        · exact earlier
        · exact seen
    · rw [List.mem_append, List.mem_singleton]

theorem nodup_firstOccurrences (items : List α) : (firstOccurrences items).Nodup := by
  induction items using List.reverseRecOn with
  | nil => exact List.nodup_nil
  | append_singleton front last ih =>
    rw [firstOccurrences_append_singleton]
    split
    · exact ih
    · rename_i new
      exact List.nodup_append.2 ⟨ih, List.nodup_singleton _, by grind⟩

theorem firstOccurrences_of_nodup {items : List α} (distinct : items.Nodup) :
    firstOccurrences items = items := by
  induction items using List.reverseRecOn with
  | nil => rfl
  | append_singleton front last ih =>
    obtain ⟨before, _, apart⟩ := List.nodup_append.1 distinct
    have new : last ∉ front := fun member => apart last member last (List.mem_singleton_self _) rfl
    rw [firstOccurrences_append_singleton, ih before, if_neg new]

end

theorem Decimal.isZero_of_round {number : Decimal} {places : Nat}
    (negative : (number.round places).negative = true) :
    number.negative = true ∧ (number.isZero = true → (number.round places).isZero = true) := by
  unfold round at negative ⊢
  split at negative
  · rename_i fewer
    rw [dif_pos fewer]
    exact ⟨negative, id⟩
  · rename_i more
    rw [dif_neg more]
    refine ⟨(Bool.and_eq_true_iff.1 negative).1, ?_⟩
    intro zero
    have none : number.mantissa = 0 := by simpa [isZero] using zero
    simp [isZero, none, halfUp]

theorem Decimal.scale_round_le (number : Decimal) (places : Nat) :
    (number.round places).scale ≤ places := by
  unfold round
  split
  · assumption
  · exact Nat.le_refl _

theorem Instant.toUtc?_of_utc {time : Instant} (utc : time.offset = 0) : time.toUtc? = some time := by
  obtain ⟨nanos, offset, offset_le, first_le, lt_end⟩ := time
  cases utc
  exact dif_pos ⟨offset_le, first_le, lt_end⟩

theorem checkChoice_eq_ok {type : CellType} {field : String} {id taken : OptionId} :
    checkChoice type field id = .ok taken ↔ (type.choice? id).isSome = true ∧ id = taken := by
  unfold checkChoice
  split
  · rename_i known
    simp [known]
  · rename_i foreign
    simp [foreign]

theorem mapM_checkChoice {type : CellType} {field : String} {chosen taken : List OptionId} :
    chosen.mapM (checkChoice type field) = .ok taken ↔
      (∀ id ∈ chosen, (type.choice? id).isSome = true) ∧ chosen = taken := by
  simp only [mapM_eq_ok, checkChoice_eq_ok]
  rw [List.forall₂_and_left, List.forall₂_eq_eq_eq]

namespace CellType.Stores
variable {value normal : Value}

theorem of_normalizeText (done : normalizeText value = .ok normal) :
    normal = .null ∨ ∃ content, normal = .text content := by
  unfold normalizeText at done
  split at done
  · cases done
    exact .inl rfl
  · cases done
    exact .inr ⟨_, rfl⟩
  · cases done

theorem of_normalizePhoneNumber (done : normalizePhoneNumber value = .ok normal) :
    Stores .phoneNumber normal := by
  cases value with
  | null =>
    cases done
    exact .null rfl
  | text content =>
    unfold normalizePhoneNumber at done
    dsimp only at done
    split at done
    · cases done
    · rename_i fits
      split at done
      · rename_i plain
        cases done
        exact .phoneNumber (Nat.le_of_not_lt fits) plain
      · cases done
  | bool _ | number _ | day _ | instant _ | files _ | links _ | option _ | options _ => cases done

theorem of_acceptNumber {format : NumberFormat} {number : Decimal}
    (done : acceptNumber format number = .ok normal) : Stores (.number format) normal := by
  unfold acceptNumber at done
  split at done
  · cases done
  · rename_i accepted
    cases done
    refine .number (Decimal.scale_round_le _ _) ?_
    intro negative
    obtain ⟨below, zero⟩ := Decimal.isZero_of_round negative
    rw [below] at accepted
    by_cases isZero : number.isZero = true
    · exact .inl (zero isZero)
    · exact .inr (by simpa [isZero] using accepted)

theorem of_normalizeNumber {format : NumberFormat} (done : normalizeNumber format value = .ok normal) :
    Stores (.number format) normal := by
  unfold normalizeNumber at done
  split at done
  · cases done
    exact .null rfl
  · exact of_acceptNumber done
  · split at done
    · exact of_acceptNumber done
    · cases done
  · cases done

theorem of_normalizeBoolean (done : normalizeBoolean value = .ok normal) : Stores .boolean normal := by
  unfold normalizeBoolean at done
  split at done
  · cases done
    exact .bool
  · cases done
    exact .bool
  · split at done
    · cases done
      exact .bool
    · cases done
  · cases done

theorem of_toCell {moment : Moment} {format : DateFormat} {cell : Value}
    (done : moment.toCell format.includeTime = .ok cell) : Stores (.date format) cell := by
  have utc := isUtc_of_toCell done
  unfold Moment.toCell at done
  cases shown : format.includeTime with
  | false =>
    rw [shown] at done
    cases moment with
    | wholeDay date =>
      cases done
      exact .day shown
    | point time =>
      dsimp only at done
      split at done
      · cases done
        exact .day shown
      · cases done
  | true =>
    rw [shown] at done
    cases moment with
    | wholeDay date =>
      cases done
      exact .instant shown utc
    | point time =>
      dsimp only at done
      split at done
      · cases done
        exact .instant shown utc
      · cases done

theorem of_normalizeDate {format : DateFormat} (done : normalizeDate format value = .ok normal) :
    Stores (.date format) normal := by
  unfold normalizeDate at done
  split at done
  · cases done
    exact .null rfl
  · exact of_toCell (orFail_eq_ok.1 done)
  · exact of_toCell (orFail_eq_ok.1 done)
  · split at done
    · exact of_toCell (orFail_eq_ok.1 done)
    · cases done
    · cases done
  · cases done

theorem of_normalizeFiles (done : normalizeFiles value = .ok normal) : Stores .file normal := by
  unfold normalizeFiles at done
  split at done
  · cases done
    exact .files nofun
  · split at done
    · cases done
    · rename_i named
      cases done
      exact .files (by simpa using named)
  · cases done

theorem of_normalizeChoice {choices : List SelectOption} {field : String}
    (done : normalizeChoice (.singleSelect choices) field value = .ok normal) :
    Stores (.singleSelect choices) normal := by
  unfold normalizeChoice at done
  split at done
  · cases done
    exact .null rfl
  · obtain ⟨chosen, checked, rfl⟩ := map_eq_ok.1 done
    obtain ⟨known, rfl⟩ := checkChoice_eq_ok.1 checked
    exact .option known
  · cases done

theorem of_normalizeChoices {choices : List SelectOption} {field : String}
    (done : normalizeChoices (.multipleSelect choices) field value = .ok normal) :
    Stores (.multipleSelect choices) normal := by
  have options (chosen : List OptionId) {checked : Value}
      (done : (do return .options (firstOccurrences
        (← chosen.mapM (checkChoice (.multipleSelect choices) field)))) = (.ok checked : Normal)) :
      Stores (.multipleSelect choices) checked := by
    obtain ⟨held, taken, same⟩ := bind_eq_ok.1 done
    obtain ⟨known, rfl⟩ := mapM_checkChoice.1 taken
    cases same
    exact .options (nodup_firstOccurrences _) fun id member => known id (mem_firstOccurrences.1 member)
  unfold normalizeChoices at done
  dsimp only at done
  split at done
  · exact options _ done
  · exact options _ done
  · exact options _ done
  · cases done

theorem of_normalizeLinks {target : TableId} (done : normalizeLinks value = .ok normal) :
    Stores (.linkRow target) normal := by
  unfold normalizeLinks at done
  split at done
  · cases done
    exact .links List.nodup_nil
  · cases done
    exact .links (nodup_firstOccurrences _)
  · cases done

/-- What a cell becomes is one that its column stores. -/
theorem of_normalize {type : CellType} {field : String}
    (done : type.normalize field value = .ok normal) : type.Stores normal := by
  unfold CellType.normalize at done
  cases type with
  | text initial =>
    rcases of_normalizeText done with rfl | ⟨content, rfl⟩
    · exact .null rfl
    · exact .text
  | longText =>
    rcases of_normalizeText done with rfl | ⟨content, rfl⟩
    · exact .null rfl
    · exact .longText
  | ai prompt =>
    rcases of_normalizeText done with rfl | ⟨content, rfl⟩
    · exact .null rfl
    · exact .ai
  | phoneNumber => exact of_normalizePhoneNumber done
  | number format => exact of_normalizeNumber done
  | boolean => exact of_normalizeBoolean done
  | date format => exact of_normalizeDate done
  | file => exact of_normalizeFiles done
  | singleSelect choices => exact of_normalizeChoice done
  | multipleSelect choices => exact of_normalizeChoices done
  | linkRow target => exact of_normalizeLinks done

theorem normalize_eq {type : CellType} (stores : type.Stores value) (field : String) :
    type.normalize field value = .ok value := by
  cases stores with
  | null nullable => cases type <;> first | rfl | cases nullable
  | text | longText | ai | bool => rfl
  | phoneNumber fits plain =>
    change (if _ then _ else if _ then _ else _) = _
    rw [if_neg (Nat.not_lt.2 fits), if_pos plain]
  | @number format amount rounded signed =>
    change acceptNumber format amount = _
    have accepted : ¬ (amount.negative && !amount.isZero && !format.negative) = true := by
      cases below : amount.negative with
      | false => simp
      | true => rcases signed below with zero | allowed <;> simp [*]
    have same : amount.round format.places.toNat = amount := dif_pos rounded
    unfold acceptNumber
    rw [if_neg accepted, same]
  | @day format date untimed =>
    change orFail (.ok (if format.includeTime then _ else _)) = _
    rw [untimed]
    rfl
  | @instant format time timed utc =>
    have kept : (Moment.point time).toCell format.includeTime = .ok (.instant time) := by
      unfold Moment.toCell
      dsimp only
      rw [Instant.toUtc?_of_utc utc, timed]
      rfl
    exact orFail_eq_ok.2 kept
  | @files attachments named =>
    have all : attachments.find? (·.name.isEmpty) = none := by simpa using named
    change normalizeFiles (.files attachments) = _
    unfold normalizeFiles
    dsimp only
    rw [all]
  | option known => exact map_eq_ok.2 ⟨_, checkChoice_eq_ok.2 ⟨known, rfl⟩, rfl⟩
  | options distinct known =>
    refine bind_eq_ok.2 ⟨_, mapM_checkChoice.2 ⟨known, rfl⟩, ?_⟩
    rw [firstOccurrences_of_nodup distinct]
    rfl
  | links distinct =>
    change Except.ok (Value.links (firstOccurrences _)) = _
    rw [firstOccurrences_of_nodup distinct]

theorem initial (type : CellType) : type.Stores type.spec.initial := by
  cases type with
  | text initial =>
    cases initial with
    | none => exact .null rfl
    | some content => exact .text
  | boolean => exact .bool
  | file => exact .files nofun
  | multipleSelect choices => exact .options List.nodup_nil nofun
  | linkRow target => exact .links List.nodup_nil
  | longText | number _ | date _ | singleSelect _ | phoneNumber | ai _ => exact .null rfl

end CellType.Stores

/-- Normalizing leaves exactly those cells as they are that a column stores. -/
theorem Field.normalize_eq_self {field : Field} {value : Value} :
    field.normalize value = .ok value ↔ field.type.Stores value := by
  constructor
  · exact CellType.Stores.of_normalize
  · intro stores
    exact stores.normalize_eq field.name

end Tabula
