import Tabula.Cell.Normal
import Tabula.Proofs.Calendar.Reader
import Tabula.Proofs.Except

/-! Cells are stored with their instants in UTC, where nothing lies behind the last day. -/
namespace Tabula
open Calendar

/-- No instant at another offset than that of UTC. -/
def Value.IsUtc : Value → Prop
  | .instant time => time.offset = 0
  | _ => True

theorem Instant.utcFault?_eq_none {time : Instant} (utc : time.offset = 0) :
    time.utcFault? = none := by
  have first := time.first_le
  have last := time.lt_end
  have held : (Instant.ofNanos? time.nanos 0).isSome = true := by
    unfold Instant.ofNanos?
    rw [utc] at first last
    rw [dif_pos ⟨by decide, first, last⟩]
    rfl
  unfold utcFault? toUtc? atOffset?
  rw [if_pos held]

theorem isUtc_initial (kind : FieldKind) : kind.spec.initial.IsUtc := by
  cases kind with
  | computed source result => trivial
  | stored type =>
    cases type with
    | text initial => cases initial <;> trivial
    | longText | number _ | boolean | date _ | file | singleSelect _ | multipleSelect _ | linkRow _
    | phoneNumber | ai _ => trivial

section
variable {value normal : Value}

theorem isUtc_of_normalizeText (done : normalizeText value = .ok normal) : normal.IsUtc := by
  unfold normalizeText at done
  split at done
  · cases done
    trivial
  · cases done
    trivial
  · cases done

theorem isUtc_of_normalizePhoneNumber (done : normalizePhoneNumber value = .ok normal) :
    normal.IsUtc := by
  unfold normalizePhoneNumber at done
  split at done
  · split at done
    · cases done
    · split at done
      · cases done
        trivial
      · cases done
  · exact isUtc_of_normalizeText done

theorem isUtc_of_acceptNumber {format : NumberFormat} {number : Decimal}
    (done : acceptNumber format number = .ok normal) : normal.IsUtc := by
  unfold acceptNumber at done
  split at done
  · cases done
  · cases done
    trivial

theorem isUtc_of_normalizeNumber {format : NumberFormat}
    (done : normalizeNumber format value = .ok normal) : normal.IsUtc := by
  unfold normalizeNumber at done
  split at done
  · cases done
    trivial
  · exact isUtc_of_acceptNumber done
  · split at done
    · exact isUtc_of_acceptNumber done
    · cases done
  · cases done

theorem isUtc_of_normalizeBoolean (done : normalizeBoolean value = .ok normal) : normal.IsUtc := by
  unfold normalizeBoolean at done
  split at done
  · cases done
    trivial
  · cases done
    trivial
  · split at done
    · cases done
      trivial
    · cases done
  · cases done

theorem isUtc_of_toCell {moment : Moment} {includeTime : Bool} {cell : Value}
    (done : moment.toCell includeTime = .ok cell) : cell.IsUtc := by
  cases moment with
  | wholeDay date =>
    cases done
    cases includeTime <;> trivial
  | point time =>
    unfold Moment.toCell at done
    dsimp only at done
    split at done
    · rename_i utc held
      cases done
      cases includeTime with
      | false => trivial
      | true => exact offset_of_ofNanos? held
    · cases done

theorem isUtc_of_normalizeDate {format : DateFormat} (done : normalizeDate format value = .ok normal) :
    normal.IsUtc := by
  unfold normalizeDate at done
  split at done
  · cases done
    trivial
  · exact isUtc_of_toCell (orFail_eq_ok.1 done)
  · exact isUtc_of_toCell (orFail_eq_ok.1 done)
  · split at done
    · exact isUtc_of_toCell (orFail_eq_ok.1 done)
    · cases done
    · cases done
  · cases done

theorem isUtc_of_normalizeFiles (done : normalizeFiles value = .ok normal) : normal.IsUtc := by
  unfold normalizeFiles at done
  split at done
  · cases done
    trivial
  · split at done
    · cases done
    · cases done
      trivial
  · cases done

theorem isUtc_of_normalizeChoice {type : CellType} {field : String}
    (done : normalizeChoice type field value = .ok normal) : normal.IsUtc := by
  unfold normalizeChoice at done
  split at done
  · cases done
    trivial
  · obtain ⟨chosen, _, rfl⟩ := map_eq_ok.1 done
    trivial
  · cases done

theorem isUtc_of_normalizeChoices {type : CellType} {field : String}
    (done : normalizeChoices type field value = .ok normal) : normal.IsUtc := by
  have options (chosen : List OptionId) {checked : Value}
      (done : (do return .options (firstOccurrences (← chosen.mapM (checkChoice type field)))) =
        (.ok checked : Normal)) : checked.IsUtc := by
    obtain ⟨held, _, same⟩ := bind_eq_ok.1 done
    cases same
    trivial
  unfold normalizeChoices at done
  dsimp only at done
  split at done
  · exact options _ done
  · exact options _ done
  · exact options _ done
  · cases done

theorem isUtc_of_normalizeLinks (done : normalizeLinks value = .ok normal) : normal.IsUtc := by
  unfold normalizeLinks at done
  split at done
  · cases done
    trivial
  · cases done
    trivial
  · cases done

theorem isUtc_of_normalize {field : Field} (done : field.normalize value = .ok normal) :
    normal.IsUtc := by
  unfold Field.normalize CellType.normalize at done
  split at done
  · exact isUtc_of_normalizeText done
  · exact isUtc_of_normalizeText done
  · exact isUtc_of_normalizeText done
  · exact isUtc_of_normalizePhoneNumber done
  · exact isUtc_of_normalizeNumber done
  · exact isUtc_of_normalizeBoolean done
  · exact isUtc_of_normalizeDate done
  · exact isUtc_of_normalizeFiles done
  · exact isUtc_of_normalizeChoice done
  · exact isUtc_of_normalizeChoices done
  · exact isUtc_of_normalizeLinks done

end

end Tabula
