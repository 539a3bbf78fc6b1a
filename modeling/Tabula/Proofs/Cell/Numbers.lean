import Tabula.Cell.Filters
import Tabula.Predicate.Eval
import Tabula.Proofs.Cell.Canonical
import Tabula.Proofs.Decimal.Next
import Tabula.Proofs.Decimal.Text

/-!
Numbers as their fields show them. What is shown denotes the cell, and the filter for it finds the cell; it
has all the fraction digits of the field where the mantissa has room for them.
-/
namespace Tabula
open Text

section
variable {field : Field} {format : NumberFormat} {amount : Decimal}

theorem Field.checkedText_number (own : field.type = .number format)
    (coarse : format.places.toNat ≤ Decimal.maxScale) (fewer : amount.scale ≤ format.places.toNat) :
    ∃ text places, field.checkedText (.number amount) = .ok (some text) ∧
      amount.Spells places text.toList ∧ amount.Shows format.places.toNat places := by
  obtain ⟨shown, size, counted, spells⟩ := Decimal.exists_shown fewer coarse
  have fits : amount.fitsText format.places.toNat = true := by
    unfold Decimal.fitsText
    rw [size, decide_eq_true_eq]
    exact Nat.le_trans counted.within (Nat.le_trans coarse (by decide))
  refine ⟨_, shown, ?_, spells, counted⟩
  refine unlessFault_eq_ok.2 ⟨?_, ?_⟩
  · unfold Field.textFault?
    rw [own]
    simp [CellType.textFault?, fits]
  · unfold Field.searchText
    rw [own]
    rfl

/-- The filter for a text that spells a number finds the cells that hold the number. -/
theorem Field.equal_of_spells (own : field.type = .number format) {text : String} {places : Nat}
    (spells : amount.Spells places text.toList) (coarse : places ≤ Decimal.maxScale)
    (room : amount.mantissa * 10 ^ (places - amount.scale) < Decimal.mantissaLimit) :
    ∃ read, field.filterTest .equal text = .ok (.equals (.number read)) ∧
      field.checkedAccepts (.equals (.number read)) (.number amount) = .ok true := by
  obtain ⟨read, found, same⟩ := spells.exists_read coarse room
  have trimmed : trimChars text.toList = text.toList := by
    apply trimChars_eq_self
    · intro c first
      exact spells.solid c (List.mem_of_mem_head? first)
    · intro c last
      exact spells.solid c (List.mem_of_mem_getLast? last)
  have number : readNumber text = some read := by
    unfold readNumber Decimal.ofText? trim
    rw [String.toList_ofList, trimmed, found]
  refine ⟨read, ?_, unlessFault_eq_ok.2 ⟨rfl, same⟩⟩
  unfold Field.filterTest
  rw [own]
  change Except.ok (orNever _ (readNumber text)) = _
  rw [number]
  rfl

/-- A cell of numbers is empty or shows a numeral that denotes what is stored, and the filter for this
numeral finds the cell. The numeral has the fraction digits of the field exactly if the mantissa has room for
them, otherwise as many of them as it has room for. -/
theorem shown_numbers_read_back {value cell : Value} (own : field.kind = .stored (.number format))
    (coarse : format.places.toNat ≤ Decimal.maxScale) (done : field.normalize value = .ok cell) :
    cell = .null ∧ field.checkedText cell = .ok none ∨
      ∃ amount text places test, cell = .number amount ∧
        field.checkedText cell = .ok (some text) ∧ amount.Spells places text.toList ∧
        amount.Shows format.places.toNat places ∧
        (amount.Spells format.places.toNat text.toList ↔
          amount.mantissa * 10 ^ (format.places.toNat - amount.scale) < Decimal.mantissaLimit) ∧
        field.filterTest .equal text = .ok test ∧ field.checkedAccepts test cell = .ok true := by
  have type : field.type = .number format := by
    unfold Field.type
    rw [own]
    rfl
  have stores : field.type.Stores cell := CellType.Stores.of_normalize done
  rw [type] at stores
  cases stores with
  | null nullable =>
    refine .inl ⟨rfl, unlessFault_eq_ok.2 ⟨?_, ?_⟩⟩
    · unfold Field.textFault?
      rw [type]
      rfl
    · unfold Field.searchText
      rw [type]
      rfl
  | @number _ amount fewer signed =>
    obtain ⟨text, places, written, spells, counted⟩ := Field.checkedText_number type coarse fewer
    obtain ⟨read, compiled, accepted⟩ :=
      Field.equal_of_spells type spells (Nat.le_trans counted.within coarse) counted.room
    refine .inr ⟨amount, text, places, _, rfl, written, spells, counted, ?_, compiled, accepted⟩
    rw [← counted.eq_asked]
    constructor
    · intro full
      exact spells.unique full
    · intro all
      rwa [all] at spells

end

def priceField : Field := ⟨⟨4⟩, ⟨3⟩, "price", 1, false, .stored (.number ⟨2, false⟩)⟩

def finePrice : Decimal := ⟨false, 123450, 4, by decide, by decide⟩

def price : Decimal := ⟨false, 1235, 2, by decide, by decide⟩

theorem price_reads_back : priceField.normalize (.number finePrice) = .ok (.number price) ∧
    ∃ text test, priceField.checkedText (.number price) = .ok (some text) ∧
      price.Spells 2 text.toList ∧ priceField.filterTest .equal text = .ok test ∧
      priceField.checkedAccepts test (.number price) = .ok true := by
  have done : priceField.normalize (.number finePrice) = .ok (.number price) := rfl
  refine ⟨done, ?_⟩
  have coarse : (2 : UInt32).toNat ≤ Decimal.maxScale := by decide
  rcases @shown_numbers_read_back priceField ⟨2, false⟩ _ _ rfl coarse done with
    ⟨null, -⟩ | ⟨amount, text, places, test, same, written, -, -, full, compiled, accepted⟩
  · cases null
  · cases same
    exact ⟨text, test, written, full.2 (by decide), compiled, accepted⟩

/-- Not every number is shown with all the fraction digits: the largest has room for none. -/
theorem not_all_numbers_shown_in_full :
    ¬ ∀ (field : Field) (format : NumberFormat) (value : Value) (amount : Decimal) (text : String),
      field.kind = .stored (.number format) → format.places.toNat ≤ Decimal.maxScale →
        field.normalize value = .ok (.number amount) →
        field.checkedText (.number amount) = .ok (some text) →
        amount.Spells format.places.toNat text.toList := by
  intro refuted
  have own : priceField.type = .number ⟨2, false⟩ := rfl
  have coarse : (2 : UInt32).toNat ≤ Decimal.maxScale := by decide
  have fewer : Decimal.largest.scale ≤ (2 : UInt32).toNat := by decide
  obtain ⟨text, places, written, spells, counted⟩ := Field.checkedText_number own coarse fewer
  have two := refuted priceField ⟨2, false⟩ (.number .largest) .largest text rfl coarse rfl written
  have room : Decimal.largest.mantissa * 10 ^ 2 < Decimal.mantissaLimit :=
    counted.eq_asked.1 (spells.unique two)
  exact absurd room (by decide)

end Tabula
