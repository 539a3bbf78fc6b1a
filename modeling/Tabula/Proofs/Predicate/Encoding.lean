import Tabula.Predicate.Encoding
import Tabula.Proofs.Bytes
import Tabula.Proofs.Decimal.Normal

/-!
The bytes of restrictions: whatever follows them, they tell the restriction that they are of, as far
as it matters. Each part of an encoding ends where its own bytes say, so that what stands behind it
cannot be taken for a piece of it.
-/
namespace Tabula

def TextFits (text : String) : Prop := text.toUTF8.data.toList.length ≤ Encoding.lengthLimit

namespace Encoding

variable {rest rest' : Bytes}

theorem wordBytes_append {left right : UInt64} :
    wordBytes left ++ rest = wordBytes right ++ rest' ↔ left = right ∧ rest = rest' := by
  unfold wordBytes
  rw [bigEndian_append_iff left.toNat_lt right.toNat_lt, UInt64.toNat_inj]

theorem idBytes_append {entity : Entity} {left right : Id entity} :
    idBytes left ++ rest = idBytes right ++ rest' ↔ left = right ∧ rest = rest' := by
  unfold idBytes
  rw [wordBytes_append]
  cases left
  cases right
  rw [Id.mk.injEq]

theorem lengthBytes_append {left right : Nat} (first : left ≤ lengthLimit)
    (second : right ≤ lengthLimit) :
    lengthBytes left ++ rest = lengthBytes right ++ rest' ↔ left = right ∧ rest = rest' := by
  unfold lengthBytes
  have limit : lengthLimit < 256 ^ 4 := by decide
  rw [Nat.min_eq_left first, Nat.min_eq_left second,
    bigEndian_append_iff (Nat.lt_of_le_of_lt first limit) (Nat.lt_of_le_of_lt second limit)]

theorem toUTF8_inj {left right : String}
    (same : left.toUTF8.data.toList = right.toUTF8.data.toList) : left = right := by
  rw [← String.toByteArray_inj]
  exact ByteArray.ext (Array.toList_inj.1 same)

theorem textBytes_append {left right : String} (first : TextFits left) (second : TextFits right) :
    textBytes left ++ rest = textBytes right ++ rest' ↔ left = right ∧ rest = rest' := by
  unfold textBytes
  dsimp only
  rw [List.append_assoc, List.append_assoc, lengthBytes_append first second]
  constructor
  · intro given
    obtain ⟨lengths, equal⟩ := given
    obtain ⟨front, back⟩ := List.append_inj equal lengths
    exact ⟨toUTF8_inj front, back⟩
  · intro given
    obtain ⟨rfl, rfl⟩ := given
    exact ⟨rfl, rfl⟩

theorem flagByte_inj {left right : Bool} : flagByte left = flagByte right ↔ left = right := by
  cases left <;> cases right <;> decide

theorem dayBytes_append {left right : Day} :
    bigEndianInt 4 left.julian ++ rest = bigEndianInt 4 right.julian ++ rest' ↔
      left = right ∧ rest = rest' := by
  constructor
  · intro equal
    obtain ⟨low, back⟩ := bigEndianInt_append_inj equal
    refine ⟨?_, back⟩
    have numbers : left.number = right.number := by
      have := left.first_le
      have := left.le_last
      have := right.first_le
      have := right.le_last
      unfold Day.julian at low
      simp only [Day.first, Day.last] at *
      omega
    cases left
    cases right
    cases numbers
    rfl
  · intro given
    obtain ⟨rfl, rfl⟩ := given
    rfl

theorem instantBytes_append {left right : Instant} :
    bigEndianInt 16 left.nanos ++ rest = bigEndianInt 16 right.nanos ++ rest' ↔
      left.sameAs right = true ∧ rest = rest' := by
  unfold Instant.sameAs
  rw [beq_iff_eq]
  constructor
  · intro equal
    obtain ⟨low, back⟩ := bigEndianInt_append_inj equal
    refine ⟨?_, back⟩
    have := left.offset_le
    have := left.first_le
    have := left.lt_end
    have := right.offset_le
    have := right.first_le
    have := right.lt_end
    simp only [Day.first, Day.last, Instant.nanosPerDay, Instant.nanosPerSecond,
      Instant.offsetLimit] at *
    omega
  · intro given
    obtain ⟨same, rfl⟩ := given
    rw [same]

theorem normalBytes_append {left right : Decimal}
    (equal : UInt8.ofNat left.scale :: (if left.negative then 0x80 else 0) ::
        ((bigEndian 12 left.mantissa).reverse ++ rest) =
      UInt8.ofNat right.scale :: (if right.negative then 0x80 else 0) ::
        ((bigEndian 12 right.mantissa).reverse ++ rest')) :
    left = right ∧ rest = rest' := by
  obtain ⟨places, equal⟩ := List.cons.inj equal
  obtain ⟨signs, equal⟩ := List.cons.inj equal
  obtain ⟨front, back⟩ := List.append_inj equal (by
    rw [List.length_reverse, List.length_reverse, length_bigEndian, length_bigEndian])
  have scales : left.scale = right.scale := by
    have limit : Decimal.maxScale < 256 := by decide
    have low := ofNat_inj places
    rwa [Nat.mod_eq_of_lt (Nat.lt_of_le_of_lt left.scale_le limit),
      Nat.mod_eq_of_lt (Nat.lt_of_le_of_lt right.scale_le limit)] at low
  have mantissas : left.mantissa = right.mantissa := by
    have whole (number : Decimal) : number.mantissa % 256 ^ 12 = number.mantissa :=
      Nat.mod_eq_of_lt number.mantissa_lt
    have low := bigEndian_inj (List.reverse_inj.1 front)
    rwa [whole left, whole right] at low
  have negatives : left.negative = right.negative := by
    cases first : left.negative <;> cases second : right.negative <;> simp_all
  refine ⟨?_, back⟩
  cases left
  cases right
  cases scales
  cases mantissas
  cases negatives
  rfl

theorem decimalBytes_append {left right : Decimal} :
    decimalBytes left ++ rest = decimalBytes right ++ rest' ↔
      left.sameAs right = true ∧ rest = rest' := by
  rw [← Decimal.normalize_eq_iff]
  constructor
  · intro equal
    obtain ⟨_, equal⟩ := List.cons.inj equal
    obtain ⟨_, equal⟩ := List.cons.inj equal
    exact normalBytes_append equal
  · intro given
    obtain ⟨same, rfl⟩ := given
    unfold decimalBytes
    rw [same]

/-- Items that are told apart one by one are told apart in lists of one length. -/
theorem flatMap_append {α : Type} {item : α → Bytes} {lefts rights : List α}
    (each : ∀ left ∈ lefts, ∀ right ∈ rights, ∀ rest rest',
      item left ++ rest = item right ++ rest' ↔ left = right ∧ rest = rest')
    (lengths : lefts.length = rights.length) :
    lefts.flatMap item ++ rest = rights.flatMap item ++ rest' ↔ lefts = rights ∧ rest = rest' := by
  induction lefts generalizing rights with
  | nil =>
    cases List.eq_nil_of_length_eq_zero lengths.symm
    rw [List.flatMap_nil, List.nil_append, List.nil_append]
    exact (and_iff_right rfl).symm
  | cons left lefts ih =>
    cases rights with
    | nil => cases lengths
    | cons right rights =>
      have later := ih (fun other inside next among =>
        each other (List.mem_cons_of_mem _ inside) next (List.mem_cons_of_mem _ among))
          (Nat.succ.inj lengths)
      rw [List.flatMap_cons, List.flatMap_cons, List.append_assoc, List.append_assoc,
        each left List.mem_cons_self right List.mem_cons_self, later, List.cons.injEq, and_assoc]

theorem listBytes_append {α : Type} {item : α → Bytes} {lefts rights : List α}
    (each : ∀ left ∈ lefts, ∀ right ∈ rights, ∀ rest rest',
      item left ++ rest = item right ++ rest' ↔ left = right ∧ rest = rest')
    (first : lefts.length ≤ lengthLimit) (second : rights.length ≤ lengthLimit) :
    listBytes item lefts ++ rest = listBytes item rights ++ rest' ↔
      lefts = rights ∧ rest = rest' := by
  unfold listBytes
  rw [List.append_assoc, List.append_assoc, lengthBytes_append first second]
  constructor
  · intro given
    obtain ⟨lengths, equal⟩ := given
    exact (flatMap_append each lengths).1 equal
  · intro given
    obtain ⟨rfl, rfl⟩ := given
    exact ⟨rfl, rfl⟩

theorem idsBytes_append {entity : Entity} {lefts rights : List (Id entity)}
    (first : lefts.length ≤ lengthLimit) (second : rights.length ≤ lengthLimit) :
    listBytes idBytes lefts ++ rest = listBytes idBytes rights ++ rest' ↔
      lefts = rights ∧ rest = rest' :=
  listBytes_append (fun _ _ _ _ _ _ => idBytes_append) first second

end Encoding

def Attachment.Fits (file : Attachment) : Prop := TextFits file.name ∧ TextFits file.visibleName

/-- The lengths of all texts and lists in a value can be written. -/
def Value.Fits : Value → Prop
  | .text content => TextFits content
  | .files attachments =>
    attachments.length ≤ Encoding.lengthLimit ∧ ∀ file ∈ attachments, file.Fits
  | .links rows => rows.length ≤ Encoding.lengthLimit
  | .options chosen => chosen.length ≤ Encoding.lengthLimit
  | _ => True

namespace Encoding

variable {rest rest' : Bytes}

theorem attachmentBytes_append {left right : Attachment} (first : left.Fits) (second : right.Fits) :
    attachmentBytes left ++ rest = attachmentBytes right ++ rest' ↔ left = right ∧ rest = rest' := by
  unfold attachmentBytes
  rw [List.append_assoc, List.append_assoc, textBytes_append first.1 second.1,
    textBytes_append first.2 second.2, ← and_assoc]
  cases left
  cases right
  rw [Attachment.mk.injEq]

theorem valueBytes_append {left right : Value} (first : left.Fits) (second : right.Fits) :
    valueBytes left ++ rest = valueBytes right ++ rest' ↔
      left.sameAs right = true ∧ rest = rest' := by
  cases left <;> cases right
  case null.null => simp [valueBytes, Value.sameAs]
  case bool.bool => simp [valueBytes, Value.sameAs, flagByte_inj]
  case number.number => simp [valueBytes, Value.sameAs, decimalBytes_append]
  case text.text => simp [valueBytes, Value.sameAs, textBytes_append first second]
  case day.day => simp [valueBytes, Value.sameAs, dayBytes_append]
  case instant.instant => simp [valueBytes, Value.sameAs, instantBytes_append]
  case files.files lefts rights =>
    have each : ∀ left ∈ lefts, ∀ right ∈ rights, ∀ rest rest' : Bytes,
        attachmentBytes left ++ rest = attachmentBytes right ++ rest' ↔ left = right ∧ rest = rest' :=
      fun left inside right among _ _ =>
        attachmentBytes_append (first.2 left inside) (second.2 right among)
    simp [valueBytes, Value.sameAs, listBytes_append each first.1 second.1]
  case links.links => simp [valueBytes, Value.sameAs, idsBytes_append first second]
  case option.option => simp [valueBytes, Value.sameAs, idBytes_append]
  case options.options => simp [valueBytes, Value.sameAs, idsBytes_append first second]
  all_goals simp [valueBytes, Value.sameAs]

end Encoding

def Moment.Same : Moment → Moment → Prop
  | .wholeDay left, .wholeDay right => left = right
  | .point left, .point right => left.sameAs right = true
  | _, _ => False

namespace CellTest

/-- Equality of tests: numbers by size, instants as points in time. -/
def Same : CellTest → CellTest → Prop
  | equals left, equals right | notEquals left, notEquals right => left.sameAs right = true
  | higherThan left, higherThan right | lowerThan left, lowerThan right => left.sameAs right = true
  | date relation target, date relation' target' => relation = relation' ∧ target.Same target'
  | left, right => left = right

def Fits : CellTest → Prop
  | equals expected | notEquals expected => expected.Fits
  | contains needle | containsNot needle | filenameContains needle => TextFits needle
  | _ => True

end CellTest

namespace Encoding

variable {rest rest' : Bytes}

theorem momentBytes_append {left right : Moment} :
    valueBytes (momentValue left) ++ rest = valueBytes (momentValue right) ++ rest' ↔
      left.Same right ∧ rest = rest' := by
  cases left <;> cases right <;>
    simp [momentValue, valueBytes, Moment.Same, dayBytes_append, instantBytes_append]

theorem relationByte_inj {left right : DateRelation} :
    relationByte left = relationByte right ↔ left = right := by
  cases left <;> cases right <;> decide

theorem systemByte_inj {left right : SystemColumn} :
    systemByte left = systemByte right ↔ left = right := by
  cases left <;> cases right <;> decide

theorem columnBytes_append {left right : ColumnKey} :
    columnBytes left ++ rest = columnBytes right ++ rest' ↔ left = right ∧ rest = rest' := by
  cases left <;> cases right <;> simp [columnBytes, idBytes_append, systemByte_inj]

theorem testBytes_append {left right : CellTest} (first : left.Fits) (second : right.Fits) :
    testBytes left ++ rest = testBytes right ++ rest' ↔ left.Same right ∧ rest = rest' := by
  cases left <;> cases right
  case equals.equals => simp [testBytes, CellTest.Same, valueBytes_append first second]
  case notEquals.notEquals => simp [testBytes, CellTest.Same, valueBytes_append first second]
  case contains.contains => simp [testBytes, CellTest.Same, textBytes_append first second]
  case containsNot.containsNot => simp [testBytes, CellTest.Same, textBytes_append first second]
  case filenameContains.filenameContains =>
    simp [testBytes, CellTest.Same, textBytes_append first second]
  case date.date =>
    simp [testBytes, CellTest.Same, relationByte_inj, momentBytes_append, and_assoc]
  all_goals simp [testBytes, CellTest.Same, valueBytes, decimalBytes_append, wordBytes_append,
    flagByte_inj, idBytes_append]

end Encoding

mutual

def Predicate.Same : Predicate → Predicate → Prop
  | .everything, .everything | .nothing, .nothing => True
  | .allOf left, .allOf right | .anyOf left, .anyOf right => SameParts left right
  | .not left, .not right => left.Same right
  | .test column test, .test column' test' => column = column' ∧ test.Same test'
  | .rowIs left, .rowIs right => left = right
  | _, _ => False

def SameParts : List Predicate → List Predicate → Prop
  | [], [] => True
  | left :: lefts, right :: rights => left.Same right ∧ SameParts lefts rights
  | _, _ => False

end

mutual

def Predicate.Fits : Predicate → Prop
  | .allOf parts | .anyOf parts => parts.length ≤ Encoding.lengthLimit ∧ PartsFit parts
  | .not part => part.Fits
  | .test _ test => test.Fits
  | .everything | .nothing | .rowIs _ => True

def PartsFit : List Predicate → Prop
  | [] => True
  | part :: parts => part.Fits ∧ PartsFit parts

end

namespace Encoding

mutual

theorem predicateBytes_append (left right : Predicate) (first : left.Fits) (second : right.Fits)
    (rest rest' : Bytes) :
    predicateBytes left ++ rest = predicateBytes right ++ rest' ↔
      left.Same right ∧ rest = rest' := by
  cases left <;> cases right
  case allOf.allOf lefts rights =>
    have parts := partBytes_append lefts rights first.2 second.2 rest rest'
    simp [predicateBytes, Predicate.Same, lengthBytes_append first.1 second.1, parts]
  case anyOf.anyOf lefts rights =>
    have parts := partBytes_append lefts rights first.2 second.2 rest rest'
    simp [predicateBytes, Predicate.Same, lengthBytes_append first.1 second.1, parts]
  case not.not left right =>
    have part := predicateBytes_append left right first second rest rest'
    simpa [predicateBytes, Predicate.Same] using part
  case test.test column test column' test' =>
    simp [predicateBytes, Predicate.Same, columnBytes_append, testBytes_append first second, and_assoc]
  all_goals simp [predicateBytes, Predicate.Same, idBytes_append]

theorem partBytes_append (lefts rights : List Predicate) (first : PartsFit lefts)
    (second : PartsFit rights) (rest rest' : Bytes) :
    (lefts.length = rights.length ∧ partBytes lefts ++ rest = partBytes rights ++ rest') ↔
      SameParts lefts rights ∧ rest = rest' := by
  cases lefts <;> cases rights
  case nil.nil => simp [partBytes, SameParts]
  case cons.cons left lefts right rights =>
    have here := predicateBytes_append left right first.1 second.1
    have later := partBytes_append lefts rights first.2 second.2 rest rest'
    rw [SameParts, and_assoc, ← later, partBytes, partBytes, List.append_assoc, List.append_assoc,
      here, List.length_cons, List.length_cons, Nat.add_right_cancel_iff, and_left_comm]
  all_goals simp [partBytes, SameParts]

end

/-- Restrictions have the same bytes exactly when they are equal. -/
theorem predicateBytes_inj {left right : Predicate} (first : left.Fits) (second : right.Fits) :
    predicateBytes left = predicateBytes right ↔ left.Same right := by
  have alone := predicateBytes_append left right first second [] []
  rwa [List.append_nil, List.append_nil, and_iff_left rfl] at alone

end Encoding
end Tabula
