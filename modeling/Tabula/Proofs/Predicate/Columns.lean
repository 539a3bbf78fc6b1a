import Tabula.Predicate.Eval

/-!
The columns that a restriction tests. Of rows that read alike at these it accepts all or none, and
breaks off alike.
-/
namespace Tabula

mutual

def Predicate.columns : Predicate → List ColumnKey
  | .allOf parts | .anyOf parts => partColumns parts
  | .not part => part.columns
  | .test column _ => [column]
  | .everything | .nothing | .rowIs _ => []

def partColumns : List Predicate → List ColumnKey
  | [] => []
  | part :: parts => part.columns ++ partColumns parts

end

/-- Tests find the same at a column of either row, each seen through its schema. -/
structure ColumnKey.ReadsAlike (left : Schema) (row : Row) (right : Schema) (other : Row)
    (key : ColumnKey) : Prop where
  accepts : ∀ test : CellTest, test.acceptsColumn left row key = test.acceptsColumn right other key
  fault? : ∀ test : CellTest, test.columnFault? left row key = test.columnFault? right other key

section
variable {key : ColumnKey} {parts : List Predicate}

theorem mem_partColumns : key ∈ partColumns parts ↔ ∃ part ∈ parts, key ∈ part.columns := by
  induction parts with
  | nil => simp [partColumns]
  | cons part rest ih => simp [partColumns, ih]

theorem partColumns_append (front behind : List Predicate) :
    partColumns (front ++ behind) = partColumns front ++ partColumns behind := by
  induction front with
  | nil => rfl
  | cons part rest ih => simp [partColumns, ih]

namespace Predicate

theorem mem_columns_all (member : key ∈ (all parts).columns) : ∃ part ∈ parts, key ∈ part.columns := by
  match parts with
  | [] => cases member
  | [part] => exact ⟨part, List.mem_singleton_self _, member⟩
  | _ :: _ :: _ => exact mem_partColumns.1 member

theorem mem_columns_any (member : key ∈ (any parts).columns) : ∃ part ∈ parts, key ∈ part.columns := by
  match parts with
  | [] => cases member
  | [part] => exact ⟨part, List.mem_singleton_self _, member⟩
  | _ :: _ :: _ => exact mem_partColumns.1 member

theorem mem_columns_both {left right : Predicate} (member : key ∈ (left.both right).columns) :
    key ∈ left.columns ∨ key ∈ right.columns := by
  unfold both at member
  split at member
  · exact .inr member
  · exact .inl member
  · cases member
  · cases member
  · simpa [columns, partColumns_append] using member
  · simpa [columns, partColumns, partColumns_append] using member
  · simpa [columns, partColumns] using member

end Predicate
end

section
variable {left right : Schema} {row other : Row}

mutual

theorem Predicate.accepts_congr (predicate : Predicate) (sameId : row.id = other.id)
    (alike : ∀ key ∈ predicate.columns, key.ReadsAlike left row right other) :
    predicate.accepts left row = predicate.accepts right other := by
  cases predicate
  case everything => rfl
  case nothing => rfl
  case allOf parts => exact allAccept_congr parts sameId alike
  case anyOf parts => exact anyAccepts_congr parts sameId alike
  case not part => exact congrArg Bool.not (part.accepts_congr sameId alike)
  case test column test => exact (alike column (List.mem_singleton_self _)).accepts test
  case rowIs id => simp only [Predicate.accepts, sameId]

theorem allAccept_congr (parts : List Predicate) (sameId : row.id = other.id)
    (alike : ∀ key ∈ partColumns parts, key.ReadsAlike left row right other) :
    allAccept left row parts = allAccept right other parts := by
  cases parts
  case nil => rfl
  case cons part rest =>
    obtain ⟨here, later⟩ := List.forall_mem_append.1 alike
    simp only [allAccept, part.accepts_congr sameId here, allAccept_congr rest sameId later]

theorem anyAccepts_congr (parts : List Predicate) (sameId : row.id = other.id)
    (alike : ∀ key ∈ partColumns parts, key.ReadsAlike left row right other) :
    anyAccepts left row parts = anyAccepts right other parts := by
  cases parts
  case nil => rfl
  case cons part rest =>
    obtain ⟨here, later⟩ := List.forall_mem_append.1 alike
    simp only [anyAccepts, part.accepts_congr sameId here, anyAccepts_congr rest sameId later]

end

mutual

theorem Predicate.fault?_congr (predicate : Predicate) (sameId : row.id = other.id)
    (alike : ∀ key ∈ predicate.columns, key.ReadsAlike left row right other) :
    predicate.fault? left row = predicate.fault? right other := by
  cases predicate
  case allOf parts => exact allFault?_congr parts sameId alike
  case anyOf parts => exact anyFault?_congr parts sameId alike
  case not part => exact part.fault?_congr sameId alike
  case test column test => exact (alike column (List.mem_singleton_self _)).fault? test
  all_goals rfl

-- Whether a part is reached depends on what those before it accept.
theorem allFault?_congr (parts : List Predicate) (sameId : row.id = other.id)
    (alike : ∀ key ∈ partColumns parts, key.ReadsAlike left row right other) :
    allFault? left row parts = allFault? right other parts := by
  cases parts
  case nil => rfl
  case cons part rest =>
    obtain ⟨here, later⟩ := List.forall_mem_append.1 alike
    simp only [allFault?, part.fault?_congr sameId here, part.accepts_congr sameId here,
      allFault?_congr rest sameId later]

theorem anyFault?_congr (parts : List Predicate) (sameId : row.id = other.id)
    (alike : ∀ key ∈ partColumns parts, key.ReadsAlike left row right other) :
    anyFault? left row parts = anyFault? right other parts := by
  cases parts
  case nil => rfl
  case cons part rest =>
    obtain ⟨here, later⟩ := List.forall_mem_append.1 alike
    simp only [anyFault?, part.fault?_congr sameId here, part.accepts_congr sameId here,
      anyFault?_congr rest sameId later]

end
end

end Tabula
