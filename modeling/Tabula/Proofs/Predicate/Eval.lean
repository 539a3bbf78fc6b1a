import Tabula.Predicate.Eval
import Tabula.Proofs.Except

/-! What combined restrictions accept, and when evaluating them meets no fault. -/
namespace Tabula

variable {schema : Schema} {row : Row} {parts : List Predicate}

theorem allAccept_iff :
    allAccept schema row parts = true ↔ ∀ part ∈ parts, part.accepts schema row = true := by
  induction parts with
  | nil => simp [allAccept]
  | cons part parts ih => simp [allAccept, ih]

theorem anyAccepts_iff :
    anyAccepts schema row parts = true ↔ ∃ part ∈ parts, part.accepts schema row = true := by
  induction parts with
  | nil => simp [anyAccepts]
  | cons part parts ih => simp [anyAccepts, ih]

theorem Predicate.accepts_test {column : Column} (found : schema.column? column.id = some column)
    (test : CellTest) : (Predicate.test (.field column.id) test).accepts schema row =
      column.field.accepts test (row.cell column) := by
  unfold accepts CellTest.acceptsColumn
  dsimp only
  rw [found]

theorem Predicate.fault?_test {column : Column} (found : schema.column? column.id = some column)
    (test : CellTest) : (Predicate.test (.field column.id) test).fault? schema row =
      column.field.testFault? test (row.cell column) := by
  unfold fault? CellTest.columnFault?
  dsimp only
  rw [found]
  rfl

theorem allFault?_eq_none (sound : ∀ part ∈ parts, part.fault? schema row = none) :
    allFault? schema row parts = none := by
  induction parts with
  | nil => rfl
  | cons part parts ih =>
    have others := ih fun other inside => sound other (List.mem_cons_of_mem _ inside)
    rw [allFault?, sound part List.mem_cons_self, others, ite_self]
    rfl

theorem anyFault?_eq_none (sound : ∀ part ∈ parts, part.fault? schema row = none) :
    anyFault? schema row parts = none := by
  induction parts with
  | nil => rfl
  | cons part parts ih =>
    have others := ih fun other inside => sound other (List.mem_cons_of_mem _ inside)
    rw [anyFault?, sound part List.mem_cons_self, others, ite_self]
    rfl

/-- Of alternatives, the first that meets a fault is evaluated if none before it accepts. -/
theorem anyFault?_map_eq_some {α : Type} {make : α → Predicate} {items : List α} {fault : Fault} :
    anyFault? schema row (items.map make) = some fault ↔
      ∃ before item after, items = before ++ item :: after ∧
        (∀ other ∈ before,
          (make other).fault? schema row = none ∧ (make other).accepts schema row = false) ∧
        (make item).fault? schema row = some fault := by
  induction items with
  | nil =>
    constructor
    · intro met
      cases met
    · rintro ⟨before, item, after, split, _⟩
      cases before <;> cases split
  | cons item items ih =>
    rw [List.map_cons, anyFault?, exists_split_cons, ← ih]
    cases (make item).fault? schema row <;> cases (make item).accepts schema row <;> simp

theorem anyFault?_append_of_sound (others : List Predicate)
    (sound : ∀ part ∈ others, part.fault? schema row = none) :
    anyFault? schema row (parts ++ others) = anyFault? schema row parts := by
  induction parts with
  | nil => exact anyFault?_eq_none sound
  | cons part parts ih => rw [List.cons_append, anyFault?, anyFault?, ih]

namespace Predicate

theorem fault?_any_eq (parts : List Predicate) :
    (any parts).fault? schema row = anyFault? schema row parts := by
  match parts with
  | [] => rfl
  | [part] => simp [any, anyFault?]
  | _ :: _ :: _ => rfl

theorem accepts_all :
    (all parts).accepts schema row = true ↔ ∀ part ∈ parts, part.accepts schema row = true := by
  match parts with
  | [] => simp [all, accepts]
  | [part] => simp [all]
  | _ :: _ :: _ =>
    rw [all, accepts, allAccept_iff]
    all_goals simp

theorem accepts_any :
    (any parts).accepts schema row = true ↔ ∃ part ∈ parts, part.accepts schema row = true := by
  match parts with
  | [] => simp [any, accepts]
  | [part] => simp [any]
  | _ :: _ :: _ =>
    rw [any, accepts, anyAccepts_iff]
    all_goals simp

theorem fault?_all (sound : ∀ part ∈ parts, part.fault? schema row = none) :
    (all parts).fault? schema row = none := by
  match parts with
  | [] => rfl
  | [part] => exact sound part List.mem_cons_self
  | _ :: _ :: _ => exact allFault?_eq_none sound

theorem fault?_any (sound : ∀ part ∈ parts, part.fault? schema row = none) :
    (any parts).fault? schema row = none := by
  match parts with
  | [] => rfl
  | [part] => exact sound part List.mem_cons_self
  | _ :: _ :: _ => exact anyFault?_eq_none sound

end Predicate
end Tabula
