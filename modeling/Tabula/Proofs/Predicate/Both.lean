import Tabula.Proofs.Predicate.Eval

/-!
Restrictions that are put together one after the other, with the parts left out that decide nothing.
They accept what all parts accept. Where they are evaluated, the parts are so in turn, up to the first
one that does not accept.
-/
namespace Tabula

/-- The parts evaluate one after the other without a fault, as far as they come. -/
def InTurn (schema : Schema) (row : Row) (parts : List Predicate) : Prop :=
  ∀ before part behind, parts = before ++ part :: behind →
    (∀ other ∈ before, other.accepts schema row = true) → part.fault? schema row = none

section
variable {schema : Schema} {row : Row}

theorem allAccept_append (left right : List Predicate) :
    allAccept schema row (left ++ right) =
      (allAccept schema row left && allAccept schema row right) := by
  induction left with
  | nil => rfl
  | cons part parts ih => rw [List.cons_append, allAccept, allAccept, ih, Bool.and_assoc]

theorem allFault?_append (left right : List Predicate) :
    allFault? schema row (left ++ right) =
      (allFault? schema row left).or
        (if allAccept schema row left then allFault? schema row right else none) := by
  induction left with
  | nil => rfl
  | cons part parts ih =>
    rw [List.cons_append, allFault?, allFault?, allAccept, ih, Option.or_assoc]
    cases part.accepts schema row <;> rfl

theorem inTurn_cons {part : Predicate} {parts : List Predicate} :
    InTurn schema row (part :: parts) ↔
      part.fault? schema row = none ∧ (part.accepts schema row = true → InTurn schema row parts) := by
  constructor
  · intro turn
    refine ⟨turn [] part parts rfl nofun, ?_⟩
    intro accepted before other behind split passed
    exact turn (part :: before) other behind (congrArg _ split)
      (List.forall_mem_cons.2 ⟨accepted, passed⟩)
  · rintro ⟨here, later⟩ before other behind split passed
    cases before with
    | nil =>
      cases split
      exact here
    | cons first before =>
      cases split
      obtain ⟨accepted, rest⟩ := List.forall_mem_cons.1 passed
      exact later accepted before other behind rfl rest

theorem inTurn_of_sound {parts : List Predicate}
    (sound : ∀ part ∈ parts, part.fault? schema row = none) : InTurn schema row parts := by
  rintro before part behind rfl _
  exact sound part (List.mem_append_right _ List.mem_cons_self)

theorem allFault?_eq_none_iff {parts : List Predicate} :
    allFault? schema row parts = none ↔ InTurn schema row parts := by
  induction parts with
  | nil =>
    refine ⟨fun _ => ?_, fun _ => rfl⟩
    intro before part behind split
    cases before <;> cases split
  | cons part parts ih =>
    rw [inTurn_cons, ← ih, allFault?, Option.or_eq_none_iff]
    cases part.accepts schema row <;> simp

namespace Predicate
variable {left right start : Predicate} {parts : List Predicate}

theorem accepts_both : (left.both right).accepts schema row =
    (left.accepts schema row && right.accepts schema row) := by
  unfold both
  split
  · simp [accepts]
  · simp [accepts]
  · simp [accepts]
  · simp [accepts]
  · rw [accepts, accepts, accepts, allAccept_append]
  · simp [accepts, allAccept_append, allAccept]
  · simp [accepts, allAccept]

theorem both_nothing (left : Predicate) : left.both .nothing = .nothing := by
  cases left <;> rfl

theorem nothing_both (right : Predicate) : nothing.both right = .nothing := by
  cases right <;> rfl

/-- Unless the second part is nothing, which makes the first one needless. -/
theorem fault?_both (decides : right ≠ .nothing) : (left.both right).fault? schema row =
    (left.fault? schema row).or
      (if left.accepts schema row then right.fault? schema row else none) := by
  unfold both
  split
  · simp [fault?, accepts]
  · simp [fault?]
  · simp [fault?, accepts]
  · exact absurd rfl decides
  · rw [fault?, fault?, fault?, accepts, allFault?_append]
  · rw [fault?, fault?, accepts, allFault?_append, allFault?, allFault?, ite_self, Option.or_none]
  · simp [fault?, allFault?]

theorem accepts_foldl_both : (parts.foldl both start).accepts schema row = true ↔
    ∀ part ∈ start :: parts, part.accepts schema row = true := by
  induction parts generalizing start with
  | nil => simp
  | cons part parts ih =>
    rw [List.foldl_cons, ih, List.forall_mem_cons, accepts_both, Bool.and_eq_true,
      List.forall_mem_cons, List.forall_mem_cons, and_assoc]

theorem accepts_foldl_both_perm {others : List Predicate} (permuted : parts.Perm others) :
    (parts.foldl both start).accepts schema row = (others.foldl both start).accepts schema row := by
  rw [Bool.eq_iff_iff, accepts_foldl_both, accepts_foldl_both]
  simp only [List.mem_cons, permuted.mem_iff]

theorem foldl_both_of_nothing (empty : .nothing ∈ start :: parts) :
    parts.foldl both start = .nothing := by
  induction parts generalizing start with
  | nil => exact (List.mem_singleton.1 empty).symm
  | cons part parts ih =>
    rw [List.foldl_cons]
    apply ih
    rcases List.mem_cons.1 empty with rfl | among
    · rw [nothing_both]
      exact List.mem_cons_self
    · rcases List.mem_cons.1 among with rfl | later
      · rw [both_nothing]
        exact List.mem_cons_self
      · exact List.mem_cons_of_mem _ later

theorem fault?_foldl_both (decides : .nothing ∉ parts) :
    (parts.foldl both start).fault? schema row = allFault? schema row (start :: parts) := by
  induction parts generalizing start with
  | nil => simp [allFault?]
  | cons part parts ih =>
    obtain ⟨here, later⟩ := not_or.1 (mt List.mem_cons.2 decides)
    rw [List.foldl_cons, ih later, allFault?, fault?_both (Ne.symm here), accepts_both, allFault?, allFault?,
      Option.or_assoc]
    cases start.accepts schema row <;> simp

/-- Restrictions put together evaluate without a fault if one of them is nothing, and else if they do
so in turn. -/
theorem fault?_foldl_both_eq_none : (parts.foldl both start).fault? schema row = none ↔
    .nothing ∈ parts ∨ InTurn schema row (start :: parts) := by
  by_cases empty : .nothing ∈ parts
  · rw [foldl_both_of_nothing (List.mem_cons_of_mem _ empty)]
    exact ⟨fun _ => .inl empty, fun _ => rfl⟩
  · rw [fault?_foldl_both empty, allFault?_eq_none_iff]
    exact ⟨.inr, fun either => either.resolve_left empty⟩

theorem fault?_foldl_both_of_sound (sound : ∀ part ∈ start :: parts, part.fault? schema row = none) :
    (parts.foldl both start).fault? schema row = none :=
  fault?_foldl_both_eq_none.2 (.inr (inTurn_of_sound sound))

end Predicate

end

end Tabula
