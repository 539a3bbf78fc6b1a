import Tabula.Proofs.Predicate.Encoding
import Tabula.Query.Basic

/-! The bytes of queries, from which their fingerprints are made. -/
namespace Tabula

namespace Query

/-- The lengths of all texts and lists in what a query restricts and orders by can be written. -/
structure Fits (query : Query) : Prop where
  predicate : query.predicate.Fits
  order : ∀ terms, query.order = some terms → terms.length ≤ Encoding.lengthLimit

theorem termBytes_append {left right : OrderTerm} {rest rest' : Bytes} :
    (Encoding.idBytes left.field ++ [Encoding.flagByte left.descending]) ++ rest =
        (Encoding.idBytes right.field ++ [Encoding.flagByte right.descending]) ++ rest' ↔
      left = right ∧ rest = rest' := by
  rw [List.append_assoc, List.append_assoc, Encoding.idBytes_append, List.singleton_append,
    List.singleton_append, List.cons.injEq, Encoding.flagByte_inj, ← and_assoc]
  cases left
  cases right
  rw [OrderTerm.mk.injEq]

theorem orderBytes_inj {left right : Option (List OrderTerm)}
    (first : ∀ terms, left = some terms → terms.length ≤ Encoding.lengthLimit)
    (second : ∀ terms, right = some terms → terms.length ≤ Encoding.lengthLimit) :
    orderBytes left = orderBytes right ↔ left = right := by
  cases left <;> cases right
  case some.some lefts rights =>
    constructor
    · intro equal
      have listed := (List.cons.inj equal).2
      rw [← List.append_nil (Encoding.listBytes _ lefts),
        ← List.append_nil (Encoding.listBytes _ rights)] at listed
      have terms := (Encoding.listBytes_append (fun _ _ _ _ _ _ => termBytes_append)
        (first lefts rfl) (second rights rfl)).1 listed
      exact congrArg some terms.1
    · intro same
      rw [same]
  all_goals simp [orderBytes]

end Query

/-- Two restrictions have the same bytes exactly when they are equal, and two queries exactly when
their tables, restrictions and orderings are. -/
theorem bytes_inj :
    (∀ left right : Predicate, left.Fits → right.Fits →
      (Encoding.predicateBytes left = Encoding.predicateBytes right ↔ left.Same right)) ∧
    ∀ left right : Query, left.Fits → right.Fits →
      (left.bytes = right.bytes ↔ left.schema.table = right.schema.table ∧
        left.predicate.Same right.predicate ∧ left.order = right.order) := by
  refine ⟨fun _ _ => Encoding.predicateBytes_inj, ?_⟩
  intro left right first second
  unfold Query.bytes
  rw [List.append_assoc, List.append_assoc, Encoding.idBytes_append,
    Encoding.predicateBytes_append _ _ first.predicate second.predicate,
    Query.orderBytes_inj first.order second.order]

/-- A bound of one scale and of another has the same bytes, and another bound has others. -/
theorem bytes_of_bounds :
    Encoding.predicateBytes (.test (.field ⟨4⟩) (.higherThan ⟨false, 15, 1, by decide, by decide⟩)) =
        Encoding.predicateBytes
          (.test (.field ⟨4⟩) (.higherThan ⟨false, 150, 2, by decide, by decide⟩)) ∧
      Encoding.predicateBytes (.test (.field ⟨4⟩) (.higherThan .one)) ≠
        Encoding.predicateBytes (.test (.field ⟨4⟩) (.higherThan .zero)) ∧
      ∀ schema : Schema, ({ schema, order := some [] } : Query).bytes ≠ ({ schema } : Query).bytes := by
  have bounds (amount : Decimal) : (Predicate.test (.field ⟨4⟩) (.higherThan amount)).Fits := by
    unfold Predicate.Fits
    trivial
  refine ⟨?_, ?_, ?_⟩
  · apply (bytes_inj.1 _ _ (bounds _) (bounds _)).2
    exact ⟨rfl, rfl⟩
  · intro equal
    obtain ⟨_, same⟩ := (bytes_inj.1 _ _ (bounds _) (bounds _)).1 equal
    change Decimal.one.sameAs .zero = true at same
    exact absurd same (by decide)
  · intro schema equal
    have everything : Predicate.everything.Fits := by
      unfold Predicate.Fits
      trivial
    have first : ({ schema, order := some [] } : Query).Fits :=
      ⟨everything, fun terms same => by cases same; decide⟩
    have second : ({ schema } : Query).Fits := ⟨everything, nofun⟩
    obtain ⟨_, _, orders⟩ := (bytes_inj.2 _ _ first second).1 equal
    cases orders

end Tabula
