import Tabula.Proofs.Db.Execute
import Tabula.Proofs.Predicate.Same
import Tabula.Proofs.Query.Bytes

/-!
Queries with the same bytes, and so with the same fingerprint. Whatever a store holds, each gives what
the other gives, so that an answer can be kept under the fingerprint of its query.
-/
namespace Tabula

namespace Query

/-- Queries that restrict and order the rows of one schema alike; the fields that later restrictions
may name have no part in it. -/
structure Same (left right : Query) : Prop where
  schema : left.schema = right.schema
  predicate : left.predicate.Same right.predicate
  order : left.order = right.order

variable {left right : Query}

theorem same_of_bytes_eq (schema : left.schema = right.schema) (first : left.Fits)
    (second : right.Fits) (bytes : left.bytes = right.bytes) : left.Same right := by
  unfold Query.bytes at bytes
  rw [List.append_assoc, List.append_assoc, Encoding.idBytes_append,
    Encoding.predicateBytes_append _ _ first.predicate second.predicate] at bytes
  obtain ⟨_, predicate, order⟩ := bytes
  exact ⟨schema, predicate, (orderBytes_inj first.order second.order).1 order⟩

theorem accepts_of_same (same : left.Same right) : left.accepts = right.accepts := by
  funext row
  unfold accepts
  rw [same.schema]
  exact Predicate.accepts_of_same _ row _ _ same.predicate

theorem fault?_of_same (same : left.Same right) (rows : List Row) :
    left.fault? rows = right.fault? rows := by
  have each : left.predicate.fault? left.schema = right.predicate.fault? right.schema := by
    funext row
    rw [same.schema]
    exact Predicate.fault?_of_same _ row _ _ same.predicate
  unfold fault?
  rw [each]

theorem select_of_same (same : left.Same right) (rows : List Row) :
    left.select rows = right.select rows := by
  have terms : left.terms = right.terms := by
    unfold terms
    rw [same.order]
  rw [select_eq, select_eq, accepts_of_same same, same.schema, terms]

theorem count_of_same (same : left.Same right) (rows : List Row) :
    left.count rows = right.count rows := by
  rw [← length_select, ← length_select, select_of_same same]

end Query

namespace Db

variable {left right : Query}

theorem scan_of_same (same : left.Same right) : scan left = scan right := by
  unfold scan
  simp only [same.schema, Query.fault?_of_same same, Query.select_of_same same]

theorem respond_of_same (same : left.Same right) : respond left = respond right := by
  funext rows
  unfold respond
  rw [same.schema]

end Db

/-- Two queries over a schema with the same bytes give the same records in the same order, the same
count and the same pages of every store, or break off with the same fault. -/
theorem answers_of_bytes_eq {left right : Query} (schema : left.schema = right.schema)
    (first : left.Fits) (second : right.Fits) (bytes : left.bytes = right.bytes) (db : Db) :
    Db.perform (Db.execute left) db = Db.perform (Db.execute right) db ∧
      Db.count left db = Db.count right db ∧
      ∀ offset limit,
        Db.perform (Db.page left offset limit) db = Db.perform (Db.page right offset limit) db := by
  have same := Query.same_of_bytes_eq schema first second bytes
  have scans := Db.scan_of_same same
  have responds := Db.respond_of_same same
  refine ⟨?_, ?_, ?_⟩
  · unfold Db.execute
    rw [scans, responds]
  · unfold Db.count
    simp only [schema, Query.fault?_of_same same, Query.count_of_same same]
  · intro offset limit
    unfold Db.page
    rw [scans, responds]

/-! One bound written with one digit and with two, one instant shown at two offsets. -/

def visitTable : Table where
  id := ⟨3⟩
  database := ⟨2⟩
  name := "t"
  order := 1
  fields :=
    [⟨⟨4⟩, ⟨3⟩, "Price", 1, false, .stored (.number ⟨2, false⟩)⟩,
      ⟨⟨5⟩, ⟨3⟩, "Seen", 2, false, .stored (.date { includeTime := true })⟩]

def visitQuery (bound : Decimal) (seen : Instant) : Query where
  schema := Schema.ofTable visitTable {}
  predicate := .allOf
    [.test (.field ⟨4⟩) (.lowerThan bound), .test (.field ⟨5⟩) (.date .notEqual (.point seen))]
  order := some [⟨⟨4⟩, true⟩]

def visitStore : Store where
  tables := IdMap.insert default ⟨3⟩
    (TableRows.put { (default : TableRows) with lastId := 1 }
      { id := ⟨1⟩, order := .one, createdOn := .epoch, updatedOn := .epoch
        cells := IdMap.insert default ⟨4⟩ (.number .one) })

def epochEastward : Instant :=
  { Instant.epoch with
    offset := 3600
    offset_le := by decide
    first_le := by decide
    lt_end := by decide }

theorem fits_visitQuery (bound : Decimal) (seen : Instant) : (visitQuery bound seen).Fits where
  predicate := by
    have parts : 2 ≤ Encoding.lengthLimit := by decide
    exact ⟨parts, trivial, trivial, trivial⟩
  order terms ordered := by
    cases ordered
    decide

theorem answers_of_visits :
    let short := visitQuery ⟨false, 15, 1, by decide, by decide⟩ .epoch
    let long := visitQuery ⟨false, 150, 2, by decide, by decide⟩ epochEastward
    let db : Db := { clock := .epoch, store := visitStore }
    short.Fits ∧ long.Fits ∧ short.bytes = long.bytes ∧
      Db.perform (Db.execute short) db = Db.perform (Db.execute long) db ∧
      Db.count short db = Db.count long db ∧ Db.count long db = .ok 1 := by
  intro short long db
  have first : short.Fits := fits_visitQuery _ _
  have second : long.Fits := fits_visitQuery _ _
  have bounds : Decimal.sameAs ⟨false, 15, 1, by decide, by decide⟩
      ⟨false, 150, 2, by decide, by decide⟩ = true := by decide
  have predicates : short.predicate.Same long.predicate :=
    ⟨⟨rfl, bounds⟩, ⟨rfl, rfl, rfl⟩, trivial⟩
  have bytes : short.bytes = long.bytes := by
    unfold Query.bytes
    rw [(Encoding.predicateBytes_inj first.predicate second.predicate).2 predicates]
    rfl
  have schemas : short.schema = long.schema := rfl
  have answers := answers_of_bytes_eq schemas first second bytes db
  exact ⟨first, second, bytes, answers.1, answers.2.1, by decide⟩

end Tabula
