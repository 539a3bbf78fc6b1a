import Tabula.Proofs.Db.Perform
import Tabula.Proofs.Decimal.Next
import Tabula.Proofs.Query.Select

/-! What queries give of the rows of a store. -/
namespace Tabula

theorem TableRows.nodup_ids (table : TableRows) : (table.values.map Row.id).Nodup := by
  have ids : table.values.map Row.id = table.rows.entries.map Prod.fst := by
    unfold values IdMap.values
    rw [List.map_map]
    exact List.map_congr_left table.keyed
  rw [ids]
  exact table.rows.nodup_ids

namespace Db

theorem perform_scan (query : Query) (db : Db) :
    (perform (scan query) db).1 =
      unlessFault (query.fault? (db.rowsOf query.schema.table).values)
        (query.select (db.rowsOf query.schema.table).values) := by
  unfold scan
  rw [perform_getThe]
  dsimp only
  rw [perform_modifyThe, perform_bind, perform_ofExcept]
  cases unlessFault (query.fault? (db.rowsOf query.schema.table).values)
    (query.select (db.rowsOf query.schema.table).values) <;> rfl

theorem perform_execute (query : Query) (db : Db) :
    (perform (execute query) db).1 =
      unlessFault (query.fault? (db.rowsOf query.schema.table).values)
        (respond query (query.select (db.rowsOf query.schema.table).values)) := by
  unfold execute
  rw [perform_bind]
  have scanned := perform_scan query db
  generalize perform (scan query) db = ran at scanned ⊢
  rcases ran with ⟨outcome, later⟩
  change outcome = _ at scanned
  rw [scanned]
  cases query.fault? (db.rowsOf query.schema.table).values <;> rfl

theorem rows_respond (query : Query) (rows : List Row) :
    (respond query rows).records.map Record.row = rows := by
  unfold respond
  rw [List.map_map]
  exact List.map_id _

theorem rows_of_execute {query : Query} {db : Db} {response : Response}
    (executed : (perform (execute query) db).1 = .ok response) :
    response.records.map Record.row = query.select (db.rowsOf query.schema.table).values := by
  rw [perform_execute, unlessFault_eq_ok] at executed
  obtain ⟨_, rfl⟩ := executed
  exact rows_respond query _

end Db

theorem Query.fault?_eq_none {query : Query} {stored : List Row} :
    query.fault? stored = none ↔ ∀ row ∈ stored, query.predicate.fault? query.schema row = none := by
  unfold fault?
  exact List.findSome?_eq_none_iff

/-- The laws of a strict total order of rows under some terms, with the place of null in it. -/
structure Schema.OrdersStrictly (schema : Schema) (terms : List OrderTerm) : Prop where
  irreflexive : ∀ row, ¬ schema.Precedes terms row row
  transitive : ∀ first second third, schema.Precedes terms first second →
    schema.Precedes terms second third → schema.Precedes terms first third
  total : ∀ left right : Row, left.id ≠ right.id →
    schema.Precedes terms left right ∨ schema.Precedes terms right left
  null_outermost : ∀ term ∈ terms, ∀ empty filled, schema.termKey term empty = .null →
    schema.termKey term filled ≠ .null →
      if term.descending then schema.Before term filled empty else schema.Before term empty filled

theorem Schema.ordersStrictly (schema : Schema) (terms : List OrderTerm) :
    schema.OrdersStrictly terms where
  irreflexive := precedes_irrefl terms
  transitive _ _ _ := precedes_trans
  total _ _ := precedes_total terms
  null_outermost _ _ _ _ := before_of_null

/-- A query gives a result exactly when its restriction meets no fault on any stored row. The result
then lists the accepted rows in their one strict order, and counting gives its length. -/
theorem execute_lists (query : Query) (db : Db) :
    let stored := (db.rowsOf query.schema.table).values
    let executed := (Db.perform (Db.execute query) db).1
    query.schema.OrdersStrictly query.terms ∧
      ((∃ response, executed = .ok response) ↔
        ∀ row ∈ stored, query.predicate.fault? query.schema row = none) ∧
      ((∃ number, Db.count query db = .ok number) ↔
        ∀ row ∈ stored, query.predicate.fault? query.schema row = none) ∧
      ∀ response, executed = .ok response →
        query.Lists stored (response.records.map Record.row) ∧
          (response.records.map Record.row).Nodup ∧
          (∀ other, query.Lists stored other → other = response.records.map Record.row) ∧
          Db.count query db = .ok response.records.length := by
  intro stored executed
  have ran : executed = unlessFault (query.fault? stored) (Db.respond query (query.select stored)) :=
    Db.perform_execute query db
  have counted : Db.count query db = unlessFault (query.fault? stored) (query.count stored) := rfl
  have lists : query.Lists stored (query.select stored) :=
    query.lists_select (db.rowsOf query.schema.table).nodup_ids
  rw [← Query.fault?_eq_none, ran, counted]
  refine ⟨query.schema.ordersStrictly query.terms, exists_unlessFault_eq_ok,
    exists_unlessFault_eq_ok, ?_⟩
  intro response done
  obtain ⟨sound, rfl⟩ := unlessFault_eq_ok.1 done
  have rows : (Db.respond query (query.select stored)).records.map Record.row =
      query.select stored := by
    unfold Db.respond
    rw [List.map_map]
    exact List.map_id _
  have length : (Db.respond query (query.select stored)).records.length = query.count stored := by
    unfold Db.respond
    rw [List.length_map, query.length_select]
  rw [rows, length, sound]
  refine ⟨lists, lists.nodup, ?_, rfl⟩
  intro other same
  exact same.unique lists

def Db.holding (now : Instant) (table : TableId) (rows : TableRows) : Db where
  clock := now
  store := { tables := IdMap.insert default table rows }

/-! A number with one digit more to show than a written number has room for. -/

def longNumberTable : Table where
  id := ⟨3⟩
  database := ⟨2⟩
  name := "t"
  order := 1
  fields := [⟨⟨4⟩, ⟨3⟩, "n", 1, false, .stored (.number ⟨31, false⟩)⟩]

def longNumberRow (now : Instant) : Row where
  id := ⟨1⟩
  order := .one
  createdOn := now
  updatedOn := now
  cells := IdMap.insert default ⟨4⟩ (.number .thousandth)

def longNumberDb (now : Instant) : Db where
  clock := now
  store := {
    tables := IdMap.insert default ⟨3⟩
      (TableRows.put { (default : TableRows) with lastId := 1 } (longNumberRow now)) }

def longNumberQuery : Query where
  schema := Schema.ofTable longNumberTable {}
  predicate := .test (.field ⟨4⟩) (.contains "1")

theorem execute_long_number (now : Instant) :
    (Db.perform (Db.execute longNumberQuery) (longNumberDb now)).1 = .error .textExceeded := by
  rw [Db.perform_execute]
  rfl

/-- Not every query gives a result. -/
theorem not_all_queries_answered :
    ¬ ∀ (query : Query) (db : Db), ∃ response, (Db.perform (Db.execute query) db).1 = .ok response := by
  intro refuted
  obtain ⟨response, done⟩ := refuted longNumberQuery (longNumberDb .epoch)
  rw [execute_long_number] at done
  cases done

end Tabula
