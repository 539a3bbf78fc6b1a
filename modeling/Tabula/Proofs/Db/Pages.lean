import Tabula.Proofs.Db.Execute

/-!
Pages of a result: each is a window of the list that the query gives, and pages one after the other are
the whole list.
-/
namespace Tabula

theorem Config.pageSize_of_valid {config : Config} (valid : config.validate = .ok ())
    (wish : Option UInt32) : ∃ size, config.pageSize wish = .ok size ∧ 1 ≤ size ∧
      size ≤ config.maxPageSize.toNat ∧
      ∀ asked, wish.getD config.defaultPageSize = asked → 1 ≤ asked.toNat →
        asked.toNat ≤ config.maxPageSize.toNat → size = asked.toNat := by
  unfold validate at valid
  split at valid
  · cases valid
  · rename_i filled
    split at valid
    · cases valid
    · rename_i ordered
      have least : 1 ≤ config.maxPageSize.toNat := by
        rw [UInt32.lt_iff_toNat_lt] at ordered
        have : config.defaultPageSize.toNat ≠ 0 := fun none => filled (UInt32.toNat_inj.1 none)
        omega
      have room : config.maxPageSize ≠ 0 := by
        intro none
        rw [none] at least
        cases least
      refine ⟨_, by rw [pageSize, if_neg room, unlessFault], by omega, by omega, ?_⟩
      rintro asked rfl positive within
      omega

/-- Positions from an offset on, as many as a page holds. -/
def Query.window (query : Query) (rows : List Row) (offset size : Nat) : Page :=
  ⟨Db.respond query ((rows.drop offset).take size), offset, size, rows.length⟩

section
variable {query : Query} {rows : List Row} {offset size : Nat}

theorem records_window : (query.window rows offset size).response.records =
    ((Db.respond query rows).records.drop offset).take size := by
  unfold Query.window Db.respond
  rw [List.map_take, List.map_drop]

theorem count_window : (query.window rows offset size).response.count =
    min size (rows.length - offset) := by
  unfold Query.window Db.respond Response.count
  rw [List.length_map, List.length_take, List.length_drop]

theorem hasNext_window : (query.window rows offset size).hasNext = true ↔
    offset + size < rows.length := by
  unfold Page.hasNext
  rw [decide_eq_true_iff, count_window]
  change offset + _ < rows.length ↔ _
  omega

end

namespace Db

variable {query : Query} {db : Db} {limit : Option UInt32} {size : Nat}

theorem perform_page (query : Query) (sized : db.config.pageSize limit = .ok size) (offset : Nat) :
    ∃ later, db.Counts later ∧ perform (page query offset limit) db =
      (unlessFault (query.fault? (db.rowsOf query.schema.table).values)
        (query.window (query.select (db.rowsOf query.schema.table).values) offset size), later) := by
  have ran : perform (page query offset limit) db =
      match perform (scan query) db with
      | (.ok rows, later) => (.ok (query.window rows offset size), later)
      | (.error fault, later) => (.error fault, later) := by
    unfold page
    rw [perform_getThe, perform_bind, perform_ofExcept, sized]
    dsimp only
    rw [perform_bind]
    rcases perform (scan query) db with ⟨_ | _, _⟩ <;> rfl
  have scanned := perform_scan query db
  have counted := counts_scan query db
  rw [ran]
  generalize perform (scan query) db = result at scanned counted
  obtain ⟨outcome, later⟩ := result
  change outcome = _ at scanned
  refine ⟨later, counted, ?_⟩
  rw [scanned]
  cases query.fault? (db.rowsOf query.schema.table).values <;> rfl

/-- Pages are asked for one after the other, each at the offset behind the records given so far, until
one has no next page. -/
inductive Pages (query : Query) (limit : Option UInt32) : Nat → Db → List Page → Prop
  | last {offset : Nat} {db later : Db} {page : Page}
      (given : perform (Db.page query offset limit) db = (.ok page, later))
      (done : page.hasNext = false) : Pages query limit offset db [page]
  | next {offset : Nat} {db later : Db} {page : Page} {pages : List Page}
      (given : perform (Db.page query offset limit) db = (.ok page, later))
      (more : page.hasNext = true)
      (rest : Pages query limit (offset + page.response.count) later pages) :
      Pages query limit offset db (page :: pages)

theorem Pages.unique {offset : Nat} {left right : List Page} (one : Pages query limit offset db left)
    (other : Pages query limit offset db right) : left = right := by
  induction one generalizing right with
  | last given done =>
    cases other with
    | last again _ =>
      rw [given] at again
      cases again
      rfl
    | next again more _ =>
      rw [given] at again
      cases again
      rw [done] at more
      cases more
  | next given more _ ih =>
    cases other with
    | last again done =>
      rw [given] at again
      cases again
      rw [done] at more
      cases more
    | next again _ rest =>
      rw [given] at again
      cases again
      rw [ih rest]

/-- From every offset the pages come to an end, and together are what is left of the result. -/
theorem exists_pages {rows : List Row} (positive : 1 ≤ size) (offset : Nat) (db : Db)
    (sized : db.config.pageSize limit = .ok size)
    (sound : query.fault? (db.rowsOf query.schema.table).values = none)
    (selected : query.select (db.rowsOf query.schema.table).values = rows) :
    ∃ pages, Pages query limit offset db pages ∧
      pages.flatMap (·.response.records) = (respond query rows).records.drop offset := by
  -- each page brings the offset nearer to the end
  induction remaining : rows.length - offset using Nat.strongRecOn generalizing offset db with
  | _ left ih =>
    obtain ⟨later, counted, given⟩ := perform_page query sized offset
    rw [sound, selected] at given
    by_cases more : offset + size < rows.length
    · obtain ⟨metrics, captured, rfl⟩ := counted
      have full : (query.window rows offset size).response.count = size := by
        rw [count_window]
        omega
      have nearer : rows.length - (offset + size) < left := by omega
      obtain ⟨pages, rest, joined⟩ := ih _ nearer (offset + size)
        { db with metrics, captured } sized sound selected rfl
      rw [← full] at rest
      refine ⟨_, .next given (hasNext_window.2 more) rest, ?_⟩
      rw [List.flatMap_cons, joined, records_window, ← List.drop_drop, List.take_append_drop]
    · have done : (query.window rows offset size).hasNext = false :=
        Bool.eq_false_iff.2 (mt hasNext_window.1 more)
      refine ⟨_, .last given done, ?_⟩
      rw [List.flatMap_singleton, records_window, List.take_of_length_le]
      rw [List.length_drop, respond, List.length_map]
      omega

end Db

/-- Under valid settings a query has a page exactly when it has a result. At every offset the page has
the positions of the result from there on, as many as its size allows, with the number of all rows, and
a next page exactly if a position is left. Pages that are asked for from the first on, each behind the
one before, come to an end and are the result together. -/
theorem pages_of_valid (query : Query) {db : Db} (valid : db.config.validate = .ok ())
    (limit : Option UInt32) :
    (∀ offset, (∃ page, (Db.perform (Db.page query offset limit) db).1 = .ok page) ↔
      ∀ row ∈ (db.rowsOf query.schema.table).values,
        query.predicate.fault? query.schema row = none) ∧
    ∀ response, (Db.perform (Db.execute query) db).1 = .ok response →
      (∀ offset, ∃ page later, Db.perform (Db.page query offset limit) db = (.ok page, later) ∧
        page.offset = offset ∧ 1 ≤ page.limit ∧ page.limit ≤ db.config.maxPageSize.toNat ∧
        (∀ asked, limit.getD db.config.defaultPageSize = asked → 1 ≤ asked.toNat →
          asked.toNat ≤ db.config.maxPageSize.toNat → page.limit = asked.toNat) ∧
        Db.count query db = .ok page.total ∧ page.total = response.count ∧
        page.response.table = response.table ∧
        page.response.records = (response.records.drop offset).take page.limit ∧
        (page.hasNext = true ↔ offset + page.limit < response.count)) ∧
      ∃ pages, Db.Pages query limit 0 db pages ∧
        pages.flatMap (·.response.records) = response.records ∧
        ∀ others, Db.Pages query limit 0 db others → others = pages := by
  obtain ⟨size, sized, positive, within, granted⟩ := Config.pageSize_of_valid valid limit
  constructor
  · intro offset
    obtain ⟨later, _, ran⟩ := Db.perform_page query sized offset
    rw [ran, exists_unlessFault_eq_ok, Query.fault?_eq_none]
  · intro response executed
    rw [Db.perform_execute, unlessFault_eq_ok] at executed
    obtain ⟨sound, rfl⟩ := executed
    have total : query.count (db.rowsOf query.schema.table).values =
        (query.select (db.rowsOf query.schema.table).values).length := (query.length_select _).symm
    constructor
    · intro offset
      obtain ⟨later, _, ran⟩ := Db.perform_page query sized offset
      rw [sound] at ran
      have count : (Db.respond query (query.select (db.rowsOf query.schema.table).values)).count =
          (query.select (db.rowsOf query.schema.table).values).length := List.length_map _
      refine ⟨_, later, ran, rfl, positive, within, granted, ?_, count.symm, rfl, records_window, ?_⟩
      · unfold Db.count
        dsimp only
        rw [sound, total]
        rfl
      · rw [hasNext_window, count]
        exact Iff.rfl
    · obtain ⟨pages, run, joined⟩ := Db.exists_pages positive 0 db sized sound rfl
      exact ⟨pages, run, joined, fun others again => again.unique run⟩

/-! Three rows on pages of two. -/

def plainRow (id : RowId) : Row where
  id := id
  order := .one
  createdOn := .epoch
  updatedOn := .epoch
  cells := default

def plainDb : Db :=
  .holding .epoch ⟨3⟩
    ((((default : TableRows).put (plainRow ⟨1⟩)).put (plainRow ⟨2⟩)).put (plainRow ⟨3⟩))

def plainQuery : Query where
  schema := Schema.ofTable longNumberTable {}

theorem pages_of_plain_rows : plainDb.config.validate = .ok () ∧
    ∃ response, (Db.perform (Db.execute plainQuery) plainDb).1 = .ok response ∧ response.count = 3 ∧
      (∃ page later, Db.perform (Db.page plainQuery 0 (some 2)) plainDb = (.ok page, later) ∧
        page.limit = 2 ∧ page.total = 3 ∧ page.response.records = response.records.take 2 ∧
        page.hasNext = true) ∧
      ∃ pages, Db.Pages plainQuery (some 2) 0 plainDb pages ∧
        pages.flatMap (·.response.records) = response.records := by
  have valid : plainDb.config.validate = .ok () := rfl
  have executed := Db.perform_execute plainQuery plainDb
  have three : (plainQuery.select (plainDb.rowsOf ⟨3⟩).values).length = 3 := plainQuery.length_select _
  obtain ⟨_, answers⟩ := pages_of_valid plainQuery valid (some 2)
  obtain ⟨windows, pages, run, joined, _⟩ := answers _ executed
  obtain ⟨page, later, given, _, _, _, granted, _, total, _, records, more⟩ := windows 0
  have size : page.limit = 2 := granted 2 rfl (by decide) (by decide)
  have count : (Db.respond plainQuery (plainQuery.select (plainDb.rowsOf ⟨3⟩).values)).count = 3 :=
    (List.length_map _).trans three
  refine ⟨valid, _, executed, count, ⟨page, later, given, size, total.trans count, ?_, ?_⟩, pages, run,
    joined⟩
  · rw [records, size]
    rfl
  · rw [more, size]
    exact Nat.lt_of_lt_of_eq (by decide) count.symm

/-- Valid settings are not enough for a page. -/
theorem not_all_pages_given :
    ¬ ∀ (query : Query) (db : Db) (offset : Nat) (limit : Option UInt32),
      db.config.validate = .ok () → ∃ page, (Db.perform (Db.page query offset limit) db).1 = .ok page := by
  intro refuted
  obtain ⟨page, given⟩ := refuted longNumberQuery (longNumberDb .epoch) 0 none rfl
  have sized : (longNumberDb .epoch).config.pageSize none = .ok 100 := rfl
  have broken : longNumberQuery.fault?
      ((longNumberDb .epoch).rowsOf longNumberQuery.schema.table).values = some .textExceeded := rfl
  obtain ⟨later, _, ran⟩ := Db.perform_page longNumberQuery sized 0
  rw [ran, broken] at given
  cases given

end Tabula
