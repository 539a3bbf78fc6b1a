import Mathlib.Data.List.Forall2
import Tabula.Fault

/-! What follows from the outcome of a computation that can fail. -/
namespace Tabula

variable {ε α β : Type}

theorem bind_eq_ok {first : Except ε α} {next : α → Except ε β} {result : β} :
    (first >>= next) = .ok result ↔ ∃ value, first = .ok value ∧ next value = .ok result := by
  cases first with
  | error _ => exact ⟨nofun, nofun⟩
  | ok value =>
    constructor
    · intro done
      exact ⟨value, rfl, done⟩
    · intro given
      obtain ⟨_, same, done⟩ := given
      cases same
      exact done

theorem bind_eq_error {first : Except ε α} {next : α → Except ε β} {error : ε} :
    (first >>= next) = .error error ↔
      first = .error error ∨ ∃ value, first = .ok value ∧ next value = .error error := by
  cases first with
  | error _ =>
    constructor
    · intro failed
      cases failed
      exact .inl rfl
    · intro given
      rcases given with failed | ⟨_, same, _⟩
      · cases failed
        rfl
      · cases same
  | ok value =>
    constructor
    · intro failed
      exact .inr ⟨value, rfl, failed⟩
    · intro given
      rcases given with other | ⟨_, same, failed⟩
      · cases other
      · cases same
        exact failed

theorem map_eq_ok {change : α → β} {outcome : Except ε α} {result : β} :
    outcome.map change = .ok result ↔ ∃ value, outcome = .ok value ∧ change value = result := by
  cases outcome <;> simp [Except.map]

theorem map_eq_error {change : α → β} {outcome : Except ε α} {error : ε} :
    outcome.map change = .error error ↔ outcome = .error error := by
  cases outcome <;> simp [Except.map]

theorem mapError_eq_ok {δ : Type} {change : ε → δ} {outcome : Except ε α} {result : α} :
    outcome.mapError change = .ok result ↔ outcome = .ok result := by
  cases outcome <;> simp [Except.mapError]

theorem orFail_eq_ok {outcome : Except Fault α} {result : α} :
    (orFail outcome : Except (Failure ε) α) = .ok result ↔ outcome = .ok result := by
  cases outcome <;> simp [orFail, Except.mapError]

theorem orFail_eq_fault {outcome : Except Fault α} {fault : Fault} :
    (orFail outcome : Except (Failure ε) α) = .error (.fault fault) ↔ outcome = .error fault := by
  cases outcome <;> simp [orFail, Except.mapError]

theorem orFail_ne_error {outcome : Except Fault α} {error : ε} :
    (orFail outcome : Except (Failure ε) α) ≠ .error (.error error) := by
  cases outcome <;> simp [orFail, Except.mapError]

theorem unlessFault_eq_ok {fault? : Option Fault} {value result : α} :
    unlessFault fault? value = .ok result ↔ fault? = none ∧ value = result := by
  cases fault? <;> simp [unlessFault]

theorem exists_unlessFault_eq_ok {fault? : Option Fault} {value : α} :
    (∃ result, unlessFault fault? value = .ok result) ↔ fault? = none := by
  simp only [unlessFault_eq_ok, exists_and_left, exists_eq', and_true]

def IsWhole (outcome : Except (Failure ε) α) : Prop := ∀ fault, outcome ≠ .error (.fault fault)

theorem IsWhole.of_map {outcome : Except (Failure ε) α} {change : α → β}
    (whole : IsWhole (outcome.map change)) : IsWhole outcome := by
  intro fault broken
  exact whole fault (map_eq_error.2 broken)

/-- The outcome is no fault, and what it gives has the property. -/
def Gives (Holds : α → Prop) : Except (Failure ε) α → Prop
  | .ok value => Holds value
  | .error (.error _) => True
  | .error (.fault _) => False

section
variable {Holds : α → Prop} {After : β → Prop}

theorem Gives.bind {first : Except (Failure ε) α} {next : α → Except (Failure ε) β}
    (before : Gives Holds first) (after : ∀ value, Holds value → Gives After (next value)) :
    Gives After (first >>= next) := by
  match first, before with
  | .ok value, holds => exact after value holds
  | .error (.error _), _ => trivial

theorem Gives.map {outcome : Except (Failure ε) α} {change : α → β} (before : Gives Holds outcome)
    (after : ∀ value, Holds value → After (change value)) : Gives After (outcome.map change) := by
  match outcome, before with
  | .ok value, holds => exact after value holds
  | .error (.error _), _ => trivial

theorem gives_mapError {outcome : Except ε α} (holds : ∀ value, outcome = .ok value → Holds value) :
    Gives Holds (outcome.mapError Failure.error) := by
  cases outcome with
  | ok value => exact holds value rfl
  | error error => trivial

theorem Gives.of_eq_ok {outcome : Except (Failure ε) α} {value : α} (before : Gives Holds outcome)
    (done : outcome = .ok value) : Holds value := by
  subst done
  exact before

theorem Gives.isWhole {outcome : Except (Failure ε) α} (before : Gives Holds outcome) :
    IsWhole outcome := by
  intro fault broken
  subst broken
  exact before

end

/-- Both fail, with one failure, or both give results, which are related. -/
inductive SameOutcome (Related : α → β → Prop) : Except ε α → Except ε β → Prop
  | ok {left : α} {right : β} (related : Related left right) : SameOutcome Related (.ok left) (.ok right)
  | error (failure : ε) : SameOutcome Related (.error failure) (.error failure)

namespace SameOutcome

variable {γ : Type} {Related : α → β → Prop}

theorem map {Later : γ → γ → Prop} {outcome : Except ε α} {left right : α → γ}
    (later : ∀ value, outcome = .ok value → Later (left value) (right value)) :
    SameOutcome Later (outcome.map left) (outcome.map right) := by
  cases outcome with
  | ok value => exact .ok (later value rfl)
  | error failure => exact .error failure

theorem imp {Later : α → β → Prop} {left : Except ε α} {right : Except ε β}
    (same : SameOutcome Related left right)
    (later : ∀ first second, Related first second → Later first second) :
    SameOutcome Later left right := by
  cases same with
  | ok related => exact .ok (later _ _ related)
  | error failure => exact .error failure

theorem mapError {δ : Type} {left : Except ε α} {right : Except ε β} (change : ε → δ)
    (same : SameOutcome Related left right) :
    SameOutcome Related (left.mapError change) (right.mapError change) := by
  cases same with
  | ok related => exact .ok related
  | error failure => exact .error (change failure)

theorem foldlM {left : α → γ → Except ε α} {right : β → γ → Except ε β}
    (step : ∀ first second item, Related first second →
      SameOutcome Related (left first item) (right second item))
    {items : List γ} {first : α} {second : β} (related : Related first second) :
    SameOutcome Related (items.foldlM left first) (items.foldlM right second) := by
  induction items generalizing first second with
  | nil => exact .ok related
  | cons item rest ih =>
    rw [List.foldlM_cons, List.foldlM_cons]
    have here := step first second item related
    generalize left first item = firstOutcome, right second item = secondOutcome at here
    cases here with
    | ok next => exact ih next
    | error failure => exact .error failure

end SameOutcome

theorem mapM_eq_ok {step : α → Except ε β} {items : List α} {results : List β} :
    items.mapM step = .ok results ↔
      List.Forall₂ (fun item result => step item = .ok result) items results := by
  induction items generalizing results with
  | nil =>
    rw [List.mapM_nil, List.forall₂_nil_left_iff]
    constructor
    · intro done
      cases done
      rfl
    · intro same
      subst same
      rfl
  | cons item rest ih =>
    rw [List.mapM_cons, bind_eq_ok, List.forall₂_cons_left_iff]
    constructor
    · intro given
      obtain ⟨first, here, done⟩ := given
      obtain ⟨others, later, same⟩ := bind_eq_ok.1 done
      cases same
      exact ⟨first, others, here, ih.1 later, rfl⟩
    · intro given
      obtain ⟨first, others, here, later, rfl⟩ := given
      exact ⟨first, here, bind_eq_ok.2 ⟨others, ih.2 later, rfl⟩⟩

theorem mapM_congr {step other : α → Except ε β} {items : List α}
    (same : ∀ item ∈ items, step item = other item) : items.mapM step = items.mapM other := by
  induction items with
  | nil => rfl
  | cons item rest ih =>
    obtain ⟨here, later⟩ := List.forall_mem_cons.1 same
    rw [List.mapM_cons, List.mapM_cons, here, ih later]

theorem mapM_cons_eq_error {step : α → Except ε β} {head : α} {rest : List α} {error : ε} :
    (head :: rest).mapM step = .error error ↔
      step head = .error error ∨
        (∃ result, step head = .ok result) ∧ rest.mapM step = .error error := by
  rw [List.mapM_cons, bind_eq_error]
  apply or_congr_right
  constructor
  · intro given
    obtain ⟨first, here, failed⟩ := given
    refine ⟨⟨first, here⟩, ?_⟩
    rcases bind_eq_error.1 failed with later | ⟨_, _, impossible⟩
    · exact later
    · cases impossible
  · intro given
    obtain ⟨⟨first, here⟩, later⟩ := given
    exact ⟨first, here, bind_eq_error.2 (.inl later)⟩

theorem exists_split_cons {Passed Met : α → Prop} {first : α} {rest : List α} :
    (∃ before item after, first :: rest = before ++ item :: after ∧ (∀ other ∈ before, Passed other) ∧
        Met item) ↔
      Met first ∨ Passed first ∧ ∃ before item after, rest = before ++ item :: after ∧
        (∀ other ∈ before, Passed other) ∧ Met item := by
  constructor
  · rintro ⟨before, item, after, split, passed, met⟩
    cases before with
    | nil =>
      cases split
      exact .inl met
    | cons other before =>
      cases split
      obtain ⟨here, later⟩ := List.forall_mem_cons.1 passed
      exact .inr ⟨here, before, item, after, rfl, later, met⟩
  · rintro (met | ⟨here, before, item, after, rfl, later, met⟩)
    · exact ⟨[], first, rest, rfl, nofun, met⟩
    · exact ⟨first :: before, item, after, rfl, List.forall_mem_cons.2 ⟨here, later⟩, met⟩

/-- A run over a list fails with what its first failing step fails with. -/
theorem mapM_eq_error {step : α → Except ε β} {items : List α} {error : ε} :
    items.mapM step = .error error ↔
      ∃ before item after, items = before ++ item :: after ∧
        (∀ other ∈ before, ∃ result, step other = .ok result) ∧ step item = .error error := by
  induction items with
  | nil =>
    rw [List.mapM_nil]
    constructor
    · intro failed
      cases failed
    · intro given
      obtain ⟨before, item, after, split, _⟩ := given
      cases before <;> cases split
  | cons head rest ih => rw [mapM_cons_eq_error, ih, exists_split_cons]

theorem exists_of_mem_of_forall₂ {Related : α → β → Prop} {items : List α} {results : List β}
    (related : List.Forall₂ Related items results) {result : β} (member : result ∈ results) :
    ∃ item ∈ items, Related item result := by
  induction related with
  | nil => cases member
  | cons here _ ih =>
    rcases List.mem_cons.1 member with rfl | member
    · exact ⟨_, List.mem_cons_self, here⟩
    · obtain ⟨item, inside, holds⟩ := ih member
      exact ⟨item, List.mem_cons_of_mem _ inside, holds⟩

theorem forall_mem_iff_of_forall₂ {Related : α → β → Prop} {Before : α → Prop} {After : β → Prop}
    {items : List α} {results : List β} (related : List.Forall₂ Related items results)
    (same : ∀ item result, Related item result → (Before item ↔ After result)) :
    (∀ item ∈ items, Before item) ↔ ∀ result ∈ results, After result := by
  induction related with
  | nil => simp
  | cons here _ ih => rw [List.forall_mem_cons, List.forall_mem_cons, same _ _ here, ih]

theorem exists_mem_iff_of_forall₂ {Related : α → β → Prop} {Before : α → Prop} {After : β → Prop}
    {items : List α} {results : List β} (related : List.Forall₂ Related items results)
    (same : ∀ item result, Related item result → (Before item ↔ After result)) :
    (∃ item ∈ items, Before item) ↔ ∃ result ∈ results, After result := by
  induction related with
  | nil => simp
  | cons here _ ih => simp only [List.mem_cons, exists_eq_or_imp, same _ _ here, ih]

theorem map_eq_of_forall₂ {γ : Type} {Related : α → β → Prop} {items : List α} {results : List β}
    {left : α → γ} {right : β → γ} (related : List.Forall₂ Related items results)
    (same : ∀ item result, Related item result → left item = right result) :
    items.map left = results.map right := by
  induction related with
  | nil => rfl
  | cons here _ ih => rw [List.map_cons, List.map_cons, same _ _ here, ih]

theorem getLast?_of_forall₂ {Related : α → β → Prop} {items : List α} {results : List β}
    (related : List.Forall₂ Related items results) :
    (items.getLast? = none ∧ results.getLast? = none) ∨
      ∃ item result, items.getLast? = some item ∧ results.getLast? = some result ∧
        Related item result := by
  rw [List.getLast?_eq_head?_reverse, List.getLast?_eq_head?_reverse]
  have backwards := List.forall₂_reverse_iff.2 related
  generalize items.reverse = lastItems, results.reverse = lastResults at backwards
  cases backwards with
  | nil => exact .inl ⟨rfl, rfl⟩
  | cons here _ => exact .inr ⟨_, _, rfl, rfl, here⟩

theorem mem_of_mapM_eq_ok {step : α → Except ε β} {items : List α} {results : List β} {result : β}
    (done : items.mapM step = .ok results) :
    result ∈ results ↔ ∃ item ∈ items, step item = .ok result := by
  have related : (∃ item ∈ items, step item = .ok result) ↔ ∃ other ∈ results, other = result := by
    apply exists_mem_iff_of_forall₂ (mapM_eq_ok.1 done)
    intro item other found
    rw [found, Except.ok.injEq]
  rw [related]
  simp

theorem exists_mapM_eq_ok {step : α → Except ε β} {items : List α}
    (passed : ∀ item ∈ items, ∃ result, step item = .ok result) :
    ∃ results, items.mapM step = .ok results := by
  cases outcome : items.mapM step with
  | ok results => exact ⟨results, rfl⟩
  | error error =>
    obtain ⟨before, item, after, rfl, _, failed⟩ := mapM_eq_error.1 outcome
    obtain ⟨result, done⟩ := passed item (List.mem_append_right _ List.mem_cons_self)
    rw [failed] at done
    cases done

theorem exists_of_mapM_eq_ok {step : α → Except ε β} {items : List α} {results : List β}
    (done : items.mapM step = .ok results) : ∀ item ∈ items, ∃ result, step item = .ok result := by
  have found (item : α) (result : β) (found : step item = .ok result) :
      (∃ result, step item = .ok result) ↔ True :=
    iff_true_intro ⟨result, found⟩
  exact (forall_mem_iff_of_forall₂ (mapM_eq_ok.1 done) found).2 fun _ _ => trivial

theorem foldlM_eq_error {σ : Type} {step : σ → α → Except ε σ} {items : List α} {start : σ}
    {error : ε} :
    items.foldlM step start = .error error ↔
      ∃ before item after met, items = before ++ item :: after ∧
        before.foldlM step start = .ok met ∧ step met item = .error error := by
  induction items generalizing start with
  | nil =>
    constructor
    · intro failed
      cases failed
    · rintro ⟨before, item, after, met, split, _⟩
      cases before <;> cases split
  | cons head rest ih =>
    rw [List.foldlM_cons, bind_eq_error]
    constructor
    · rintro (failed | ⟨next, done, failed⟩)
      · exact ⟨[], head, rest, start, rfl, rfl, failed⟩
      · obtain ⟨before, item, after, met, rfl, run, failed⟩ := ih.1 failed
        refine ⟨head :: before, item, after, met, rfl, ?_, failed⟩
        rw [List.foldlM_cons]
        exact bind_eq_ok.2 ⟨next, done, run⟩
    · rintro ⟨before, item, after, met, split, run, failed⟩
      cases before with
      | nil =>
        cases split
        cases run
        exact .inl failed
      | cons other before =>
        cases split
        rw [List.foldlM_cons] at run
        obtain ⟨next, done, run⟩ := bind_eq_ok.1 run
        exact .inr ⟨next, done, ih.2 ⟨before, item, after, met, rfl, run, failed⟩⟩

end Tabula
