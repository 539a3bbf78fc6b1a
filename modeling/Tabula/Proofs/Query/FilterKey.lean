import Mathlib.Data.List.Infix
import Tabula.Proofs.Schema.StableName
import Tabula.Query.Filter

/-! The grammar of filter keys, and that reading a key follows it. -/
namespace Tabula
open Text

/-- How a key names its target: by digits, or by the name of a column of instants. -/
def IsTarget (target : List Char) : Prop :=
  (target ≠ [] ∧ ∀ c ∈ target, isDigit c = true) ∨ target = "created_on".toList ∨
    target = "updated_on".toList

/-- A key in the form `filter__field_<target>__<operator>`. -/
structure Spells (key : String) (target op : List Char) : Prop where
  spelling : key.toList = "filter__field_".toList ++ (target ++ "__".toList ++ op)
  target : IsTarget target
  op : ∀ c ∈ op, isOpChar c = true

theorem eq_append_of_splitPair {chars before after : List Char}
    (split : splitPair chars = some (before, after)) : chars = before ++ "__".toList ++ after := by
  fun_induction splitPair chars generalizing before with
  | case1 rest =>
    cases split
    rfl
  | case2 c rest _ ih =>
    rw [Option.map_eq_some_iff] at split
    obtain ⟨⟨front, back⟩, found, same⟩ := split
    cases same
    rw [ih found]
    rfl
  | case3 => cases split

theorem splitPair_cons {c : Char} {rest : List Char} (plain : c ≠ '_') :
    splitPair (c :: rest) = (splitPair rest).map fun (before, after) => (c :: before, after) := by
  rw [splitPair]
  intro _ same
  exact absurd same plain

theorem splitPair_digits {digits : List Char} (numeric : ∀ c ∈ digits, isDigit c = true)
    (op : List Char) : splitPair (digits ++ "__".toList ++ op) = some (digits, op) := by
  induction digits with
  | nil => rfl
  | cons c rest ih =>
    have plain : c ≠ '_' := by
      intro same
      have digit := numeric c List.mem_cons_self
      rw [same] at digit
      exact absurd digit (by decide)
    have others := ih fun other inside => numeric other (List.mem_cons_of_mem _ inside)
    rw [List.cons_append, List.cons_append, splitPair_cons plain, others]
    rfl

theorem splitPair_target {target : List Char} (written : IsTarget target) (op : List Char) :
    splitPair (target ++ "__".toList ++ op) = some (target, op) := by
  rcases written with ⟨_, numeric⟩ | rfl | rfl
  · exact splitPair_digits numeric op
  · rfl
  · rfl

theorem digits?_isSome {chars : List Char} :
    (digits? chars).isSome = true ↔ chars ≠ [] ∧ ∀ c ∈ chars, isDigit c = true := by
  unfold digits?
  split
  · rename_i numeric
    simpa using numeric
  · rename_i other
    simpa using other

theorem filterable?_isSome {name : String} :
    (SystemColumn.filterable? name).isSome = true ↔ name = "created_on" ∨ name = "updated_on" := by
  unfold SystemColumn.filterable?
  rw [List.find?_isSome]
  simp [SystemColumn.name, eq_comm]

theorem ofChars?_isSome {target : List Char} :
    (FilterTarget.ofChars? target).isSome = true ↔ IsTarget target := by
  unfold FilterTarget.ofChars? IsTarget
  rw [← digits?_isSome]
  cases digits? target with
  | some number =>
    dsimp only
    split <;> simp
  | none =>
    rw [Option.isSome_map, filterable?_isSome]
    simp only [Option.isSome_none, Bool.false_eq_true, false_or, ← String.toList_inj,
      String.toList_ofList]

/-- A key is read as what its one spelling says. -/
theorem ofText?_eq_some {key : String} {read : FilterKey} :
    FilterKey.ofText? key = some read ↔
      ∃ target op, Spells key target op ∧ FilterTarget.ofChars? target = some read.target ∧
        read.op = String.ofList op := by
  unfold FilterKey.ofText?
  simp only [Option.bind_eq_bind, Option.bind_eq_some_iff, afterStart?_eq_some]
  constructor
  · intro given
    obtain ⟨rest, begun, ⟨target, op⟩, split, done⟩ := given
    dsimp only at done
    split at done
    · rename_i allowed
      obtain ⟨named, meant, same⟩ := Option.bind_eq_some_iff.1 done
      cases same
      refine ⟨target, op, ⟨?_, ?_, ?_⟩, meant, rfl⟩
      · rw [begun, eq_append_of_splitPair split]
        rfl
      · rw [← ofChars?_isSome, meant]
        rfl
      · exact List.all_eq_true.1 allowed
    · cases done
  · intro given
    obtain ⟨target, op, spelled, meant, same⟩ := given
    refine ⟨_, spelled.spelling, (target, op), splitPair_target spelled.target op, ?_⟩
    dsimp only
    rw [if_pos (List.all_eq_true.2 spelled.op), Option.bind_eq_some_iff]
    refine ⟨read.target, meant, ?_⟩
    rw [← same]
    rfl

theorem ofText?_isSome {key : String} :
    (FilterKey.ofText? key).isSome = true ↔ ∃ target op, Spells key target op := by
  rw [Option.isSome_iff_exists]
  constructor
  · intro given
    obtain ⟨read, found⟩ := given
    obtain ⟨target, op, spelled, _⟩ := ofText?_eq_some.1 found
    exact ⟨target, op, spelled⟩
  · intro given
    obtain ⟨target, op, spelled⟩ := given
    obtain ⟨named, meant⟩ := Option.isSome_iff_exists.1 (ofChars?_isSome.2 spelled.target)
    exact ⟨⟨named, String.ofList op⟩, ofText?_eq_some.2 ⟨target, op, spelled, meant, rfl⟩⟩

theorem Spells.unique {key : String} {target op target' op' : List Char}
    (left : Spells key target op) (right : Spells key target' op') : target = target' ∧ op = op' := by
  have same := left.spelling.symm.trans right.spelling
  rw [List.append_right_inj] at same
  have first := splitPair_target left.target op
  rw [same, splitPair_target right.target] at first
  cases first
  exact ⟨rfl, rfl⟩

end Tabula
