import Tabula.Toml.Scalar
import Tabula.Toml.Token

/-! TOML documents: lines of keys with values, and headers that open tables. -/
namespace Tabula.Toml

abbrev After (tokens : List Token) := { rest : List Token // rest.length < tokens.length }

def key? : Token → Option String
  | .bare _ letters => if letters.toList.all isKeyChar then some letters else none
  | .text content => some content
  | _ => none

def keys? (tokens : List Token) : Option (List String × After tokens) :=
  match tokens with
  | [] => none
  | first :: .dot _ :: rest => do
    let key ← key? first
    let (keys, ⟨rest, _⟩) ← keys? rest
    some (key :: keys, ⟨rest, by simp only [List.length_cons]; omega⟩)
  | first :: rest => (key? first).map fun key => ([key], ⟨rest, by simp⟩)

def path? (tokens : List Token) : Option (List String × After tokens) :=
  (keys? tokens).filter (·.1.length ≤ depthLimit)

/-- The letters that belong to a value without quotes which has begun: a dot right behind it, more
letters behind a dot, and more letters behind blanks. -/
def moreLetters : List Token → String × List Token
  | .dot true :: rest => ("." ++ (moreLetters rest).1, (moreLetters rest).2)
  | .bare gap letters :: rest => (gap ++ letters ++ (moreLetters rest).1, (moreLetters rest).2)
  | rest => ("", rest)

theorem length_moreLetters (tokens : List Token) :
    (moreLetters tokens).2.length ≤ tokens.length := by
  fun_induction moreLetters tokens with
  | case1 rest ih => exact Nat.le_succ_of_le ih
  | case2 gap letters rest ih => exact Nat.le_succ_of_le ih
  | case3 => exact Nat.le_refl _

def letters? (tokens : List Token) : Option (String × After tokens) :=
  match tokens with
  | .bare _ letters :: rest =>
    some (letters ++ (moreLetters rest).1, ⟨(moreLetters rest).2, by
      have := length_moreLetters rest
      simp only [List.length_cons]
      omega⟩)
  | _ => none

def skipNewlines (tokens : List Token) : List Token := tokens.dropWhile (· = .newline)

theorem length_skipNewlines {tokens rest : List Token} (same : skipNewlines tokens = rest) :
    rest.length ≤ tokens.length :=
  same ▸ (List.dropWhile_sublist _).length_le

mutual

def value (room : Nat) (tokens : List Token) : Option (Toml × After tokens) :=
  match tokens, room with
  | .text content :: rest, _ => some (.text content, ⟨rest, by simp⟩)
  | .block content :: rest, _ => some (.text content, ⟨rest, by simp⟩)
  | .leftBracket :: rest, room + 1 => do
    let (values, ⟨rest, _⟩) ← items room rest
    some (.list values, ⟨rest, by simp only [List.length_cons]; omega⟩)
  | .leftBrace :: rest, room + 1 => do
    let (entries, ⟨rest, _⟩) ← enclosed room [] rest
    some (.table .enclosed entries, ⟨rest, by simp only [List.length_cons]; omega⟩)
  | tokens, _ => do
    let (letters, rest) ← letters? tokens
    return (← scalar? letters, rest)
termination_by 2 * tokens.length

/-- The rest of a list, over any number of lines; a comma may follow the last item. -/
def items (room : Nat) (tokens : List Token) : Option (List Toml × After tokens) :=
  match start : skipNewlines tokens with
  | .rightBracket :: rest =>
    have := length_skipNewlines start
    some ([], ⟨rest, by simp_all only [List.length_cons]; omega⟩)
  | first => do
    have := length_skipNewlines start
    let (item, ⟨rest, shorter⟩) ← value room first
    match next : skipNewlines rest with
    | .comma :: rest => do
      have := length_skipNewlines next
      have : rest.length + 1 ≤ _ := this
      let (others, ⟨rest, _⟩) ← items room rest
      some (item :: others, ⟨rest, by omega⟩)
    | .rightBracket :: rest =>
      have := length_skipNewlines next
      have : rest.length + 1 ≤ _ := this
      some ([item], ⟨rest, by omega⟩)
    | _ => none
termination_by 2 * tokens.length + 1

/-- The rest of a table between braces, which has `entries` so far. Lines may end around keys and
values, and not within a key. -/
def enclosed (room : Nat) (entries : Entries) (tokens : List Token) :
    Option (Entries × After tokens) :=
  match start : skipNewlines tokens with
  | .rightBrace :: rest =>
    have := length_skipNewlines start
    some (entries, ⟨rest, by simp_all only [List.length_cons]; omega⟩)
  | first => do
    have := length_skipNewlines start
    let (path, ⟨rest, shorter⟩) ← path? first
    match mark : skipNewlines rest with
    | .equals :: rest => do
      have := length_skipNewlines mark
      have : rest.length + 1 ≤ _ := this
      have : (skipNewlines rest).length ≤ rest.length := length_skipNewlines rfl
      let (value, ⟨rest, _⟩) ← value room (skipNewlines rest)
      let entries ← assign value path entries
      match next : skipNewlines rest with
      | .comma :: rest => do
        have := length_skipNewlines next
        have : rest.length + 1 ≤ _ := this
        let (entries, ⟨rest, _⟩) ← enclosed room entries rest
        some (entries, ⟨rest, by omega⟩)
      | .rightBrace :: rest =>
        have := length_skipNewlines next
        have : rest.length + 1 ≤ _ := this
        some (entries, ⟨rest, by omega⟩)
      | _ => none
    | _ => none
termination_by 2 * tokens.length + 1

end

structure Document where
  entries : Entries := []
  opened : List String := []
  deriving Repr

def Document.line (document : Document) (tokens : List Token) :
    Option (Document × After tokens) :=
  match tokens with
  | .leftBracket :: rest => do
    let (path, ⟨rest, shorter⟩) ← path? rest
    match rest, shorter with
    | .rightBracket :: rest, shorter => do
      have : rest.length + 1 < _ := shorter
      let entries ← openTable path document.entries
      some (⟨entries, path⟩, ⟨rest, by simp only [List.length_cons]; omega⟩)
    | _, _ => none
  | tokens => do
    let (path, ⟨rest, shorter⟩) ← path? tokens
    match rest, shorter with
    | .equals :: rest, shorter => do
      have : rest.length + 1 < _ := shorter
      let (value, ⟨rest, _⟩) ← value depthLimit rest
      let entries ← within (assign value path) document.opened document.entries
      some ({ document with entries }, ⟨rest, by omega⟩)
    | _, _ => none

def Document.lines (document : Document) (tokens : List Token) : Option Document :=
  match tokens with
  | [] => some document
  | .newline :: rest => document.lines rest
  | first :: rest => do
    let (document, ⟨rest, shorter⟩) ← document.line (first :: rest)
    match rest, shorter with
    | [], _ => some document
    | .newline :: rest, shorter =>
      have : rest.length + 1 < _ := shorter
      document.lines rest
    | _, _ => none
termination_by tokens.length
decreasing_by
  · simp
  · simp only [List.length_cons] at *
    omega

/-- The entries of a document, which may begin with a byte order mark. -/
def parse? (source : String) : Option Entries := do
  let chars := match source.toList with
    | '\uFEFF' :: rest => rest
    | chars => chars
  return (← Document.lines {} (← scan chars)).entries

end Tabula.Toml
