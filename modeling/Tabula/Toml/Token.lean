import Tabula.Text.Numeral

/-! The tokens of TOML documents. Comments are left out; blanks are kept in front of letters, and line
ends are tokens. -/
namespace Tabula.Toml

inductive Token
  | newline
  | leftBracket
  | rightBracket
  | leftBrace
  | rightBrace
  | equals
  | comma
  /-- A dot, and whether it is right behind what stands before it. -/
  | dot (joined : Bool)
  /-- Letters without quotes, a key or a part of a value, and the blanks in front of them. -/
  | bare (gap letters : String)
  /-- A text on one line, which can be a key too. -/
  | text (content : String)
  /-- A text between three quotes on both sides. -/
  | block (content : String)
  deriving DecidableEq, Repr

abbrev Shorter (chars : List Char) := { rest : List Char // rest.length + 1 ≤ chars.length }

def isGap (c : Char) : Bool := c == ' ' || c == '\t'

/-- May stand in a text or a comment as it is; among control characters only the tab may. -/
def isPlain (c : Char) : Bool := c == '\t' || (' ' ≤ c && c != '\x7f')

def isKeyChar (c : Char) : Bool := c.isAlphanum || c == '_' || c == '-'

def mark? (joined : Bool) : Char → Option Token
  | '\n' => some .newline
  | '[' => some .leftBracket
  | ']' => some .rightBracket
  | '{' => some .leftBrace
  | '}' => some .rightBrace
  | '=' => some .equals
  | ',' => some .comma
  | '.' => some (.dot joined)
  | _ => none

/-- May stand in letters without quotes: whatever ends no token. Keys and values have rules of their
own. -/
def isBare (c : Char) : Bool := !(isGap c || c == '\r' || c == '#') && (mark? true c).isNone

def plainEscape? : Char → Option Char
  | 'b' => some '\x08'
  | 't' => some '\t'
  | 'n' => some '\n'
  | 'f' => some '\x0c'
  | 'r' => some '\r'
  | 'e' => some '\x1b'
  | '"' => some '"'
  | '\\' => some '\\'
  | _ => none

def escapeWidth? : Char → Option Nat
  | 'x' => some 2
  | 'u' => some 4
  | 'U' => some 8
  | _ => none

def escape (chars : List Char) : Option (Char × Shorter chars) :=
  match chars with
  | [] => none
  | c :: rest =>
    match plainEscape? c with
    | some meant => some (meant, ⟨rest, by simp⟩)
    | none => do
      let width ← escapeWidth? c
      let code ← Text.hexNumber? width rest
      if code.isValidChar then
        some (Char.ofNat code, ⟨rest.drop width, by simp only [List.length_drop, List.length_cons]; omega⟩)
      else none

def letter (chars : List Char) : Option (Char × Shorter chars) :=
  match chars with
  | [] => none
  | '\\' :: rest =>
    (escape rest).map fun (c, ⟨rest, _⟩) => (c, ⟨rest, by simp only [List.length_cons]; omega⟩)
  | c :: rest => if isPlain c then some (c, ⟨rest, by simp⟩) else none

def quoted (chars : List Char) : Option (List Char × Shorter chars) :=
  match chars with
  | '"' :: rest => some ([], ⟨rest, by simp⟩)
  | chars => do
    let (c, ⟨rest, shorter⟩) ← letter chars
    let (body, ⟨rest, least⟩) ← quoted rest
    some (c :: body, ⟨rest, Nat.le_trans least (Nat.le_of_lt shorter)⟩)
termination_by chars.length

def literal (chars : List Char) : Option (List Char × Shorter chars) :=
  match chars with
  | [] => none
  | '\'' :: rest => some ([], ⟨rest, by simp⟩)
  | c :: rest =>
    if isPlain c then do
      let (body, ⟨rest, _⟩) ← literal rest
      some (c :: body, ⟨rest, by simp only [List.length_cons]; omega⟩)
    else none

/-- A line end right behind the opening quotes of a block is not part of it. -/
def afterLineEnd : List Char → List Char
  | '\n' :: rest => rest
  | '\r' :: '\n' :: rest => rest
  | chars => chars

/-- Up to two more quotes before the three that close a block belong to its text. -/
def closing (quote : Char) (rest : List Char) : List Char × List Char :=
  let more := ((rest.take 2).takeWhile (· == quote)).length
  (List.replicate more quote, rest.drop more)

def skipBlank : List Char → List Char
  | [] => []
  | '\n' :: rest => skipBlank rest
  | '\r' :: '\n' :: rest => skipBlank rest
  | c :: rest => if isGap c then skipBlank rest else c :: rest

theorem length_skipBlank (chars : List Char) : (skipBlank chars).length ≤ chars.length := by
  fun_induction skipBlank chars with
  | case1 => exact Nat.le_refl _
  | case2 rest ih => exact Nat.le_succ_of_le ih
  | case3 rest ih => exact Nat.le_succ_of_le (Nat.le_succ_of_le ih)
  | case4 c rest _ _ _ ih => exact Nat.le_succ_of_le ih
  | case5 => exact Nat.le_refl _

/-- What follows a backslash at the end of a line: the text goes on at the next visible character. -/
def joined? (chars : List Char) : Option (List Char) :=
  match chars.dropWhile isGap with
  | '\n' :: rest => some (skipBlank rest)
  | '\r' :: '\n' :: rest => some (skipBlank rest)
  | _ => none

theorem length_joined? {chars rest : List Char} (found : joined? chars = some rest) :
    rest.length < chars.length := by
  have start := (List.dropWhile_sublist isGap (l := chars)).length_le
  unfold joined? at found
  split at found
  · rename_i tail same
    cases found
    have := length_skipBlank tail
    simp only [same, List.length_cons] at start
    omega
  · rename_i tail same
    cases found
    have := length_skipBlank tail
    simp only [same, List.length_cons] at start
    omega
  · simp at found

theorem length_closing (quote : Char) (rest : List Char) :
    (closing quote rest).2.length ≤ rest.length := by
  simp only [closing, List.length_drop]
  omega

theorem length_afterLineEnd (chars : List Char) : (afterLineEnd chars).length ≤ chars.length := by
  unfold afterLineEnd
  split
  · simp
  · simp only [List.length_cons]
    omega
  · exact Nat.le_refl _

def quotedBlock (chars : List Char) : Option (List Char × Shorter chars) :=
  match chars with
  | [] => none
  | '"' :: '"' :: '"' :: rest =>
    some ((closing '"' rest).1, ⟨(closing '"' rest).2, by
      have := length_closing '"' rest
      simp only [List.length_cons]
      omega⟩)
  | '\\' :: rest =>
    match found : joined? rest with
    | some left => do
      have := length_joined? found
      let (body, ⟨rest, _⟩) ← quotedBlock left
      some (body, ⟨rest, by simp only [List.length_cons]; omega⟩)
    | none => do
      let (c, ⟨rest, shorter⟩) ← escape rest
      let (body, ⟨rest, _⟩) ← quotedBlock rest
      some (c :: body, ⟨rest, by simp only [List.length_cons]; omega⟩)
  | '\r' :: '\n' :: rest => do
    let (body, ⟨rest, _⟩) ← quotedBlock rest
    some ('\r' :: '\n' :: body, ⟨rest, by simp only [List.length_cons]; omega⟩)
  | c :: rest =>
    if isPlain c || c == '\n' then do
      let (body, ⟨rest, _⟩) ← quotedBlock rest
      some (c :: body, ⟨rest, by simp only [List.length_cons]; omega⟩)
    else none
termination_by chars.length
decreasing_by all_goals simp only [List.length_cons]; omega

def literalBlock (chars : List Char) : Option (List Char × Shorter chars) :=
  match chars with
  | [] => none
  | '\'' :: '\'' :: '\'' :: rest =>
    some ((closing '\'' rest).1, ⟨(closing '\'' rest).2, by
      have := length_closing '\'' rest
      simp only [List.length_cons]
      omega⟩)
  | '\r' :: '\n' :: rest => do
    let (body, ⟨rest, _⟩) ← literalBlock rest
    some ('\r' :: '\n' :: body, ⟨rest, by simp only [List.length_cons]; omega⟩)
  | c :: rest =>
    if isPlain c || c == '\n' then do
      let (body, ⟨rest, _⟩) ← literalBlock rest
      some (c :: body, ⟨rest, by simp only [List.length_cons]; omega⟩)
    else none
termination_by chars.length
decreasing_by all_goals simp only [List.length_cons]; omega

def blockOf {chars : List Char} (read : List Char × Shorter chars) : Token × Shorter chars :=
  (.block (String.ofList read.1), read.2)

def textOf {chars : List Char} (read : List Char × Shorter chars) : Token × Shorter chars :=
  (.text (String.ofList read.1), read.2)

def widen {chars whole : List Char} (part : chars.length ≤ whole.length)
    (read : Token × Shorter chars) : Token × Shorter whole :=
  (read.1, ⟨read.2.val, Nat.le_trans read.2.property part⟩)

def lexeme (gap chars : List Char) : Option (Token × Shorter chars) :=
  match chars with
  | [] => none
  | '"' :: '"' :: '"' :: rest =>
    (quotedBlock (afterLineEnd rest)).map fun read => widen (by
      have := length_afterLineEnd rest
      simp only [List.length_cons]
      omega) (blockOf read)
  | '\'' :: '\'' :: '\'' :: rest =>
    (literalBlock (afterLineEnd rest)).map fun read => widen (by
      have := length_afterLineEnd rest
      simp only [List.length_cons]
      omega) (blockOf read)
  | '"' :: rest => (quoted rest).map fun read => widen (by simp) (textOf read)
  | '\'' :: rest => (literal rest).map fun read => widen (by simp) (textOf read)
  | '\r' :: '\n' :: rest => some (.newline, ⟨rest, by simp only [List.length_cons]; omega⟩)
  | c :: rest =>
    match mark? gap.isEmpty c with
    | some token => some (token, ⟨rest, by simp⟩)
    | none =>
      if isBare c then
        let letters := c :: rest.takeWhile isBare
        some (.bare (String.ofList gap) (String.ofList letters), ⟨rest.dropWhile isBare, by
          have := (List.dropWhile_sublist isBare (l := rest)).length_le
          simp only [List.length_cons]
          omega⟩)
      else none

def atLineEnd : List Char → Bool
  | [] => true
  | c :: _ => c == '\n' || c == '\r'

def scan (chars : List Char) : Option (List Token) :=
  match _start : chars.dropWhile isGap with
  | [] => some []
  | '#' :: rest =>
    if atLineEnd (rest.dropWhile isPlain) then scan (rest.dropWhile isPlain) else none
  | first => do
    let (token, ⟨rest, _⟩) ← lexeme (chars.takeWhile isGap) first
    return token :: (← scan rest)
termination_by chars.length
decreasing_by
  · have := (List.dropWhile_sublist isGap (l := chars)).length_le
    have := (List.dropWhile_sublist isPlain (l := rest)).length_le
    simp only [_start, List.length_cons] at *
    omega
  · have := (List.dropWhile_sublist isGap (l := chars)).length_le
    simp only [_start] at *
    omega

end Tabula.Toml
