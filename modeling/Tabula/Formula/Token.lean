import Tabula.Decimal.Text
import Tabula.Formula.Error
import Tabula.Text.Blank
import Tabula.Text.Numeric

/-! The tokens of a formula. -/
namespace Tabula.Formula
open Text

inductive Token
  | number (amount : Decimal)
  | text (content : String)
  | name (letters : String)
  | leftParen
  | rightParen
  | comma
  | operator (operator : Operator)
  deriving DecidableEq, Repr

structure Placed where
  position : Nat
  token : Token
  deriving DecidableEq, Repr

def Token.description : Token → String
  | number amount => amount.text
  | text content => s!"'{content}'"
  | name letters => letters
  | leftParen => "("
  | rightParen => ")"
  | comma => ","
  | operator op => op.symbol.toString

def byteLength (chars : List Char) : Nat := chars.foldl (fun size c => size + c.utf8Size) 0

def mark? : Char → Option Token
  | '(' => some .leftParen
  | ')' => some .rightParen
  | ',' => some .comma
  | '+' => some (.operator .add)
  | '-' => some (.operator .sub)
  | '*' => some (.operator .mul)
  | '/' => some (.operator .div)
  | _ => none

/-- Reads a text up to its closing quote; a backslash takes the next character as it is. -/
def quoted (quote : Char) : List Char → Option (List Char × List Char)
  | [] => none
  | '\\' :: c :: rest => (quoted quote rest).map fun (body, rest) => (c :: body, rest)
  | '\\' :: [] => none
  | c :: rest =>
    if c = quote then some ([], rest)
    else (quoted quote rest).map fun (body, rest) => (c :: body, rest)

def isNumberChar (c : Char) : Bool := isDigit c || c == '.'

def isNameStart (c : Char) : Bool := isAlphabetic c || c == '_'

def isNameChar (c : Char) : Bool := isAlphanumeric c || c == '_'

def lexeme (position : Nat) (c : Char) (rest : List Char) : Except Error (Token × List Char) :=
  match mark? c with
  | some token => .ok (token, rest)
  | none =>
    if c = '\'' ∨ c = '"' then
      match quoted c rest with
      | some (body, rest) => .ok (.text (String.ofList body), rest)
      | none => .error (.unterminatedText position)
    else if isNumberChar c then
      let run := c :: rest.takeWhile isNumberChar
      match Decimal.ofChars? run with
      | some number => .ok (.number number, rest.dropWhile isNumberChar)
      | none => .error (.invalidNumber (String.ofList run))
    else if isNameStart c then
      .ok (.name (String.ofList (c :: rest.takeWhile isNameChar)), rest.dropWhile isNameChar)
    else .error (.unexpectedChar position c)

theorem length_quoted {quote : Char} {chars body rest : List Char}
    (read : quoted quote chars = some (body, rest)) : rest.length < chars.length := by
  fun_induction quoted quote chars generalizing body rest with
  | case1 => simp at read
  | case2 c tail ih =>
    simp only [Option.map_eq_some_iff] at read
    obtain ⟨⟨inner, left⟩, found, same⟩ := read
    cases same
    have := ih found
    simp only [List.length_cons]
    omega
  | case3 => simp at read
  | case4 c tail =>
    simp_all
  | case5 c tail _ _ _ ih =>
    simp only [Option.map_eq_some_iff] at read
    obtain ⟨⟨inner, left⟩, found, same⟩ := read
    cases same
    have := ih found
    simp only [List.length_cons]
    omega

theorem length_lexeme {position : Nat} {c : Char} {chars rest : List Char} {token : Token}
    (read : lexeme position c chars = .ok (token, rest)) : rest.length ≤ chars.length := by
  unfold lexeme at read
  split at read
  · cases read
    exact Nat.le_refl _
  · split at read
    · split at read
      · rename_i found
        cases read
        exact Nat.le_of_lt (length_quoted found)
      · simp at read
    · split at read
      · dsimp only at read
        split at read
        · cases read
          exact (List.dropWhile_sublist _).length_le
        · simp at read
      · split at read
        · cases read
          exact (List.dropWhile_sublist _).length_le
        · simp at read

def scan (size : Nat) (chars : List Char) : Except Error (List Placed) :=
  match chars with
  | [] => .ok []
  | c :: rest =>
    if isBlank c then scan size rest
    else
      let position := size - byteLength (c :: rest)
      match _read : lexeme position c rest with
      | .error error => .error error
      | .ok (token, left) => (scan size left).map (⟨position, token⟩ :: ·)
termination_by chars.length
decreasing_by
  · simp
  · have := length_lexeme _read
    simp only [List.length_cons]
    omega

def tokens (source : String) : Except Error (List Placed) := scan source.utf8ByteSize source.toList

end Tabula.Formula
