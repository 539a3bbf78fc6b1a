import Tabula.Json
import Tabula.Text.Numeral

/-! Reading JSON text. -/
namespace Tabula.Json
open Text

/-- What is left of `chars` after at least one of them. -/
abbrev After (chars : List Char) := { rest : List Char // rest.length < chars.length }

def isBlank (c : Char) : Bool := c == ' ' || c == '\t' || c == '\n' || c == '\r'

def skipBlanks (chars : List Char) : List Char := chars.dropWhile isBlank

theorem length_skipBlanks {chars rest : List Char} (same : skipBlanks chars = rest) :
    rest.length ≤ chars.length :=
  same ▸ (List.dropWhile_sublist _).length_le

def plainEscape? : Char → Option Char
  | '"' => some '"'
  | '\\' => some '\\'
  | '/' => some '/'
  | 'b' => some '\x08'
  | 'f' => some '\x0c'
  | 'n' => some '\n'
  | 'r' => some '\r'
  | 't' => some '\t'
  | _ => none

def paired? (high low : Nat) : Option Char :=
  if 0xDC00 ≤ low ∧ low < 0xE000 then
    some (Char.ofNat (0x10000 + (high - 0xD800) * 0x400 + (low - 0xDC00)))
  else none

def escape (chars : List Char) : Option (Char × After chars) :=
  match chars with
  | 'u' :: rest => do
    let code ← hexNumber? 4 rest
    if 0xD800 ≤ code ∧ code < 0xDC00 then
      match follows : rest.drop 4 with
      | '\\' :: 'u' :: tail => do
        let c ← paired? code (← hexNumber? 4 tail)
        some (c, ⟨tail.drop 4, by
          have := congrArg List.length follows
          simp only [List.length_drop, List.length_cons] at *
          omega⟩)
      | _ => none
    else if code.isValidChar then
      some (Char.ofNat code, ⟨rest.drop 4, by simp only [List.length_drop, List.length_cons]; omega⟩)
    else none
  | c :: rest => (plainEscape? c).map fun meant => (meant, ⟨rest, by simp⟩)
  | [] => none

def quoted (chars : List Char) : Option (List Char × After chars) :=
  match chars with
  | [] => none
  | '"' :: rest => some ([], ⟨rest, by simp⟩)
  | '\\' :: rest => do
    let (c, ⟨rest, shorter⟩) ← escape rest
    let (body, ⟨rest, _⟩) ← quoted rest
    some (c :: body, ⟨rest, by simp only [List.length_cons]; omega⟩)
  | c :: rest =>
    if ' ' ≤ c then do
      let (body, ⟨rest, _⟩) ← quoted rest
      some (c :: body, ⟨rest, by simp only [List.length_cons]; omega⟩)
    else none
termination_by chars.length

def isNumberChar (c : Char) : Bool := isDigit c || "+-.eE".toList.contains c

/-- Digits taken in while the number stays below 64 bits, and how many more there are. -/
def takeIn (number : Nat) : List Char → Nat × Nat
  | [] => (number, 0)
  | c :: rest =>
    let next := 10 * number + digitValue c
    if next < UInt64.size then takeIn next rest else (number, rest.length + 1)

def floating (negative : Bool) (number : Nat) (exponent : Int) : Json :=
  .float { (Binary64.ofRatio false number 1).scale exponent with negative }

def exponent? : List Char → Option Int
  | [] => some 0
  | mark :: chars =>
    let (negative, run) := splitSign chars
    if mark = 'e' ∨ mark = 'E' then
      (digits? run).map fun size => if negative then -(size : Int) else size
    else none

/-- A number without point and exponent is whole, if it fits into 64 bits with or without a sign. -/
def ofPlainNumber (negative : Bool) (whole : List Char) : Json :=
  let (number, more) := takeIn 0 whole
  if 0 < more then floating negative number more
  else if !negative then .whole number
  else if number = 0 ∨ UInt64.size < 2 * number then floating true number 0
  else .whole (-(number : Int))

/-- All other numbers are floating point numbers; digits beyond 64 bits count for nothing. -/
def number? (chars : List Char) : Option Json := do
  let (negative, body) := match chars with
    | '-' :: body => (true, body)
    | body => (false, body)
  let whole := body.takeWhile isDigit
  let tail := body.dropWhile isDigit
  if whole.isEmpty then none
  else
    match tail with
    | [] => return ofPlainNumber negative whole
    | '.' :: tail =>
      let fraction := tail.takeWhile isDigit
      let shift ← exponent? (tail.dropWhile isDigit)
      if fraction.isEmpty then none
      else
        let (number, more) := takeIn 0 (whole ++ fraction)
        return floating negative number (more - (fraction.length : Int) + shift)
    | tail =>
      let (number, more) := takeIn 0 whole
      return floating negative number (more + (← exponent? tail))

def numberAt (chars : List Char) : Option (Json × After chars) :=
  match chars with
  | [] => none
  | c :: rest =>
    if isNumberChar c then
      (number? (c :: rest.takeWhile isNumberChar)).map fun number =>
        (number, ⟨rest.dropWhile isNumberChar, by
          have := (List.dropWhile_sublist isNumberChar (l := rest)).length_le
          simp only [List.length_cons]
          omega⟩)
    else none

mutual

def value (chars : List Char) : Option (Json × After chars) :=
  match start : skipBlanks chars with
  | 'n' :: 'u' :: 'l' :: 'l' :: rest =>
    some (.null, ⟨rest, by have := length_skipBlanks start; simp only [List.length_cons] at this; omega⟩)
  | 't' :: 'r' :: 'u' :: 'e' :: rest =>
    some (.bool true, ⟨rest, by
      have := length_skipBlanks start; simp only [List.length_cons] at this; omega⟩)
  | 'f' :: 'a' :: 'l' :: 's' :: 'e' :: rest =>
    some (.bool false, ⟨rest, by
      have := length_skipBlanks start; simp only [List.length_cons] at this; omega⟩)
  | '"' :: rest => do
    have := length_skipBlanks start
    let (body, ⟨rest, _⟩) ← quoted rest
    some (.text (String.ofList body), ⟨rest, by simp only [List.length_cons] at this; omega⟩)
  | '[' :: rest => do
    have := length_skipBlanks start
    have : rest.length + 1 ≤ _ := this
    match next : skipBlanks rest with
    | ']' :: rest =>
      some (.list [], ⟨rest, by
        have := length_skipBlanks next; simp only [List.length_cons] at this; omega⟩)
    | _ =>
      let (items, ⟨rest, _⟩) ← items rest
      some (.list items, ⟨rest, by omega⟩)
  | '\x7b' :: rest => do
    have := length_skipBlanks start
    have : rest.length + 1 ≤ _ := this
    match next : skipBlanks rest with
    | '\x7d' :: rest =>
      some (.object [], ⟨rest, by
        have := length_skipBlanks next; simp only [List.length_cons] at this; omega⟩)
    | _ =>
      let (entries, ⟨rest, _⟩) ← entries rest
      some (.object entries, ⟨rest, by omega⟩)
  | first => do
    have := length_skipBlanks start
    let (number, ⟨rest, _⟩) ← numberAt first
    some (number, ⟨rest, by omega⟩)
termination_by 2 * chars.length

def items (chars : List Char) : Option (List Json × After chars) := do
  let (item, ⟨rest, shorter⟩) ← value chars
  match next : skipBlanks rest with
  | ',' :: rest => do
    have := length_skipBlanks next
    have : rest.length + 1 ≤ _ := this
    let (others, ⟨rest, _⟩) ← items rest
    some (item :: others, ⟨rest, by omega⟩)
  | ']' :: rest =>
    have := length_skipBlanks next
    have : rest.length + 1 ≤ _ := this
    some ([item], ⟨rest, by omega⟩)
  | _ => none
termination_by 2 * chars.length + 1

def entries (chars : List Char) : Option (List (String × Json) × After chars) := do
  match start : skipBlanks chars with
  | '"' :: rest => do
    have := length_skipBlanks start
    have : rest.length + 1 ≤ _ := this
    let (key, ⟨rest, _⟩) ← quoted rest
    match colon : skipBlanks rest with
    | ':' :: rest => do
      have := length_skipBlanks colon
      have : rest.length + 1 ≤ _ := this
      let (json, ⟨rest, _⟩) ← value rest
      match next : skipBlanks rest with
      | ',' :: rest => do
        have := length_skipBlanks next
        have : rest.length + 1 ≤ _ := this
        let (others, ⟨rest, _⟩) ← entries rest
        some (putEntry (String.ofList key) json others, ⟨rest, by omega⟩)
      | '\x7d' :: rest =>
        have := length_skipBlanks next
        have : rest.length + 1 ≤ _ := this
        some ([(String.ofList key, json)], ⟨rest, by omega⟩)
      | _ => none
    | _ => none
  | _ => none
termination_by 2 * chars.length + 1

end

def parse? (source : String) : Option Json := do
  let (json, ⟨rest, _⟩) ← value source.toList
  if (skipBlanks rest).isEmpty then some json else none

end Tabula.Json
