import Tabula.Calendar.Reader
import Tabula.Toml.Basic

/-! Values written in letters without quotes: truth values, whole numbers, floats, dates and times. -/
namespace Tabula.Toml
open Text Calendar

def joinDigits? (isDigit : Char → Bool) : List Char → Option (List Char)
  | [] => some []
  | '_' :: _ => none
  | c :: '_' :: rest =>
    if isDigit c && rest.head?.any isDigit then (joinDigits? isDigit rest).map (c :: ·) else none
  | c :: rest => (joinDigits? isDigit rest).map (c :: ·)

def isDigitOf (base : Nat) (c : Char) : Bool := (hexDigit? c).any (· < base)

def baseNumber? (base : Nat) (chars : List Char) : Option Nat := do
  let digits ← chars.mapM fun c => (hexDigit? c).filter (· < base)
  if digits.isEmpty then none else some (digits.foldl (base * · + ·) 0)

def based? (base : Nat) (chars : List Char) : Option Toml := do
  let digits ← joinDigits? (isDigitOf base) chars
  if digits.all (isDigitOf base) then some (.integer ((baseNumber? base digits).map Int.ofNat))
  else none

def hasZeros : List Char → Bool
  | '0' :: c :: _ => isDigit c || c == '_'
  | _ => false

/-- Whether letters are digits, or digits that an underscore and more letters follow; a blank, a point
and the letter of an exponent are none of them. -/
def isWhole (size : List Char) : Bool :=
  match size.dropWhile isDigit with
  | [] => !size.isEmpty
  | '_' :: rest => !rest.any " .eE".toList.contains
  | _ => false

/-- A whole number in base ten. Underscores stand between hexadecimal digits, and where other letters
than digits are left the number has no value. -/
def decimal? (chars : List Char) : Option Toml :=
  let (negative, size) := splitSign chars
  if isWhole size && !hasZeros size then do
    let digits ← joinDigits? (isDigitOf 16) size
    let number := (baseNumber? 10 digits).map fun number => if negative then -(number : Int) else number
    some (.integer number)
  else none

def integer? : List Char → Option Toml
  | '0' :: 'x' :: rest => based? 16 rest
  | '0' :: 'o' :: rest => based? 8 rest
  | '0' :: 'b' :: rest => based? 2 rest
  | chars => decimal? chars

def isDigits (chars : List Char) : Bool := !chars.isEmpty && chars.all isDigit

def isExponent (chars : List Char) : Bool := isDigits (splitSign chars).2

def isFraction (chars : List Char) : Bool :=
  isDigits (chars.takeWhile isDigit) &&
    match chars.dropWhile isDigit with
    | [] => true
    | 'e' :: rest | 'E' :: rest => isExponent rest
    | _ => false

def isReal (chars : List Char) : Bool :=
  isDigits (chars.takeWhile isDigit) &&
    match chars.dropWhile isDigit with
    | '.' :: rest => isFraction rest
    | 'e' :: rest | 'E' :: rest => isExponent rest
    | _ => false

/-- A number that is written as no whole one; or one of the words for no finite number. -/
def isFloat (chars : List Char) : Bool :=
  let (_, size) := splitSign chars
  size == ['i', 'n', 'f'] || size == ['n', 'a', 'n'] ||
    !hasZeros size && (joinDigits? isDigit size).any isReal

/-- What follows a time of day, of which the seconds may be missing; a leap second is one. -/
def afterTime? (chars : List Char) : Option (List Char) := do
  let (_, rest) ← readMinutes chars
  match rest with
  | ':' :: rest =>
    let (second, rest) ← takeDigits 2 rest
    if second ≤ 60 then (readFraction rest).map (·.2) else none
  | rest => some rest

def isMoment (chars : List Char) : Bool :=
  match readCivil chars with
  | none => afterTime? chars == some []
  | some (date, rest) =>
    date.isReal &&
      match rest with
      | [] => true
      | separator :: rest =>
        "Tt ".toList.contains separator &&
          (afterTime? rest).any fun rest => rest.isEmpty || (readOffset rest).isSome

def scalar? (letters : String) : Option Toml :=
  let chars := letters.toList
  match letters with
  | "true" => some (.boolean true)
  | "false" => some (.boolean false)
  | letters =>
    match integer? chars with
    | some number => some number
    | none =>
      if isFloat chars then some (.float letters)
      else if isMoment chars then some (.moment letters)
      else none

end Tabula.Toml
