/-! Decimal numerals of natural numbers. -/
namespace Tabula.Text

def isDigit (c : Char) : Bool := '0' ≤ c && c ≤ '9'

def digitValue (c : Char) : Nat := c.toNat - '0'.toNat

def digitChar (digit : Nat) : Char := Char.ofNat ('0'.toNat + digit)

def digits (number : Nat) : List Char :=
  if number < 10 then [digitChar number] else digits (number / 10) ++ [digitChar (number % 10)]

def digitsValue (chars : List Char) : Nat :=
  chars.foldl (fun value c => 10 * value + digitValue c) 0

def padLeft (width : Nat) (chars : List Char) : List Char :=
  List.replicate (width - chars.length) '0' ++ chars

def paddedDigits (width number : Nat) : List Char := padLeft width (digits number)

def integerChars (number : Int) : List Char :=
  if number < 0 then '-' :: digits number.natAbs else digits number.natAbs

def digits? (chars : List Char) : Option Nat :=
  if !chars.isEmpty && chars.all isDigit then some (digitsValue chars) else none

/-- Reads digits after an optional plus, below `limit`. -/
def unsigned? (limit : Nat) (chars : List Char) : Option Nat :=
  let body := match chars with
    | '+' :: rest => rest
    | _ => chars
  (digits? body).filter (· < limit)

/-- Splits off a leading sign; true for a minus. -/
def splitSign : List Char → Bool × List Char
  | '-' :: rest => (true, rest)
  | '+' :: rest => (false, rest)
  | chars => (false, chars)

def takeDigits (count : Nat) (chars : List Char) : Option (Nat × List Char) :=
  let run := chars.take count
  if run.length = count && run.all isDigit then some (digitsValue run, chars.drop count) else none

def word64? (text : String) : Option UInt64 := (unsigned? UInt64.size text.toList).map UInt64.ofNat

def hexDigit? (c : Char) : Option Nat :=
  if isDigit c then some (digitValue c)
  else if 'a' ≤ c && c ≤ 'f' then some (c.toNat - 'a'.toNat + 10)
  else if 'A' ≤ c && c ≤ 'F' then some (c.toNat - 'A'.toNat + 10)
  else none

def hexNumber? (width : Nat) (chars : List Char) : Option Nat := do
  let digits ← (chars.take width).mapM hexDigit?
  if digits.length = width then some (digits.foldl (16 * · + ·) 0) else none

theorem digits_ne_nil (number : Nat) : digits number ≠ [] := by
  unfold digits
  split <;> simp

end Tabula.Text
