/-! Byte strings of numbers. -/
namespace Tabula

abbrev Bytes := List UInt8

attribute [local instance (10000)] instPowNat

/-- The last `count` bytes of a number, the highest first. -/
def bigEndian (count number : Nat) : Bytes :=
  (List.range count).reverse.map fun place => UInt8.ofNat (number / 256 ^ place)

def bigEndianInt (count : Nat) (number : Int) : Bytes :=
  bigEndian count (number % (256 : Int) ^ count).toNat

def hexDigit (digit : Nat) : Char := "0123456789abcdef".toList.getD digit '0'

def hexText (bytes : Bytes) : String :=
  String.ofList (bytes.flatMap fun byte => [hexDigit (byte.toNat / 16), hexDigit (byte.toNat % 16)])

end Tabula
