/-! Values and tables of TOML documents. -/
namespace Tabula

/-- How a table came about decides what may still be added to it. -/
inductive TableOrigin
  /-- By a header that names a table further inside. -/
  | implied
  /-- By a header of its own. -/
  | header
  /-- By a dotted key. -/
  | dotted
  /-- As a value between braces. -/
  | enclosed
  deriving DecidableEq, Repr

inductive Toml
  /-- A whole number, or none where the letters that write it are not the digits of one. -/
  | integer (number : Option Int)
  /-- A number with a fraction or an exponent, as it is written. -/
  | float (written : String)
  /-- A date, a time or both, as they are written. -/
  | moment (written : String)
  | boolean (flag : Bool)
  | text (content : String)
  | list (items : List Toml)
  | table (origin : TableOrigin) (entries : List (String × Toml))
  deriving Repr

namespace Toml

/-- How deep lists and tables may be nested, and how many keys may follow one another with dots. -/
abbrev depthLimit : Nat := 80

abbrev Entries := List (String × Toml)

def alter (key : String) (change : Option Toml → Option Toml) : Entries → Option Entries
  | [] => (change none).map fun value => [(key, value)]
  | (other, value) :: entries =>
    if other = key then (change (some value)).map fun value => (other, value) :: entries
    else (alter key change entries).map ((other, value) :: ·)

/-- Gives a value to a dotted key that has none. The tables on the way are made if need be; those
that have a header, or stand between braces, are closed to dotted keys. -/
def assign (value : Toml) : List String → Entries → Option Entries
  | [], _ => none
  | [key], entries => alter key (fun present => if present.isSome then none else some value) entries
  | key :: path, entries => alter key (fun
      | none => (assign value path []).map (table .dotted)
      | some (table .implied inner) => (assign value path inner).map (table .implied)
      | some (table .dotted inner) => (assign value path inner).map (table .dotted)
      | some _ => none) entries

/-- Opens a table by its header, which no other header or dotted key has opened. -/
def openTable : List String → Entries → Option Entries
  | [], _ => none
  | [key], entries => alter key (fun
      | none => some (table .header [])
      | some (table .implied inner) => some (table .header inner)
      | some _ => none) entries
  | key :: path, entries => alter key (fun
      | none => (openTable path []).map (table .implied)
      | some (table .enclosed _) => none
      | some (table origin inner) => (openTable path inner).map (table origin)
      | some _ => none) entries

def within (change : Entries → Option Entries) : List String → Entries → Option Entries
  | [], entries => change entries
  | key :: path, entries => alter key (fun
      | some (table origin inner) => (within change path inner).map (table origin)
      | _ => none) entries

end Toml
end Tabula
