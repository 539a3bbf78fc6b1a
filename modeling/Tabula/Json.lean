import Tabula.Binary64

/-! JSON values, where whole numbers and floating point numbers are told apart. -/
namespace Tabula

inductive Json
  | null
  | bool (flag : Bool)
  | whole (number : Int)
  | float (number : Binary64)
  | text (content : String)
  | list (items : List Json)
  | object (entries : List (String × Json))
  deriving Repr

namespace Json

instance : Inhabited Json := ⟨.null⟩

def entries? : Json → Option (List (String × Json))
  | object entries => some entries
  | _ => none

def items? : Json → Option (List Json)
  | list items => some items
  | _ => none

def text? : Json → Option String
  | text content => some content
  | _ => none

def bool? : Json → Option Bool
  | bool flag => some flag
  | _ => none

def natural? : Json → Option Nat
  | whole number => if 0 ≤ number then some number.toNat else none
  | _ => none

def word64? (json : Json) : Option UInt64 :=
  (json.natural?.filter (· < UInt64.size)).map UInt64.ofNat

def word32? (json : Json) : Option UInt32 :=
  (json.natural?.filter (· < UInt32.size)).map UInt32.ofNat

def nullable? {α : Type} (read : Json → Option α) : Json → Option (Option α)
  | null => some none
  | json => (read json).map some

def ofNullable {α : Type} (write : α → Json) : Option α → Json
  | none => null
  | some value => write value

def required {α : Type} (entries : List (String × Json)) (key : String) (read : Json → Option α) :
    Option α := do read (← entries.lookup key)

def optional {α : Type} (entries : List (String × Json)) (key : String) (initial : α)
    (read : Json → Option α) : Option α :=
  match entries.lookup key with
  | some json => read json
  | none => some initial

/-- The parts of a structure: the entries of an object, or the items of a list that go by the order of
`keys`, of which the last ones may be missing. -/
def parts? (keys : List String) : Json → Option (List (String × Json))
  | object entries => some entries
  | list items => if items.length ≤ keys.length then some (keys.zip items) else none
  | _ => none

/-- A tagged structure, split into its tag and the rest: the tag is the entry `type` of an object or
the first item of a list. -/
def tagged? : Json → Option (Json × Json)
  | object entries => (entries.lookup "type").map fun tag => (tag, object entries)
  | list (tag :: items) => some (tag, list items)
  | _ => none

/-- The name of a variant and its contents: a bare name, or an object with one entry. -/
def variant? : Json → Option (String × Option Json)
  | text name => some (name, none)
  | object [(name, contents)] => some (name, some contents)
  | _ => none

def unit? (json : Json) : Option String :=
  match json.variant? with
  | some (name, none) | some (name, some null) => some name
  | _ => none

/-- A variant without contents inside a tagged structure, where an empty object stands for nothing as
null does. -/
def innerUnit? (json : Json) : Option String :=
  match json.variant? with
  | some (name, some (object [])) => some name
  | _ => json.unit?

def natural (number : Nat) : Json := whole number

/-- The last of several entries with one key counts. -/
def putEntry (key : String) (value : Json) (entries : List (String × Json)) :
    List (String × Json) :=
  if entries.any (·.1 = key) then entries else (key, value) :: entries

def ofEntries (entries : List (String × Json)) : Json :=
  object (entries.foldr (fun (key, value) later => putEntry key value later) [])

end Json
end Tabula
