import Tabula.Bytes
import Tabula.Json

/-! Writing JSON text, without blanks. -/
namespace Tabula.Json

def escapeChar (c : Char) : List Char :=
  match c with
  | '"' => ['\\', '"']
  | '\\' => ['\\', '\\']
  | c =>
    if c < ' ' then "\\u00".toList ++ (hexText [UInt8.ofNat c.toNat]).toList else [c]

def quote (content : String) : String :=
  "\"" ++ String.ofList (content.toList.flatMap escapeChar) ++ "\""

mutual

def render : Json → String
  | null => "null"
  | bool flag => if flag then "true" else "false"
  | whole number => toString number
  | float number => number.text
  | text content => quote content
  | list items => "[" ++ ",".intercalate (renderItems items) ++ "]"
  | object entries => "\x7b" ++ ",".intercalate (renderEntries entries) ++ "\x7d"

def renderItems : List Json → List String
  | [] => []
  | item :: items => render item :: renderItems items

def renderEntries : List (String × Json) → List String
  | [] => []
  | (key, value) :: entries => (quote key ++ ":" ++ render value) :: renderEntries entries

end

end Tabula.Json
