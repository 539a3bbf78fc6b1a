import Tabula.Config.Basic
import Tabula.Toml.Document

/-! The text of a configuration: a TOML document with a section for each part of the engine. -/
namespace Tabula

def Toml.word32? : Toml → Option UInt32
  | integer (some number) => if 0 ≤ number ∧ number < UInt32.size then some (.ofNat number.toNat) else none
  | _ => none

def Toml.boolean? : Toml → Option Bool
  | boolean flag => some flag
  | _ => none

def Toml.text? : Toml → Option String
  | text content => some content
  | _ => none

def Toml.texts? : Toml → Option (List String)
  | list items => items.mapM text?
  | _ => none

namespace Config

/-- Settings by their names, or in a list in the order of their names; others are refused. -/
def settings? (names : List String) : Toml → Option Toml.Entries
  | .table _ entries => if entries.all (·.1 ∈ names) then some entries else none
  | .list items => some (names.zip items)
  | _ => none

def setting {α : Type} (entries : Toml.Entries) (name : String) (initial : α)
    (read : Toml → Option α) : Option α :=
  match entries.lookup name with
  | some value => read value
  | none => some initial

def ofEntries? (entries : Toml.Entries) : Option Config := do
  let initial : Config := {}
  let sections ← settings? ["query", "search", "schema"] (.table .header entries)
  let query ← setting sections "query" [] (settings? ["default_page_size", "max_page_size"])
  let search ← setting sections "search" [] (settings? ["match_row_id"])
  let schema ← setting sections "schema" [] (settings? ["reserved_names"])
  return {
    defaultPageSize := ← setting query "default_page_size" initial.defaultPageSize Toml.word32?
    maxPageSize := ← setting query "max_page_size" initial.maxPageSize Toml.word32?
    matchRowId := ← setting search "match_row_id" initial.matchRowId Toml.boolean?
    reservedNames := ← setting schema "reserved_names" initial.reservedNames Toml.texts? }

/-- Every setting may be left out; an empty text has all defaults. -/
def ofText (source : String) : Except ConfigError Config := do
  match (Toml.parse? source).bind ofEntries? with
  | none => throw .malformed
  | some config =>
    config.validate
    return config

end Config
end Tabula
