import Tabula.Fault
import Tabula.Schema.System

/-! Settings of the engine. -/
namespace Tabula

structure Config where
  defaultPageSize : UInt32 := 100
  maxPageSize : UInt32 := 200
  matchRowId : Bool := true
  reservedNames : List String := []
  deriving DecidableEq, Repr

inductive ConfigError
  | malformed
  | emptyPage
  | pageTooLarge (default max : UInt32)
  deriving DecidableEq, Repr

namespace Config

def isReservedName (config : Config) (name : String) : Bool :=
  name ∈ SystemColumn.reservedNames || name ∈ config.reservedNames

/-- Pages hold at least one row, and the default page is no larger than the largest. -/
def validate (config : Config) : Except ConfigError Unit :=
  if config.defaultPageSize = 0 then .error .emptyPage
  else if config.maxPageSize < config.defaultPageSize then
    .error (.pageTooLarge config.defaultPageSize config.maxPageSize)
  else .ok ()

/-- The size of a page, for an optional wish: at least one, if the largest page can hold that. -/
def pageSize (config : Config) (wish : Option UInt32) : Except Fault Nat :=
  unlessFault (if config.maxPageSize = 0 then some .noPageSize else none)
    (min (max 1 (wish.getD config.defaultPageSize).toNat) config.maxPageSize.toNat)

end Config

def ConfigError.message? : ConfigError → Option String
  | malformed => none
  | emptyPage => some "invalid config: query.default_page_size must be at least 1"
  | pageTooLarge default max =>
    some (s!"invalid config: query.max_page_size ({max}) cannot be lower than " ++
      s!"query.default_page_size ({default})")

end Tabula
