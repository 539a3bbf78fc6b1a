import Tabula.Text.Blank
import Tabula.Text.Case

/-! Words that stand for true and false. -/
namespace Tabula

def readFlag (text : String) : Option Bool :=
  let word := Text.fold (Text.trim text)
  if word ∈ ["1", "true", "yes", "on", "checked"] then some true
  else if word ∈ ["0", "false", "no", "off", "unchecked"] then some false
  else none

def flagText (flag : Bool) : String := if flag then "true" else "false"

end Tabula
