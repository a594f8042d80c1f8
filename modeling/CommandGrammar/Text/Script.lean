import CommandGrammar.Text.Script.FromAToE
import CommandGrammar.Text.Script.FromGToN
import CommandGrammar.Text.Script.FromOToZ

/-! All scripts, by name. -/

namespace CommandGrammar.Text

def scripts : List Script := scriptsFromAToE ++ scriptsFromGToN ++ scriptsFromOToZ

/-- The characters of the script with this name, which is in small letters and without
separators. -/
def scriptRanges? (name : String) : Option Ranges :=
  (scripts.find? (·.names.contains name)).map (·.ranges)

end CommandGrammar.Text
