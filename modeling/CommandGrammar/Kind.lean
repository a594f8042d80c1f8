import CommandGrammar.Value

/-! Kinds of variables: how the token of a variable is matched, converted and completed. -/

namespace CommandGrammar

structure Kind where
  /-- What a message calls the kind. -/
  name : String
  /-- The pattern of the tokens. Without one a token has to be the variable's name. -/
  pattern : Option String
  /-- The value of a token. -/
  parse : String → Except ValueError Value
  /-- What can be offered for the typed beginning of a token. -/
  candidates : String → List String
  /-- How often a variable may be matched, unless the grammar says otherwise. -/
  traversals : Option Nat
  /-- Whether only tokens that are offered are accepted. -/
  matchCandidates : Bool

namespace Kind

def plain (name : String) (pattern : Option String) (parse : String → Except ValueError Value) :
    Kind :=
  ⟨name, pattern, parse, fun _ => [], none, false⟩

/-- Refuses a text because it is not of the kind with this name. -/
def refuse (name text : String) : Except ValueError Value := .error ⟨text, none, some name⟩

/-- Refuses a text for the given reason. -/
def refuseWith (name reason text : String) : Except ValueError Value :=
  .error ⟨text, some reason, some name⟩

end Kind

end CommandGrammar
