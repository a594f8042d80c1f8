import CommandGrammar.Value

/-! The values collected on the way through a grammar, by name and in order. -/

namespace CommandGrammar

/-- Named values in order. No name occurs twice. -/
structure Vars where
  entries : List (String × Value)

namespace Vars

/-- No values. -/
def empty : Vars := ⟨[]⟩

/-- The value with the name. -/
def value? (vars : Vars) (name : String) : Option Value := vars.entries.lookup name

/-- Whether there is a value with the name. -/
def contains (vars : Vars) (name : String) : Bool := (vars.value? name).isSome

/-- Puts the value at the end under the name, in place of an earlier value with that name. -/
def insert (vars : Vars) (name : String) (value : Value) : Vars :=
  ⟨vars.entries.filter (·.1 != name) ++ [(name, value)]⟩

/-- Changes the value with the name where it is. -/
def modify (vars : Vars) (name : String) (change : Value → Value) : Vars :=
  ⟨vars.entries.map fun entry => if entry.1 == name then (entry.1, change entry.2) else entry⟩

/-- Adds a value to the list that another one has become. -/
def append (value : Value) : Value → Value
  | .list items => .list (items ++ [value])
  | first => .list [first, value]

/-- Collects a value under the name. If values accumulate, it becomes the last of a list;
otherwise it replaces the earlier value and moves to the end. -/
def store (vars : Vars) (name : String) (value : Value) (accumulate : Bool) : Vars :=
  if !accumulate then vars.insert name value
  else if vars.contains name then vars.modify name (append value)
  else vars.insert name (.list [value])

/-- The values with these names. Of two with one name the later counts. -/
def ofList (entries : List (String × Value)) : Vars :=
  entries.foldl (fun vars entry => vars.insert entry.1 entry.2) empty

/-- The values as a debugging message shows them. -/
def debugText (vars : Vars) : String :=
  "Vars \x7b values: \x7b" ++
    ", ".intercalate (vars.entries.map fun entry =>
      Text.escaped entry.1 ++ ": " ++ entry.2.debugText) ++
    "\x7d \x7d"

end Vars

end CommandGrammar
