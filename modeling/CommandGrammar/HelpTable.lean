import CommandGrammar.Text.Blank

/-! Help as a table of keys and texts, in groups. -/

namespace CommandGrammar

structure HelpEntry where
  key : String
  text : String
  group : Nat
  deriving DecidableEq, Repr

/-- Lines of help in the order in which they were added. No key occurs twice. -/
structure HelpTable where
  entries : List HelpEntry
  deriving DecidableEq, Repr

namespace HelpTable

def empty : HelpTable := ⟨[]⟩

def get? (t : HelpTable) (key : String) : Option HelpEntry := t.entries.find? (·.key == key)

/-- Adds an entry, unless there is one with its key. -/
def insert (t : HelpTable) (e : HelpEntry) : HelpTable :=
  if (t.get? e.key).isSome then t else ⟨t.entries ++ [e]⟩

def pairs (t : HelpTable) : List (String × String) := t.entries.map fun e => (e.key, e.text)

/-! ### Layout -/

/-- The entries by group. Within a group they keep their order. -/
def sorted (t : HelpTable) : List HelpEntry := t.entries.mergeSort fun a b => a.group ≤ b.group

/-- The width of the column of keys: the size of the longest key in bytes. -/
def keyWidth (t : HelpTable) : Nat :=
  t.entries.foldl (fun width e => max width e.key.utf8ByteSize) 0

/-- The line of an entry, where the key fills so many characters. -/
def line (width : Nat) (e : HelpEntry) : String :=
  let padding := String.ofList (List.replicate (width - e.key.length) ' ')
  Text.trimEnd ("  " ++ e.key ++ padding ++ " " ++ e.text) ++ "\n"

/-- The lines of the entries, with an empty line wherever the group changes. -/
def lines (width : Nat) : Option Nat → List HelpEntry → String
  | _, [] => ""
  | group, e :: es =>
    (if group.any (· != e.group) then "\n" else "") ++ line width e ++
      lines width (some e.group) es

def format (t : HelpTable) : String := lines t.keyWidth none t.sorted

end HelpTable

end CommandGrammar
