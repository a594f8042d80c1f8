import CommandGrammar.Line
import CommandGrammar.Outline
import CommandGrammar.Vars

/-! How far a line has been matched: the nodes entered so far, and the values collected. -/

namespace CommandGrammar

/-- The state of matching a line, for a user of type `σ`. -/
structure Context (σ : Type) where
  outline : Outline
  line : Line
  user : Option σ
  /-- The number of tokens matched. -/
  consumed : Nat
  /-- The node entered last, at first the root. -/
  position : Nat
  vars : Vars
  /-- How often each node was entered. -/
  tally : List (Nat × Nat)
  /-- The nodes entered, in order. -/
  history : List Nat
  /-- The action reached. -/
  action : Option Nat

namespace Context

variable {σ : Type}

def start (outline : Outline) (line : Line) (user : Option σ) : Context σ :=
  ⟨outline, line, user, 0, 0, .empty, [], [], none⟩

/-- The position in the line behind what was matched, in bytes. -/
def cursor (c : Context σ) : Nat := c.line.cursor c.consumed

def parsed (c : Context σ) : String := c.line.parsed c.consumed

def remaining (c : Context σ) : String := c.line.remaining c.consumed

def isComplete (c : Context σ) : Bool := c.action.isSome

def traversed (c : Context σ) (id : Nat) : Nat := (c.tally.lookup id).getD 0

def pending (c : Context σ) : List Token := c.line.tokens.drop c.consumed

def bump (id : Nat) : List (Nat × Nat) → List (Nat × Nat)
  | [] => [(id, 1)]
  | (other, n) :: rest => if other == id then (other, n + 1) :: rest else (other, n) :: bump id rest

/-- Enters a node with the next token, which may give a value. Values accumulate if the node may be
matched more than once. -/
def advance (c : Context σ) (site : Site) (value : Option Value) : Context σ :=
  { c with
    consumed := c.consumed + 1
    tally := bump site.id c.tally
    history := c.history ++ [site.id]
    position := site.id
    vars := match value with
      | some v => c.vars.store site.varName v (site.traversals != 1)
      | none => c.vars }

def finish (c : Context σ) (action : Nat) : Context σ := { c with action := some action }

end Context

end CommandGrammar
