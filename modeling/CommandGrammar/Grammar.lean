import CommandGrammar.Node

/-! Grammars: nodes joined by edges. -/

namespace CommandGrammar

/-- A grammar for users of type `σ`, whose actions have effects of type `ε`. -/
structure Grammar (σ ε : Type) where
  nodes : Array (Node σ ε)
  labels : List (String × Nat)

namespace Grammar

variable {σ ε : Type}

def outline (g : Grammar σ ε) : Outline := ⟨g.nodes.map (·.toSite), g.labels⟩

def node? (g : Grammar σ ε) (id : Nat) : Option (Node σ ε) := g.nodes[id]?

def isEmpty (g : Grammar σ ε) : Bool := g.nodes.size ≤ 1

/-- The node with a label, or else with a path from the root. -/
def find? (g : Grammar σ ε) (path : String) : Option Nat := g.outline.find? path

/-- Whether no node depends on more of the context than the number of entries. -/
def isStateless (g : Grammar σ ε) : Bool := g.nodes.all (·.isStateless)

/-- The nodes that may follow a node, in order. -/
def following (g : Grammar σ ε) (id : Nat) : List (Node σ ε) :=
  match g.node? id with
  | some n => n.edges.filterMap g.node?
  | none => []

/-- The nodes as a debugging message shows them. -/
def debugText (g : Grammar σ ε) : String :=
  "[" ++ ", ".intercalate (g.nodes.toList.map (·.debugText)) ++ "]"

/-- A context as a debugging message shows it. -/
def contextDebugText (g : Grammar σ ε) (c : Context σ) : String :=
  let node := fun id => (g.node? id).elim "" (·.debugText)
  "Context \x7b parsed: " ++ Text.escaped c.parsed ++
    ", remaining: " ++ Text.escaped c.remaining ++
    ", position: " ++ node c.position ++
    ", vars: " ++ c.vars.debugText ++
    ", action: " ++ (match c.action with
      | some id => "Some(" ++ node id ++ ")"
      | none => "None") ++ " \x7d"

end Grammar

end CommandGrammar
