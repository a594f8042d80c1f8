import CommandGrammar.Node

/-! Declarations of grammars: nodes in nodes, groups of nodes that share attributes, and aliases
that stand for other nodes. -/

namespace CommandGrammar

/-- The declaration of a node. What is not given follows from the groups around the node, or from
the kind of variable. -/
structure NodeDecl (σ ε : Type) where
  body : NodeBody σ ε
  name : Option String
  pattern : Option String := none
  help : Option (Help σ) := none
  traversals : Option Nat := none
  candidates : Option (CandidateSource σ) := none
  matchCandidates : Option Bool := none
  condition : Option (Context σ → Bool) := none
  label : Option String := none
  varName : Option String := none
  group : Option Nat := none

/-- The attributes that a group gives to the nodes in it. -/
structure GroupDecl (σ : Type) where
  group : Option Nat := none
  traversals : Option Nat := none
  condition : Option (Context σ → Bool) := none

/-- The declaration of an alias: the nodes that the target names are edges here too. -/
structure AliasDecl where
  target : String
  name : Option String := none
  deriving DecidableEq, Repr

/-- What can be declared in a node. -/
inductive Element (σ ε : Type) where
  | node (decl : NodeDecl σ ε) (elements : List (Element σ ε))
  | link (decl : AliasDecl)
  | group (decl : GroupDecl σ) (elements : List (Element σ ε))

/-- Elements that are added to a node once all other elements are declared, and further ones that
are then added to nodes below that one. -/
inductive Merge (σ ε : Type) where
  | into (target : String) (elements : List (Element σ ε)) (merges : List (Merge σ ε))

/-- The declaration of a grammar. -/
structure Builder (σ ε : Type) where
  elements : List (Element σ ε)
  merges : List (Merge σ ε)

end CommandGrammar
