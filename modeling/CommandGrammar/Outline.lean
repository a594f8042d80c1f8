/-! The outline of a grammar: which nodes there are, how they are named and joined, and how often
each may be matched. It is what can be known of a grammar without knowing how its nodes match. -/

namespace CommandGrammar

structure Site where
  id : Nat
  name : String
  path : String
  parent : Option Nat
  /-- How often the node may be matched on one line, where zero stands for any number. -/
  traversals : Nat
  /-- The group in which help lists the node. -/
  group : Nat
  label : Option String
  /-- The name under which a variable's values are collected. -/
  varName : String
  /-- The nodes declared in this one. -/
  children : List Nat
  /-- The nodes that may follow: those declared in this one and those that aliases lead to. -/
  edges : List Nat
  deriving Repr

/-- The places of all nodes. The node with the number `i` stands at index `i`, the root first. -/
structure Outline where
  sites : Array Site
  labels : List (String × Nat)
  deriving Repr

namespace Outline

def site? (o : Outline) (id : Nat) : Option Site := o.sites[id]?

def path (o : Outline) (id : Nat) : String := (o.site? id).elim "" (·.path)

def child? (o : Outline) (id : Nat) (name : String) : Option Nat := do
  let site ← o.site? id
  site.children.find? fun child => (o.site? child).any (·.name == name)

/-- The node that is reached from another one through children with these names. -/
def walk? (o : Outline) (start : Nat) (names : List String) : Option Nat :=
  names.foldlM o.child? start

/-- The parts of a path between slashes that are not empty. -/
def segments (path : String) : List String :=
  ((path.toList.splitOn '/').filter (!·.isEmpty)).map String.ofList

def labelled? (o : Outline) (label : String) : Option Nat := o.labels.lookup label

/-- The node with a label, or else with a path from the root. -/
def find? (o : Outline) (path : String) : Option Nat :=
  match o.labelled? path with
  | some id => some id
  | none => if path.startsWith "/" then o.walk? 0 (segments path) else none

/-- The node with a label, or else the one that a path leads to from the given node. -/
def locate? (o : Outline) (start : Nat) (path : String) : Option Nat :=
  match o.labelled? path with
  | some id => some id
  | none => o.walk? start (segments path)

end Outline

end CommandGrammar
