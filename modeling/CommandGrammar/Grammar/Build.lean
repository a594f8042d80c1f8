import CommandGrammar.Grammar
import CommandGrammar.Grammar.Alias
import CommandGrammar.Grammar.Builder

/-! Building a grammar from its declaration.

Nodes get their numbers in the order of their declarations, a node before the nodes in it. Merges
are applied after that, and aliases are resolved last, so that they can name any node. -/

namespace CommandGrammar

/-- The help group of an action that is given none, behind all others. -/
def actionGroup : Nat := 9999

/-- A place among the edges of a node: a node declared there, or the nodes of the alias with this
number. -/
inductive Slot where
  | child (id : Nat)
  | linked (index : Nat)
  deriving DecidableEq, Repr

structure DraftNode (σ ε : Type) where
  node : Node σ ε
  slots : List Slot
  /-- The names in use among its children and aliases. -/
  names : List String
  /-- How many names were made up for them. -/
  unnamed : Nat

structure Draft (σ ε : Type) where
  nodes : Array (DraftNode σ ε)
  labels : List (String × Nat)
  aliases : Array PendingAlias

/-- What the groups around an element give to it. -/
structure Inherited (σ : Type) where
  traversals : Option Nat
  group : Option Nat
  conditions : List (Context σ → Bool)

def Inherited.inside {σ : Type} (i : Inherited σ) (g : GroupDecl σ) : Inherited σ :=
  ⟨g.traversals <|> i.traversals, g.group <|> i.group, i.conditions ++ g.condition.toList⟩

namespace Draft

variable {σ ε : Type}

def root : Node σ ε where
  id := 0
  name := ""
  path := "/"
  parent := none
  traversals := 1
  group := 0
  label := none
  varName := ""
  children := []
  edges := []
  body := .root
  pattern := none
  literal := false
  help := none
  candidates := none
  matchCandidates := false
  conditions := []

/-- A grammar with nothing but the root. -/
def start : Draft σ ε := ⟨#[⟨root, [], [], 0⟩], [], #[]⟩

def outline (d : Draft σ ε) : Outline := ⟨d.nodes.map (·.node.toSite), d.labels⟩

def path (d : Draft σ ε) (id : Nat) : String := (d.nodes[id]?).elim "" (·.node.path)

def isAction (d : Draft σ ε) (id : Nat) : Bool := (d.nodes[id]?).any (·.node.isAction)

/-- The path of something with this name below the given path. -/
def childPath (parent name : String) : String :=
  if parent.endsWith "/" then parent ++ name else parent ++ "/" ++ name

def isValidName (name : String) : Bool :=
  !name.isEmpty && !name.toList.contains '/' && name != "." && name != ".."

/-- Gives a name to a new child or alias of a node. Without a name, the next of the names made of
an at sign and a number is taken. -/
def claimName (d : Draft σ ε) (parent : Nat) (name : Option String) :
    Except GrammarError (String × Draft σ ε) :=
  let unnamed := (d.nodes[parent]?).elim 0 (·.unnamed)
  let chosen := name.getD ("@" ++ toString unnamed)
  if name.any (!isValidName ·) then .error (.invalidName (d.path parent) chosen)
  else if (d.nodes[parent]?).any (·.names.contains chosen) then
    .error (.duplicateChild (d.path parent) chosen)
  else
    .ok (chosen, { d with
      nodes := d.nodes.modify parent fun n =>
        { n with
          names := chosen :: n.names
          unnamed := if name.isNone then n.unnamed + 1 else n.unnamed } })

/-- The pattern of a node: the given one, or that of its kind, or its own name. -/
def patternSource (decl : NodeDecl σ ε) (name : String) : String :=
  match decl.pattern, decl.body with
  | some source, _ => source
  | none, .var kind => kind.pattern.getD (Pattern.escape name)
  | none, _ => Pattern.escape name

/-- Whether a node matches nothing but its own name. -/
def isLiteral (decl : NodeDecl σ ε) : Bool :=
  decl.pattern.isNone &&
    match decl.body with
    | .var kind => kind.pattern.isNone
    | .action _ => false
    | _ => true

/-- The compiled pattern of a node. An action has none. -/
def compilePattern [PatternDialect] (decl : NodeDecl σ ε) (name path : String) :
    Except GrammarError (Option Pattern) :=
  match decl.body with
  | .action _ => .ok none
  | _ =>
    match Pattern.new? (patternSource decl name) with
    | some pattern => .ok (some pattern)
    | none => .error (.invalidPattern path)

/-- How often a variable of this kind may be matched if the grammar does not say. -/
def kindTraversals (decl : NodeDecl σ ε) : Option Nat :=
  match decl.body with
  | .var kind => kind.traversals
  | _ => none

/-- Whether the kind of variable accepts only what is offered. -/
def kindMatchCandidates (decl : NodeDecl σ ε) : Bool :=
  match decl.body with
  | .var kind => kind.matchCandidates
  | _ => false

/-- Whether the declared node is an action. -/
def declaresAction (decl : NodeDecl σ ε) : Bool :=
  match decl.body with
  | .action _ => true
  | _ => false

def makeNode (decl : NodeDecl σ ε) (inherited : Inherited σ) (id parent : Nat)
    (name path : String) (pattern : Option Pattern) : Node σ ε where
  id := id
  name := name
  path := path
  parent := some parent
  traversals := (decl.traversals <|> inherited.traversals <|> kindTraversals decl).getD 1
  group := (decl.group <|> inherited.group).getD (if declaresAction decl then actionGroup else 0)
  label := decl.label
  varName := decl.varName.getD name
  children := []
  edges := []
  body := decl.body
  pattern := pattern
  literal := isLiteral decl
  help := decl.help
  candidates := decl.candidates
  matchCandidates :=
    decl.matchCandidates.getD (decl.candidates.isSome || kindMatchCandidates decl)
  conditions := inherited.conditions ++ decl.condition.toList

/-- Gives a label to the node with this number. No two nodes can have one label. -/
def claimLabel (d : Draft σ ε) (id : Nat) (label : Option String) :
    Except GrammarError (Draft σ ε) :=
  match label with
  | none => .ok d
  | some label =>
    match d.labels.lookup label with
    | some existing => .error (.duplicateLabel label (d.path existing))
    | none => .ok { d with labels := (label, id) :: d.labels }

def addNode [PatternDialect] (d : Draft σ ε) (parent : Nat) (decl : NodeDecl σ ε)
    (inherited : Inherited σ) :
    Except GrammarError (Draft σ ε) := do
  let id := d.nodes.size
  let (name, d) ← d.claimName parent decl.name
  let path := childPath (d.path parent) name
  let pattern ← compilePattern decl name path
  let d ← d.claimLabel id decl.label
  let nodes := d.nodes.modify parent fun n =>
    { n with
      node := { n.node with children := n.node.children ++ [id] }
      slots := n.slots ++ [.child id] }
  let node := makeNode decl inherited id parent name path pattern
  return { d with nodes := nodes.push ⟨node, [], [], 0⟩ }

def addAlias (d : Draft σ ε) (parent : Nat) (decl : AliasDecl) :
    Except GrammarError (Draft σ ε) := do
  let (name, d) ← d.claimName parent decl.name
  let index := d.aliases.size
  return { d with
    aliases := d.aliases.push ⟨childPath (d.path parent) name, decl.target⟩
    nodes := d.nodes.modify parent fun n => { n with slots := n.slots ++ [.linked index] } }

section

variable [PatternDialect]

mutual

def addElement (parent : Nat) (inherited : Inherited σ) (d : Draft σ ε) :
    Element σ ε → Except GrammarError (Draft σ ε)
  | .node decl elements => do
    let id := d.nodes.size
    let d ← d.addNode parent decl inherited
    addElements id inherited d elements
  | .link decl => d.addAlias parent decl
  | .group decl elements => addElements parent (inherited.inside decl) d elements

def addElements (parent : Nat) (inherited : Inherited σ) (d : Draft σ ε) :
    List (Element σ ε) → Except GrammarError (Draft σ ε)
  | [] => .ok d
  | e :: es => do
    let d ← addElement parent inherited d e
    addElements parent inherited d es

end

mutual

/-- Adds the elements of a merge to the node that its target names, seen from the given node. -/
def addMerge (base : Nat) (d : Draft σ ε) : Merge σ ε → Except GrammarError (Draft σ ε)
  | .into target elements merges =>
    match (d.outline.locate? base target).filter (!d.isAction ·) with
    | none => .error (.mergeTarget target)
    | some id => do
      let d ← addElements id ⟨none, none, []⟩ d elements
      addMerges id d merges

def addMerges (base : Nat) (d : Draft σ ε) :
    List (Merge σ ε) → Except GrammarError (Draft σ ε)
  | [] => .ok d
  | m :: ms => do
    let d ← addMerge base d m
    addMerges base d ms

end

end

def edges (resolved : Array (List Nat)) (slots : List Slot) : List Nat :=
  slots.flatMap fun slot => match slot with
    | .child id => [id]
    | .linked index => (resolved[index]?).getD []

def finish (d : Draft σ ε) : Except GrammarError (Grammar σ ε) := do
  let outline := d.outline
  let resolved ← d.aliases.mapM fun a => a.resolve outline d.isAction
  return ⟨d.nodes.map fun n => { n.node with edges := edges resolved n.slots }, d.labels⟩

end Draft

/-- The grammar of a declaration. -/
def Builder.build {σ ε : Type} [PatternDialect] (b : Builder σ ε) :
    Except GrammarError (Grammar σ ε) := do
  let d ← Draft.addElements 0 ⟨none, none, []⟩ Draft.start b.elements
  let d ← Draft.addMerges 0 d b.merges
  d.finish

end CommandGrammar
