import CommandGrammar.Action
import CommandGrammar.Candidate
import CommandGrammar.Kind
import CommandGrammar.Pattern

/-! The nodes of a grammar, and how one of them matches a token. -/

namespace CommandGrammar

variable {σ ε : Type}

inductive Help (σ : Type) where
  | text (text : String)
  /-- Keys and texts that depend on the context. -/
  | dynamic (entries : Context σ → List (String × String))

/-- Where a node's candidates come from. -/
inductive CandidateSource (σ : Type) where
  | fixed (words : List String)
  /-- Candidates that depend on the context and on the typed beginning of the token. -/
  | dynamic (offer : Context σ → String → List String)

/-- The candidates for the typed beginning of a token. -/
def CandidateSource.offer : CandidateSource σ → Context σ → String → List String
  | fixed words, _, typed => Candidate.ofWords words typed
  | dynamic offer, context, typed => offer context typed

inductive NodeBody (σ ε : Type) where
  | root
  | literal
  | var (kind : Kind)
  | action (run : Action σ ε)

/-- A node of a grammar, for users of type `σ` and effects of type `ε`. -/
structure Node (σ ε : Type) extends Site where
  body : NodeBody σ ε
  pattern : Option Pattern
  /-- Whether only the node's own name matches. -/
  literal : Bool
  help : Option (Help σ)
  candidates : Option (CandidateSource σ)
  /-- Whether only tokens that are offered match. -/
  matchCandidates : Bool
  conditions : List (Context σ → Bool)

namespace Node

def isAction (n : Node σ ε) : Bool :=
  match n.body with
  | .action _ => true
  | _ => false

def isVariable (n : Node σ ε) : Bool :=
  match n.body with
  | .var _ => true
  | _ => false

/-- The help text, if it does not depend on the context. -/
def helpText? (n : Node σ ε) : Option String :=
  match n.help with
  | some (.text text) => some text
  | _ => none

def helpKey (n : Node σ ε) : String :=
  if n.isAction then "<eol>" else if n.literal then n.name else "<" ++ n.name ++ ">"

/-- Whether nothing about the node depends on more of the context than the number of entries. -/
def isStateless (n : Node σ ε) : Bool :=
  n.conditions.isEmpty &&
    (match n.candidates with
      | some (.dynamic _) => false
      | _ => true) &&
    (match n.help with
      | some (.dynamic _) => false
      | _ => true)

def debugText (n : Node σ ε) : String :=
  let what := match n.body with
    | .root => "Grammar"
    | .literal => "Node"
    | .var _ => "Variable"
    | .action _ => "Action"
  "<" ++ what ++ ":" ++ n.path ++ ">"

/-! ### Matching -/

/-- Whether the node may be entered: it was not entered too often, and its conditions hold. -/
def isOpen (n : Node σ ε) (c : Context σ) : Bool :=
  (n.isAction || n.traversals == 0 || c.traversed n.id < n.traversals) &&
    n.conditions.all (· c)

/-- Whether the token has the form that the node wants. -/
def fits (n : Node σ ε) (text : String) : Bool := n.pattern.any (·.accepts text)

def candidatesFor (n : Node σ ε) (c : Context σ) (typed : String) : List String :=
  match n.candidates, n.body with
  | some source, _ => source.offer c typed
  | none, .var kind => kind.candidates typed
  | none, _ => []

/-- Whether the token may be entered as far as candidates are concerned. -/
def isOffered (n : Node σ ε) (c : Context σ) (text : String) : Bool :=
  !n.matchCandidates || (n.candidatesFor c text).any fun w => Text.trimEnd w == text

/-- Whether the token has the right form and a value, where it needs one. -/
def accepts (n : Node σ ε) (text : String) : Bool :=
  n.fits text &&
    match n.body with
    | .var kind => (kind.parse text).toOption.isSome
    | _ => true

/-- The context behind the node, if the token matches it. -/
def step? (n : Node σ ε) (c : Context σ) (text : String) : Option (Context σ) :=
  if n.fits text && n.isOffered c text then
    match n.body with
    | .var kind =>
      match kind.parse text with
      | .ok value => some (c.advance n.toSite (some value))
      | .error _ => none
    | _ => some (c.advance n.toSite none)
  else none

/-- The context behind the node, if it may be entered with the token. -/
def enter? (n : Node σ ε) (c : Context σ) (text : String) : Option (Context σ) :=
  if !n.isAction && n.isOpen c then n.step? c text else none

end Node

end CommandGrammar
