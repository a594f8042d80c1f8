import CommandGrammar.Grammar
import Std.Data.HashSet

/-! Matching a line: the first way through the grammar that reaches an action, or else the first of
the longest ways.

From each node the edges are tried in order, and each edge takes the next token. In a stateless
grammar, contexts that agree in position, number of tokens and numbers of entries have the same
future, so those that led to no action are remembered and not tried again. -/

namespace CommandGrammar

/-- What the future of a context in a stateless grammar depends on. -/
structure State where
  position : Nat
  consumed : Nat
  /-- The numbers of entries of those nodes that may only be entered so often, in order. -/
  limited : List (Nat × Nat)
  deriving DecidableEq, Hashable, Repr

/-- The state of a context, in the outline it belongs to. -/
def Context.state {σ : Type} (c : Context σ) : State where
  position := c.position
  consumed := c.consumed
  limited :=
    (c.tally.filter fun entry =>
      (c.outline.site? entry.1).any (·.traversals != 0)).mergeSort
        fun a b => a.1 < b.1 || (a.1 == b.1 && a.2 ≤ b.2)

/-- What a search knows: the first of the longest ways so far, and the states that led to no
action. -/
structure Search (σ : Type) where
  best : Context σ
  failed : Std.HashSet State

namespace Search

variable {σ : Type}

/-- Keeps the context if it is longer than all before. -/
def improve (s : Search σ) (c : Context σ) : Search σ :=
  if s.best.consumed < c.consumed then { s with best := c } else s

def hasFailed (s : Search σ) (state : Option State) : Bool := state.any s.failed.contains

def fail (s : Search σ) (state : Option State) : Search σ :=
  match state with
  | some state => { s with failed := s.failed.insert state }
  | none => s

end Search

namespace Grammar

variable {σ ε : Type}

def state? (stateless : Bool) (c : Context σ) : Option State :=
  if stateless then some c.state else none

/-- The context that reaches the first open action of its node. -/
def finish? (g : Grammar σ ε) (c : Context σ) : Option (Context σ) :=
  ((g.following c.position).find? fun n => n.isAction && n.isOpen c).map fun n => c.finish n.id

/-- Tries nodes in order with the next token, where `visit` goes on behind a node. -/
def tryNodes (visit : Context σ → Search σ → Option (Context σ) × Search σ) (c : Context σ)
    (text : String) : List (Node σ ε) → Search σ → Option (Context σ) × Search σ
  | [], s => (none, s)
  | n :: ns, s =>
    match n.enter? c text with
    | none => tryNodes visit c text ns s
    | some next =>
      match visit next (s.improve next) with
      | (some complete, s) => (some complete, s)
      | (none, s) => tryNodes visit c text ns s

/-- Goes on from a context with the tokens that are left. -/
def descend (g : Grammar σ ε) (stateless : Bool) :
    List Token → Context σ → Search σ → Option (Context σ) × Search σ
  | [], c, s =>
    if s.hasFailed (state? stateless c) then (none, s)
    else
      match g.finish? c with
      | some complete => (some complete, s)
      | none => (none, s.fail (state? stateless c))
  | token :: tokens, c, s =>
    if s.hasFailed (state? stateless c) then (none, s)
    else
      match tryNodes (fun c s => descend g stateless tokens c s) c token.text
          (g.following c.position) s with
      | (some complete, s) => (some complete, s)
      | (none, s) => (none, s.fail (state? stateless c))

/-- The context that reached an action, or else the first of those that matched most tokens. -/
def matchPending (g : Grammar σ ε) (c : Context σ) : Context σ :=
  let (found, s) := g.descend g.isStateless c.pending c ⟨c, ∅⟩
  found.getD s.best

def check (g : Grammar σ ε) (input : String) (user : Option σ) : Context σ :=
  g.matchPending (.start g.outline (.read input) user)

def execute (g : Grammar σ ε) (c : Context σ) : Reply ε ActionError :=
  match c.action.bind g.node? with
  | some n =>
    match n.body with
    | .action run =>
      let reply := run c
      ⟨reply.effects, reply.result.mapError .refused⟩
    | _ => ⟨[], .error (.incomplete c.remaining)⟩
  | none => ⟨[], .error (.incomplete c.remaining)⟩

/-- Matches a line and runs the action it reaches. A line that reaches none is no error. -/
def parse (g : Grammar σ ε) (input : String) (user : Option σ) :
    Context σ × Reply ε ActionError :=
  let c := g.check input user
  (c, if c.isComplete then g.execute c else ⟨[], .ok ()⟩)

end Grammar

end CommandGrammar
