import CommandGrammar.HelpTable
import CommandGrammar.Search

/-! Candidates and help for a line that is still being typed.

The complete tokens are matched in all possible ways, and the nodes that may follow are asked for
candidates or help for the token that is being typed. -/

namespace CommandGrammar

/-- The contexts found so far, the latest first, and the states that were visited. -/
structure Survey (σ : Type) where
  found : List (Context σ)
  seen : Std.HashSet State

namespace Survey

variable {σ : Type}

def empty : Survey σ := ⟨[], ∅⟩

def mark (s : Survey σ) (state : Option State) : Survey σ :=
  match state with
  | some state => { s with seen := s.seen.insert state }
  | none => s

end Survey

namespace Grammar

variable {σ ε : Type}

/-- Visits a context and all that follow it with the tokens that are left. -/
def explore (g : Grammar σ ε) (stateless : Bool) :
    List Token → Context σ → Survey σ → Survey σ
  | [], c, s =>
    if (state? stateless c).any s.seen.contains then s
    else
      let s := s.mark (state? stateless c)
      { s with found := c :: s.found }
  | token :: tokens, c, s =>
    if (state? stateless c).any s.seen.contains then s
    else
      (g.following c.position).foldl
        (fun s n =>
          match n.enter? c token.text with
          | some next => explore g stateless tokens next s
          | none => s)
        (s.mark (state? stateless c))

/-- The contexts that matched all tokens, in the order in which they are found. -/
def positions (g : Grammar σ ε) (c : Context σ) : List (Context σ) :=
  (g.explore g.isStateless c.pending c .empty).found.reverse

/-! ### Candidates -/

/-- The candidates of a node for the typed beginning of a token. A complete candidate must be
accepted by the node. -/
def nodeCandidates (c : Context σ) (typed : String) (n : Node σ ε) : List String :=
  if n.literal && n.candidates.isNone then
    if n.name.startsWith typed then [n.name ++ " "] else []
  else
    (n.candidatesFor c typed).filter fun w => !w.endsWith " " || n.accepts (Text.trimEnd w)

def contextCandidates (g : Grammar σ ε) (c : Context σ) (typed : String) : List String :=
  ((g.following c.position).filter fun n => !n.isAction && n.isOpen c).flatMap
    (nodeCandidates c typed)

/-- The texts in order, each of them once. -/
def inOrder (texts : List String) : List String :=
  (texts.mergeSort fun a b => !decide (b < a)).eraseReps

def candidates (g : Grammar σ ε) (c : Context σ) (typed : String) : List String :=
  inOrder (g.contextCandidates c typed)

/-- The contexts in which the token being typed can be entered, and the typed beginning of it. -/
def typing (g : Grammar σ ε) (input : String) (user : Option σ) : List (Context σ) × String :=
  let (line, typed) := (Line.read input).splitTrailing
  (g.positions (.start g.outline line user), typed)

/-- The candidates for the token at the end of a line. -/
def complete (g : Grammar σ ε) (input : String) (user : Option σ) : List String :=
  let (contexts, typed) := g.typing input user
  inOrder (contexts.flatMap fun c => g.contextCandidates c typed)

/-! ### Help -/

/-- The help of a node for the typed beginning of a token. -/
def nodeHelp (c : Context σ) (typed : String) (n : Node σ ε) : List HelpEntry :=
  match n.help with
  | some (.dynamic entries) =>
    ((entries c).filter fun e => e.1.startsWith "<" || e.1.startsWith typed).map fun e =>
      ⟨e.1, e.2, n.group⟩
  | _ =>
    if n.literal && !n.name.startsWith typed then []
    else [⟨n.helpKey, n.helpText?.getD "", n.group⟩]

def contextHelp (g : Grammar σ ε) (c : Context σ) (typed : String) : List HelpEntry :=
  ((g.following c.position).filter fun n => n.isOpen c && !(n.isAction && !typed.isEmpty)).flatMap
    (nodeHelp c typed)

def helpAt (g : Grammar σ ε) (c : Context σ) : HelpTable :=
  (g.contextHelp c "").foldl .insert .empty

/-- The help for the token at the end of a line. -/
def help (g : Grammar σ ε) (input : String) (user : Option σ) : HelpTable :=
  let (contexts, typed) := g.typing input user
  (contexts.flatMap fun c => g.contextHelp c typed).foldl .insert .empty

end Grammar

end CommandGrammar
