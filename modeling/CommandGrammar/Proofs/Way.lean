import CommandGrammar.Proofs.Step
import Mathlib.Data.List.Basic

/-! Ways through a grammar. A way is given by the places of its edges, each in the list of edges of
the node before it. It can be followed from a context if every node on it may be entered and matches
the next token. A way is complete if it matches all tokens and an open action is behind it.

The ways that can be followed from a context are finitely many, and `ways` lists them in
lexicographic order. -/

namespace CommandGrammar.Grammar

variable {σ ε : Type}

/-! ### Following a way -/

/-- The node behind an edge, which is given by its place among the edges of a node. -/
def edge? (g : Grammar σ ε) (id place : Nat) : Option (Node σ ε) :=
  (g.node? id).bind fun n => (n.edges[place]?).bind g.node?

/-- The context behind an edge, if the node there may be entered and matches the next token. -/
def take? (g : Grammar σ ε) (c : Context σ) (place : Nat) : Option (Context σ) := do
  let n ← g.edge? c.position place
  let token ← c.pending.head?
  if n.isOpen c then n.step? c token.text else none

/-- The context behind a way. -/
def follow? (g : Grammar σ ε) (c : Context σ) : List Nat → Option (Context σ)
  | [] => some c
  | place :: way => (g.take? c place).bind fun d => g.follow? d way

/-- The way leads to the context `d` and matches all tokens, and the edge at the place leads from
there to the open action `n`. -/
structure Completes (g : Grammar σ ε) (c : Context σ) (way : List Nat) (place : Nat)
    (d : Context σ) (n : Node σ ε) : Prop where
  follows : g.follow? c way = some d
  length_eq : way.length = c.pending.length
  edge : g.edge? d.position place = some n
  isAction : n.isAction = true
  isOpen : n.isOpen d = true

theorem take?_eq_some {g : Grammar σ ε} {c d : Context σ} {place : Nat} :
    g.take? c place = some d ↔ ∃ n token, g.edge? c.position place = some n ∧
      c.pending.head? = some token ∧ n.isOpen c = true ∧ n.step? c token.text = some d := by
  simp only [take?, Option.bind_eq_bind, Option.bind_eq_some_iff, Option.ite_none_right_eq_some]
  constructor
  · rintro ⟨n, hn, token, ht, ho, hs⟩
    exact ⟨n, token, hn, ht, ho, hs⟩
  · rintro ⟨n, token, hn, ht, ho, hs⟩
    exact ⟨n, hn, token, ht, ho, hs⟩

theorem exists_advance_of_take? {g : Grammar σ ε} {c d : Context σ} {place : Nat}
    (h : g.take? c place = some d) : ∃ n token value, g.edge? c.position place = some n ∧
      c.pending.head? = some token ∧ n.value? token.text = some value ∧
      d = c.advance n.toSite value := by
  obtain ⟨n, token, hn, ht, -, hs⟩ := take?_eq_some.mp h
  obtain ⟨-, -, value, hv, hd⟩ := Node.step?_eq_some.mp hs
  exact ⟨n, token, value, hn, ht, hv, hd⟩

theorem pending_of_take? {g : Grammar σ ε} {c d : Context σ} {place : Nat}
    (h : g.take? c place = some d) : d.pending = c.pending.tail := by
  obtain ⟨n, token, value, -, -, -, rfl⟩ := exists_advance_of_take? h
  exact c.pending_advance n.toSite value

theorem follow?_cons_eq_some {g : Grammar σ ε} {c e : Context σ} {place : Nat} {way : List Nat} :
    g.follow? c (place :: way) = some e ↔
      ∃ d, g.take? c place = some d ∧ g.follow? d way = some e := by
  simp [follow?, Option.bind_eq_some_iff]

/-- What every step keeps, every way keeps. -/
theorem follow?_keeps {g : Grammar σ ε} {P : Context σ → Prop}
    (step : ∀ {c d : Context σ} {place : Nat}, P c → g.take? c place = some d → P d)
    {c d : Context σ} {way : List Nat} (hc : P c) (h : g.follow? c way = some d) : P d := by
  induction way generalizing c with
  | nil =>
    cases h
    exact hc
  | cons place way ih =>
    obtain ⟨e, he, h⟩ := follow?_cons_eq_some.mp h
    exact ih (step hc he) h

/-! ### What the context behind a way records -/

/-- The numbers of the nodes on a way, read off the lists of edges. -/
def nodesOn (g : Grammar σ ε) (id : Nat) : List Nat → List Nat
  | [] => []
  | place :: way =>
    match (g.node? id).bind fun n => n.edges[place]? with
    | some next => next :: g.nodesOn next way
    | none => []

/-- The values that a node adds to those collected before, from the token that it matches. -/
def collectOne (g : Grammar σ ε) (vars : Vars) (id : Nat) (text : String) : Vars :=
  match g.node? id with
  | some n =>
    match n.value? text with
    | some (some v) => vars.store n.varName v (n.traversals != 1)
    | _ => vars
  | none => vars

/-- The values that nodes add to those collected before, each from one of the tokens in order. -/
def collect (g : Grammar σ ε) (vars : Vars) (ids : List Nat) (tokens : List Token) : Vars :=
  (ids.zip tokens).foldl (fun vars e => g.collectOne vars e.1 e.2.text) vars

/-- The context in which the matching of a line starts. -/
def start (g : Grammar σ ε) (l : Line) (user : Option σ) : Context σ :=
  .start g.outline l user

/-- The context tells of exactly the nodes on a way from the root, and of the values that they
collect. -/
structure Records (g : Grammar σ ε) (l : Line) (user : Option σ) (way : List Nat)
    (c : Context σ) : Prop where
  outline : c.outline = g.outline
  line : c.line = l
  user : c.user = user
  consumed : c.consumed = way.length
  history : c.history = g.nodesOn 0 way
  position : c.position = c.history.getLast?.getD 0
  traversed : ∀ id, c.traversed id = c.history.count id
  vars : c.vars = g.collect .empty c.history l.tokens

theorem node?_of_edge? {g : Grammar σ ε} (hg : g.Numbered) {id place : Nat} {n : Node σ ε}
    (h : g.edge? id place = some n) :
    ((g.node? id).bind fun m => m.edges[place]?) = some n.id ∧ g.node? n.id = some n := by
  obtain ⟨m, hm, h⟩ := Option.bind_eq_some_iff.mp h
  obtain ⟨next, hnext, h⟩ := Option.bind_eq_some_iff.mp h
  obtain rfl := hg.id_eq h
  exact ⟨by rw [hm]; exact hnext, h⟩

theorem history_of_follow? {g : Grammar σ ε} (hg : g.Numbered) {c d : Context σ}
    {way : List Nat} (h : g.follow? c way = some d) :
    d.consumed = c.consumed + way.length ∧ d.history = c.history ++ g.nodesOn c.position way ∧
      d.vars = g.collect c.vars (g.nodesOn c.position way) c.pending := by
  induction way generalizing c with
  | nil =>
    cases h
    simp [nodesOn, collect]
  | cons place way ih =>
    obtain ⟨e, he, h⟩ := follow?_cons_eq_some.mp h
    obtain ⟨n, token, value, hn, ht, hv, rfl⟩ := exists_advance_of_take? he
    obtain ⟨hplace, hid⟩ := node?_of_edge? hg hn
    obtain ⟨tokens, htokens⟩ : ∃ tokens, c.pending = token :: tokens :=
      List.head?_eq_some_iff.mp ht
    obtain ⟨h₁, h₂, h₃⟩ := ih h
    have hnodes : g.nodesOn c.position (place :: way) = n.id :: g.nodesOn n.id way := by
      simp only [nodesOn, hplace]
    have hvars : g.collectOne c.vars n.id token.text = (c.advance n.toSite value).vars := by
      simp only [collectOne, hid, hv, Context.advance]
      cases value <;> rfl
    refine ⟨?_, ?_, ?_⟩
    · rw [h₁, List.length_cons]
      simp only [Context.advance]
      omega
    · rw [h₂, hnodes]
      simp [Context.advance]
    · rw [h₃, hnodes, htokens, Context.pending_advance, htokens, List.tail_cons]
      simp only [collect, List.zip_cons_cons, List.foldl_cons, hvars]
      rfl

/-- The context behind a way from the start records the way, and no action is reached yet. -/
theorem records_of_follow? {g : Grammar σ ε} (hg : g.Numbered) {l : Line} {user : Option σ}
    {way : List Nat} {d : Context σ} (h : g.follow? (g.start l user) way = some d) :
    g.Records l user way d ∧ d.Consistent ∧ d.action = none := by
  -- each of these fields is kept, or kept consistent, by a step
  have hkeep : d.Consistent ∧ d.outline = g.outline ∧ d.line = l ∧ d.user = user ∧
      d.action = none := by
    refine follow?_keeps (P := fun c => c.Consistent ∧ c.outline = g.outline ∧ c.line = l ∧
      c.user = user ∧ c.action = none) ?_ ⟨Context.consistent_start _ _ _, rfl, rfl, rfl, rfl⟩ h
    intro c e place ⟨hc, hfix⟩ he
    obtain ⟨n, token, value, -, -, -, rfl⟩ := exists_advance_of_take? he
    exact ⟨hc.advance n.toSite value, hfix⟩
  obtain ⟨hc, ho, hl, hu, ha⟩ := hkeep
  obtain ⟨hconsumed, hhistory, hvars⟩ := history_of_follow? hg h
  have hnodes : d.history = g.nodesOn 0 way := hhistory
  refine ⟨⟨ho, hl, hu, ?_, hnodes, hc.position, hc.traversed, ?_⟩, hc, ha⟩
  · rw [hconsumed]
    exact Nat.zero_add _
  · rw [hvars, hnodes]
    rfl

/-! ### The edges of a node in order -/

/-- The nodes behind the edges of a node, each with the place of its edge. -/
def placed (g : Grammar σ ε) (id : Nat) : List (Nat × Node σ ε) :=
  ((g.node? id).elim [] (·.edges)).zipIdx.filterMap fun e => (g.node? e.1).map fun n => (e.2, n)

theorem mem_placed {g : Grammar σ ε} {id place : Nat} {n : Node σ ε} :
    (place, n) ∈ g.placed id ↔ g.edge? id place = some n := by
  unfold placed edge?
  cases g.node? id with
  | none => simp
  | some m => simp [List.mem_filterMap, List.mem_zipIdx_iff_getElem?, Option.bind_eq_some_iff]

theorem pairwise_placed (g : Grammar σ ε) (id : Nat) :
    (g.placed id).Pairwise fun a b => a.1 < b.1 := by
  have hidx (l : List Nat) : l.zipIdx.Pairwise fun a b => a.2 < b.2 := by
    rw [← List.pairwise_map, List.zipIdx_map_snd]
    exact List.pairwise_lt_range'
  unfold placed
  rw [List.pairwise_filterMap]
  refine (hidx _).imp fun {a b} hab x hx y hy => ?_
  obtain ⟨n, -, rfl⟩ := Option.map_eq_some_iff.mp hx
  obtain ⟨m, -, rfl⟩ := Option.map_eq_some_iff.mp hy
  exact hab

theorem map_snd_placed (g : Grammar σ ε) (id : Nat) :
    (g.placed id).map (·.2) = g.following id := by
  unfold placed following
  cases g.node? id with
  | none => rfl
  | some m =>
    have h : m.edges = m.edges.zipIdx.map Prod.fst := (List.zipIdx_map_fst 0 m.edges).symm
    change _ = m.edges.filterMap g.node?
    rw [h, List.filterMap_map]
    simp [List.map_filterMap, Function.comp_def]

theorem node?_of_mem_following {g : Grammar σ ε} (hg : g.Numbered) {id : Nat} {n : Node σ ε}
    (h : n ∈ g.following id) : g.node? n.id = some n := by
  rw [← map_snd_placed] at h
  obtain ⟨⟨place, m⟩, he, rfl⟩ := List.mem_map.mp h
  exact (node?_of_edge? hg (mem_placed.mp he)).2

/-! ### All ways in order -/

/-- The contexts behind the edges of a node with a token, each with the place of its edge. -/
def steps (g : Grammar σ ε) (c : Context σ) (text : String) : List (Nat × Context σ) :=
  (g.placed c.position).filterMap fun e => (e.2.enter? c text).map fun d => (e.1, d)

theorem map_snd_steps (g : Grammar σ ε) (c : Context σ) (text : String) :
    (g.steps c text).map (·.2) = (g.following c.position).filterMap (·.enter? c text) := by
  rw [← map_snd_placed, List.filterMap_map, steps, List.map_filterMap]
  simp [Function.comp_def]

theorem pairwise_steps (g : Grammar σ ε) (c : Context σ) (text : String) :
    (g.steps c text).Pairwise fun a b => a.1 < b.1 := by
  unfold steps
  rw [List.pairwise_filterMap]
  refine (g.pairwise_placed c.position).imp fun {a b} hab x hx y hy => ?_
  obtain ⟨n, -, rfl⟩ := Option.map_eq_some_iff.mp hx
  obtain ⟨m, -, rfl⟩ := Option.map_eq_some_iff.mp hy
  exact hab

theorem mem_steps {g : Grammar σ ε} (hg : g.Numbered) {c d : Context σ} {place : Nat}
    {token : Token} (ht : c.pending.head? = some token) :
    (place, d) ∈ g.steps c token.text ↔ g.take? c place = some d := by
  rw [take?_eq_some]
  simp only [steps, List.mem_filterMap, Option.map_eq_some_iff, Prod.mk.injEq, Prod.exists,
    mem_placed]
  constructor
  · rintro ⟨_, n, hn, _, hd, rfl, rfl⟩
    obtain ⟨-, ho, hs⟩ := Node.enter?_eq_some.mp hd
    exact ⟨n, token, hn, ht, ho, hs⟩
  · rintro ⟨n, _, hn, ht', ho, hs⟩
    cases ht.symm.trans ht'
    refine ⟨place, n, hn, d, Node.enter?_eq_some.mpr ⟨?_, ho, hs⟩, rfl, rfl⟩
    -- an action has no pattern and so is never stepped on
    cases ha : n.isAction with
    | false => rfl
    | true =>
      rw [Node.step?_eq_none_of_pattern (hg.pattern_of_isAction (node?_of_edge? hg hn).2 ha)] at hs
      cases hs

/-- All ways that can be followed with the tokens, in lexicographic order. -/
def waysWith (g : Grammar σ ε) : List Token → Context σ → List (List Nat × Context σ)
  | [], c => [([], c)]
  | token :: tokens, c =>
    ([], c) :: (g.steps c token.text).flatMap fun e =>
      (g.waysWith tokens e.2).map fun w => (e.1 :: w.1, w.2)

/-- All ways that can be followed from a context, in lexicographic order. -/
def ways (g : Grammar σ ε) (c : Context σ) : List (List Nat × Context σ) :=
  g.waysWith c.pending c

theorem pairwise_waysWith (g : Grammar σ ε) (tokens : List Token) (c : Context σ) :
    (g.waysWith tokens c).Pairwise fun a b => a.1 < b.1 := by
  induction tokens generalizing c with
  | nil => simp [waysWith]
  | cons token tokens ih =>
    refine List.pairwise_cons.mpr ⟨?_, ?_⟩
    · simp only [List.mem_flatMap, List.mem_map]
      rintro w ⟨e, -, v, -, rfl⟩
      exact List.nil_lt_cons _ _
    · rw [List.pairwise_flatMap]
      constructor
      · intro e _
        rw [List.pairwise_map]
        exact (ih e.2).imp fun h => List.cons_lt_cons_iff.mpr (.inr ⟨rfl, h⟩)
      · refine (g.pairwise_steps c token.text).imp fun {a b} hab => ?_
        simp only [List.mem_map]
        rintro _ ⟨v, -, rfl⟩ _ ⟨w, -, rfl⟩
        exact List.cons_lt_cons_iff.mpr (.inl hab)

theorem pairwise_ways (g : Grammar σ ε) (c : Context σ) :
    (g.ways c).Pairwise fun a b => a.1 < b.1 :=
  g.pairwise_waysWith c.pending c

/-- The list holds exactly the ways that can be followed. -/
theorem mem_ways {g : Grammar σ ε} (hg : g.Numbered) {c d : Context σ} {way : List Nat} :
    (way, d) ∈ g.ways c ↔ g.follow? c way = some d := by
  unfold ways
  generalize htokens : c.pending = tokens
  induction tokens generalizing c way with
  | nil =>
    cases way with
    | nil => simp [waysWith, follow?, eq_comm]
    | cons place way => simp [waysWith, follow?, take?, htokens]
  | cons token tokens ih =>
    have ht : c.pending.head? = some token := by rw [htokens]; rfl
    cases way with
    | nil => simp [waysWith, follow?, eq_comm]
    | cons place way =>
      simp only [waysWith, List.mem_cons, List.mem_flatMap, List.mem_map, Prod.mk.injEq,
        follow?_cons_eq_some, reduceCtorEq, false_and, false_or, Prod.exists]
      constructor
      · rintro ⟨_, e, he, _, _, hw, hp, rfl⟩
        obtain ⟨rfl, rfl⟩ := List.cons.inj hp
        have htake := (mem_steps hg ht).mp he
        refine ⟨e, htake, (ih ?_).mp hw⟩
        rw [pending_of_take? htake, htokens, List.tail_cons]
      · rintro ⟨e, htake, hw⟩
        refine ⟨place, e, (mem_steps hg ht).mpr htake, way, d, (ih ?_).mpr hw, rfl, rfl⟩
        rw [pending_of_take? htake, htokens, List.tail_cons]

/-! ### Ways that match all tokens -/

/-- The ways that match all of the tokens. -/
def fullWaysWith (g : Grammar σ ε) (tokens : List Token) (c : Context σ) :
    List (List Nat × Context σ) :=
  (g.waysWith tokens c).filter (·.1.length == tokens.length)

/-- The ways from a context that match all tokens, in lexicographic order. -/
def fullWays (g : Grammar σ ε) (c : Context σ) : List (List Nat × Context σ) :=
  g.fullWaysWith c.pending c

theorem fullWaysWith_cons (g : Grammar σ ε) (token : Token) (tokens : List Token)
    (c : Context σ) :
    g.fullWaysWith (token :: tokens) c = (g.steps c token.text).flatMap fun e =>
      (g.fullWaysWith tokens e.2).map fun w => (e.1 :: w.1, w.2) := by
  simp [fullWaysWith, waysWith, List.filter_flatMap, List.filter_map, Function.comp_def]

theorem mem_fullWays {g : Grammar σ ε} (hg : g.Numbered) {c d : Context σ} {way : List Nat} :
    (way, d) ∈ g.fullWays c ↔ g.follow? c way = some d ∧ way.length = c.pending.length := by
  rw [← mem_ways hg]
  simp [fullWays, fullWaysWith, ways]

theorem pairwise_fullWays (g : Grammar σ ε) (c : Context σ) :
    (g.fullWays c).Pairwise fun a b => a.1 < b.1 :=
  (g.pairwise_ways c).filter _

/-! ### The contexts behind the ways -/

/-- The contexts behind the ways with the tokens, in lexicographic order of the ways. -/
def metWith (g : Grammar σ ε) (tokens : List Token) (c : Context σ) : List (Context σ) :=
  (g.waysWith tokens c).map (·.2)

/-- The contexts behind the ways that match all of the tokens, in lexicographic order of the
ways. -/
def arrivalsWith (g : Grammar σ ε) (tokens : List Token) (c : Context σ) : List (Context σ) :=
  (g.fullWaysWith tokens c).map (·.2)

theorem metWith_nil (g : Grammar σ ε) (c : Context σ) : g.metWith [] c = [c] := rfl

theorem metWith_cons (g : Grammar σ ε) (token : Token) (tokens : List Token) (c : Context σ) :
    g.metWith (token :: tokens) c =
      c :: ((g.following c.position).filterMap (·.enter? c token.text)).flatMap
        (g.metWith tokens) := by
  rw [← map_snd_steps, List.flatMap_map]
  simp [metWith, waysWith, List.map_flatMap, Function.comp_def]

theorem exists_metWith (g : Grammar σ ε) (tokens : List Token) (c : Context σ) :
    ∃ l, g.metWith tokens c = c :: l := by
  cases tokens with
  | nil => exact ⟨[], rfl⟩
  | cons token tokens => exact ⟨_, metWith_cons g token tokens c⟩

theorem arrivalsWith_nil (g : Grammar σ ε) (c : Context σ) : g.arrivalsWith [] c = [c] := rfl

theorem arrivalsWith_cons (g : Grammar σ ε) (token : Token) (tokens : List Token)
    (c : Context σ) :
    g.arrivalsWith (token :: tokens) c =
      ((g.following c.position).filterMap (·.enter? c token.text)).flatMap
        (g.arrivalsWith tokens) := by
  rw [← map_snd_steps, List.flatMap_map, arrivalsWith, fullWaysWith_cons]
  simp [arrivalsWith, List.map_flatMap, Function.comp_def]

end CommandGrammar.Grammar
