import CommandGrammar.Proofs.Agreement
import Mathlib.Logic.Equiv.Defs

/-! Other numbers for the nodes. If the nodes of a grammar get other numbers, and all that tells of
nodes by their numbers is changed alike, then the search goes the same ways: the contexts on them
differ in the numbers only. This asks of the callbacks that they do not look at numbers. -/

namespace CommandGrammar

variable {σ ε : Type}

/-! ### Numbers in sites, nodes and contexts -/

/-- The site with other numbers. -/
def Site.renumber (ρ : Equiv.Perm Nat) (s : Site) : Site :=
  { s with
    id := ρ s.id
    parent := s.parent.map ρ
    children := s.children.map ρ
    edges := s.edges.map ρ }

/-- The node with other numbers. -/
def Node.renumber (ρ : Equiv.Perm Nat) (n : Node σ ε) : Node σ ε :=
  { n with toSite := n.toSite.renumber ρ }

/-- The second outline is the first with other numbers. The root keeps its own. -/
structure Outline.Renumbers (ρ : Equiv.Perm Nat) (o o' : Outline) : Prop where
  root : ρ 0 = 0
  site : ∀ id, o'.site? (ρ id) = (o.site? id).map (·.renumber ρ)
  labels : ∀ label, o'.labelled? label = (o.labelled? label).map ρ

/-- The second grammar is the first with other numbers. -/
structure Grammar.Renumbers (ρ : Equiv.Perm Nat) (g g' : Grammar σ ε) : Prop where
  root : ρ 0 = 0
  node : ∀ id, g'.node? (ρ id) = (g.node? id).map (·.renumber ρ)
  labels : ∀ label, g'.outline.labelled? label = (g.outline.labelled? label).map ρ

namespace Context

/-- The context with other numbers, in an outline that has them. -/
def renumber (ρ : Equiv.Perm Nat) (o : Outline) (c : Context σ) : Context σ :=
  { c with
    outline := o
    position := ρ c.position
    tally := c.tally.map fun e => (ρ e.1, e.2)
    history := c.history.map ρ
    action := c.action.map ρ }

/-- What is told of a context does not depend on numbers. -/
def Blind {α : Type} (f : Context σ → α) : Prop :=
  ∀ (ρ : Equiv.Perm Nat) (o : Outline) (c : Context σ), c.outline.Renumbers ρ o →
    f (c.renumber ρ o) = f c

end Context

/-- The callbacks of the node do not look at numbers. -/
structure Node.Blind (n : Node σ ε) : Prop where
  conditions : ∀ holds ∈ n.conditions, Context.Blind holds
  candidates : ∀ offer, n.candidates = some (.dynamic offer) → Context.Blind offer
  help : ∀ entries, n.help = some (.dynamic entries) → Context.Blind entries

/-- The callbacks of all nodes do not look at numbers. -/
def Grammar.Blind (g : Grammar σ ε) : Prop := ∀ id n, g.node? id = some n → n.Blind

variable {ρ : Equiv.Perm Nat}

/-- A path tells of no number. -/
theorem Outline.Renumbers.path_eq {o o' : Outline} (h : o.Renumbers ρ o') (id : Nat) :
    o'.path (ρ id) = o.path id := by
  rw [Outline.path, Outline.path, h.site]
  cases o.site? id <;> rfl

/-! ### Counters -/

namespace Context

variable {o : Outline} {c : Context σ}

theorem traversed_renumber (c : Context σ) (id : Nat) :
    (c.renumber ρ o).traversed (ρ id) = c.traversed id := by
  have hlookup : (c.tally.map fun e => (ρ e.1, e.2)).lookup (ρ id) = c.tally.lookup id := by
    induction c.tally with
    | nil => rfl
    | cons e tally ih =>
      rw [List.map_cons, lookup_cons_eq_ite, lookup_cons_eq_ite, ih]
      simp only [ρ.apply_eq_iff_eq]
  rw [traversed, traversed, ← hlookup]
  rfl

theorem bump_renumber (id : Nat) (tally : List (Nat × Nat)) :
    bump (ρ id) (tally.map fun e => (ρ e.1, e.2)) = (bump id tally).map fun e => (ρ e.1, e.2) := by
  induction tally with
  | nil => rfl
  | cons e tally ih =>
    rw [List.map_cons, bump, bump, ih]
    simp only [beq_iff_eq, ρ.apply_eq_iff_eq]
    split <;> rfl

theorem advance_renumber (c : Context σ) (s : Site) (value : Option Value) :
    (c.renumber ρ o).advance (s.renumber ρ) value = (c.advance s value).renumber ρ o := by
  have htally := bump_renumber (ρ := ρ) s.id c.tally
  have hhistory : (c.history ++ [s.id]).map ρ = c.history.map ρ ++ [ρ s.id] := List.map_append
  unfold advance renumber Site.renumber
  dsimp only
  rw [htally, hhistory]

theorem finish_renumber (c : Context σ) (id : Nat) :
    (c.renumber ρ o).finish (ρ id) = (c.finish id).renumber ρ o := rfl

theorem pending_renumber (c : Context σ) : (c.renumber ρ o).pending = c.pending := rfl

end Context

/-! ### One node -/

namespace Node

variable {o : Outline} {c : Context σ} {n : Node σ ε}

@[simp] theorem isAction_renumber (n : Node σ ε) : (n.renumber ρ).isAction = n.isAction := rfl

theorem isOpen_renumber (hn : n.Blind) (hc : c.outline.Renumbers ρ o) :
    (n.renumber ρ).isOpen (c.renumber ρ o) = n.isOpen c := by
  have hconditions : n.conditions.all (· (c.renumber ρ o)) = n.conditions.all (· c) := by
    rw [Bool.eq_iff_iff, List.all_eq_true, List.all_eq_true]
    exact forall₂_congr fun holds hmem => by rw [hn.conditions holds hmem ρ o c hc]
  have htraversed : (c.renumber ρ o).traversed (n.renumber ρ).id = c.traversed n.id :=
    c.traversed_renumber n.id
  rw [isOpen, isOpen, htraversed, ← hconditions]
  rfl

theorem candidatesFor_renumber (hn : n.Blind) (hc : c.outline.Renumbers ρ o) (typed : String) :
    (n.renumber ρ).candidatesFor (c.renumber ρ o) typed = n.candidatesFor c typed := by
  have hcandidates : (n.renumber ρ).candidates = n.candidates := rfl
  have hbody : (n.renumber ρ).body = n.body := rfl
  unfold candidatesFor
  rw [hcandidates, hbody]
  cases hsource : n.candidates with
  | none => cases n.body <;> rfl
  | some source =>
    cases source with
    | fixed words => rfl
    | dynamic offer => exact congrFun (hn.candidates offer hsource ρ o c hc) typed

theorem enter?_renumber (hn : n.Blind) (hc : c.outline.Renumbers ρ o) (text : String) :
    (n.renumber ρ).enter? (c.renumber ρ o) text = (n.enter? c text).map (·.renumber ρ o) := by
  have hoffered : (n.renumber ρ).isOffered (c.renumber ρ o) text = n.isOffered c text := by
    rw [isOffered, isOffered, candidatesFor_renumber hn hc]
    rfl
  have hstep : (n.renumber ρ).step? (c.renumber ρ o) text =
      (n.step? c text).map (·.renumber ρ o) := by
    rw [step?_eq, step?_eq, hoffered]
    change (if n.fits text && n.isOffered c text then
      (n.value? text).map ((c.renumber ρ o).advance (n.toSite.renumber ρ)) else none) = _
    split
    · rw [Option.map_map]
      exact Option.map_congr fun value _ => c.advance_renumber n.toSite value
    · rfl
  rw [enter?, enter?, isOpen_renumber hn hc, isAction_renumber, hstep]
  split <;> rfl

theorem nodeCandidates_renumber (hn : n.Blind) (hc : c.outline.Renumbers ρ o) (typed : String) :
    Grammar.nodeCandidates (c.renumber ρ o) typed (n.renumber ρ) =
      Grammar.nodeCandidates c typed n := by
  unfold Grammar.nodeCandidates
  rw [candidatesFor_renumber hn hc]
  rfl

theorem nodeHelp_renumber (hn : n.Blind) (hc : c.outline.Renumbers ρ o) (typed : String) :
    Grammar.nodeHelp (c.renumber ρ o) typed (n.renumber ρ) = Grammar.nodeHelp c typed n := by
  have heq : (n.renumber ρ).help = n.help := rfl
  unfold Grammar.nodeHelp
  rw [heq]
  cases hhelp : n.help with
  | none => simp only [Node.helpText?, heq, hhelp]; rfl
  | some help =>
    cases help with
    | text text => simp only [Node.helpText?, heq, hhelp]; rfl
    | dynamic entries => simp only [hn.help entries hhelp ρ o c hc]; rfl

end Node

/-! ### States -/

/-- A map that keeps contexts in different states apart, and takes contexts in one state to such,
takes the first context in each state to the first in each. -/
theorem foldl_addNew_map {P : Context σ → Prop} {f : Context σ → Context σ}
    (hf : ∀ c d, P c → P d → ((f c).state = (f d).state ↔ c.state = d.state))
    {l found : List (Context σ)} (hl : ∀ c ∈ l, P c) (hfound : ∀ c ∈ found, P c) :
    (l.map f).foldl addNew (found.map f) = (l.foldl addNew found).map f := by
  induction l generalizing found with
  | nil => rfl
  | cons c l ih =>
    rw [List.forall_mem_cons] at hl
    have hiff : (f c).state ∈ (found.map f).map Context.state ↔
        c.state ∈ found.map Context.state := by
      rw [List.map_map, List.mem_map, List.mem_map]
      exact exists_congr fun d => and_congr_right fun hd => hf d c (hfound d hd) hl.1
    rw [List.map_cons, List.foldl_cons, List.foldl_cons, addNew, addNew]
    by_cases hmem : c.state ∈ found.map Context.state
    · rw [if_pos hmem, if_pos (hiff.mpr hmem)]
      exact ih hl.2 hfound
    · rw [if_neg hmem, if_neg (hmem ∘ hiff.mp), ← List.map_cons]
      exact ih hl.2 (List.forall_mem_cons.mpr ⟨hl.1, hfound⟩)

namespace Grammar.Renumbers

variable {g g' : Grammar σ ε}

theorem outline (h : g.Renumbers ρ g') : g.outline.Renumbers ρ g'.outline where
  root := h.root
  site id := by
    have hnode := congrArg (Option.map Node.toSite) (h.node id)
    rw [Option.map_map] at hnode
    simp only [Outline.site?, Grammar.outline, Array.getElem?_map, Option.map_map]
    exact hnode
  labels := h.labels

theorem isStateless_eq (h : g.Renumbers ρ g') : g'.isStateless = g.isStateless := by
  rw [Bool.eq_iff_iff, isStateless_iff, isStateless_iff]
  constructor
  · intro hs i n hn
    exact hs (ρ i) (n.renumber ρ) (by rw [h.node, hn, Option.map_some])
  · intro hs i n hn
    obtain ⟨j, rfl⟩ := ρ.surjective i
    rw [h.node, Option.map_eq_some_iff] at hn
    obtain ⟨m, hm, rfl⟩ := hn
    exact hs j m hm

theorem limits_eq (h : g.Renumbers ρ g') (id : Nat) :
    g'.outline.limits (ρ id) = g.outline.limits id := by
  rw [Outline.limits, Outline.limits, h.outline.site]
  cases g.outline.site? id <;> rfl

theorem following_eq (h : g.Renumbers ρ g') (id : Nat) :
    g'.following (ρ id) = (g.following id).map (·.renumber ρ) := by
  rw [following, following, h.node]
  cases g.node? id with
  | none => rfl
  | some n =>
    change (n.edges.map ρ).filterMap g'.node? = (n.edges.filterMap g.node?).map _
    rw [List.filterMap_map, List.map_filterMap]
    exact List.filterMap_congr fun i _ => h.node i

/-- Contexts are in one state exactly if they are with other numbers. -/
theorem state_eq_iff (h : g.Renumbers ρ g') {l : Line} {c d : Context σ} (hc : g.OnLine l c)
    (hd : g.OnLine l d) (hc' : g'.OnLine l (c.renumber ρ g'.outline))
    (hd' : g'.OnLine l (d.renumber ρ g'.outline)) :
    (c.renumber ρ g'.outline).state = (d.renumber ρ g'.outline).state ↔ c.state = d.state := by
  rw [hc'.consistent.state_eq_iff hd'.consistent rfl,
    hc.consistent.state_eq_iff hd.consistent (hc.outline.trans hd.outline.symm), hc.outline]
  refine and_congr ρ.apply_eq_iff_eq (and_congr Iff.rfl ?_)
  constructor
  · intro heq id hid
    have hρ := heq (ρ id) ((h.limits_eq id).trans hid)
    rwa [Context.traversed_renumber, Context.traversed_renumber] at hρ
  · intro heq id hid
    obtain ⟨j, rfl⟩ := ρ.surjective id
    rw [Context.traversed_renumber, Context.traversed_renumber]
    exact heq j ((h.limits_eq j).symm.trans hid)

/-! ### Ways -/

section

variable (h : g.Renumbers ρ g') (hg : g.Numbered) (hblind : g.Blind)

include h

theorem start_eq (l : Line) (user : Option σ) :
    (g.start l user).renumber ρ g'.outline = g'.start l user := by
  unfold start Context.start Context.renumber
  simp only [h.root, List.map_nil, Option.map_none]

include hg hblind

variable {l : Line} {c : Context σ}

theorem filterMap_enter?_eq (hc : g.OnLine l c) (text : String) :
    (g'.following (ρ c.position)).filterMap (·.enter? (c.renumber ρ g'.outline) text) =
      ((g.following c.position).filterMap (·.enter? c text)).map (·.renumber ρ g'.outline) := by
  rw [h.following_eq, List.filterMap_map, List.map_filterMap]
  refine List.filterMap_congr fun n hn => ?_
  exact Node.enter?_renumber (hblind _ n (node?_of_mem_following hg hn))
    (hc.outline ▸ h.outline) text

theorem arrivalsWith_eq (hc : g.OnLine l c) (tokens : List Token) :
    g'.arrivalsWith tokens (c.renumber ρ g'.outline) =
      (g.arrivalsWith tokens c).map (·.renumber ρ g'.outline) := by
  induction tokens generalizing c with
  | nil => rfl
  | cons token tokens ih =>
    have hsteps := h.filterMap_enter?_eq hg hblind hc token.text
    rw [arrivalsWith_cons, arrivalsWith_cons, List.map_flatMap]
    change ((g'.following (ρ c.position)).filterMap _).flatMap _ = _
    rw [hsteps, List.flatMap_map]
    refine List.flatMap_congr fun d hd => ?_
    obtain ⟨n, -, hn⟩ := List.mem_filterMap.mp hd
    exact ih (hc.enter? hn).1

theorem metWith_eq (hc : g.OnLine l c) (tokens : List Token) :
    g'.metWith tokens (c.renumber ρ g'.outline) =
      (g.metWith tokens c).map (·.renumber ρ g'.outline) := by
  induction tokens generalizing c with
  | nil => rfl
  | cons token tokens ih =>
    have hsteps := h.filterMap_enter?_eq hg hblind hc token.text
    rw [metWith_cons, metWith_cons, List.map_cons, List.map_flatMap]
    change _ :: ((g'.following (ρ c.position)).filterMap _).flatMap _ = _
    rw [hsteps, List.flatMap_map]
    refine congrArg (_ :: ·) (List.flatMap_congr fun d hd => ?_)
    obtain ⟨n, -, hn⟩ := List.mem_filterMap.mp hd
    exact ih (hc.enter? hn).1

theorem finish?_eq (hc : g.OnLine l c) :
    g'.finish? (c.renumber ρ g'.outline) = (g.finish? c).map (·.renumber ρ g'.outline) := by
  rw [finish?, finish?]
  change ((g'.following (ρ c.position)).find? _).map _ = _
  rw [h.following_eq, List.find?_map, Option.map_map, Option.map_map]
  have hfind : (g.following c.position).find?
        ((fun n => n.isAction && n.isOpen (c.renumber ρ g'.outline)) ∘ (·.renumber ρ)) =
      (g.following c.position).find? fun n => n.isAction && n.isOpen c := by
    refine List.find?_congr fun n hn => ?_
    rw [Function.comp, Node.isOpen_renumber (hblind _ n (node?_of_mem_following hg hn))
      (hc.outline ▸ h.outline), Node.isAction_renumber]
  rw [hfind]
  exact Option.map_congr fun n _ => c.finish_renumber n.id

theorem answerWith_eq (hc : g.OnLine l c) (tokens : List Token) :
    g'.answerWith tokens (c.renumber ρ g'.outline) =
      (g.answerWith tokens c).map (·.renumber ρ g'.outline) := by
  rw [answerWith, answerWith, h.arrivalsWith_eq hg hblind hc, List.findSome?_map,
    List.map_findSome?]
  have hall : ∀ d ∈ g.arrivalsWith tokens c, g.OnLine l d := fun d hd => hc.of_mem_arrivalsWith hd
  generalize g.arrivalsWith tokens c = ds at hall
  induction ds with
  | nil => rfl
  | cons d ds ih =>
    rw [List.forall_mem_cons] at hall
    rw [List.findSome?_cons, List.findSome?_cons, ih hall.2, Function.comp, Function.comp,
      h.finish?_eq hg hblind hall.1]

/-! ### Candidates and help behind a context -/

/-- The same nodes are asked, whatever decides this by whether a node is an action and open. -/
theorem flatMap_filter_eq (hc : g.OnLine l c) {α : Type} (asked : Bool → Bool → Bool)
    {f f' : Node σ ε → List α} (hf : ∀ n, n.Blind → f' (n.renumber ρ) = f n) :
    ((g'.following (ρ c.position)).filter fun n =>
        asked n.isAction (n.isOpen (c.renumber ρ g'.outline))).flatMap f' =
      ((g.following c.position).filter fun n => asked n.isAction (n.isOpen c)).flatMap f := by
  have hnode : ∀ n ∈ g.following c.position, n.Blind :=
    fun n hn => hblind _ n (node?_of_mem_following hg hn)
  have hfilter : (g.following c.position).filter
        ((fun n => asked n.isAction (n.isOpen (c.renumber ρ g'.outline))) ∘ (·.renumber ρ)) =
      (g.following c.position).filter fun n => asked n.isAction (n.isOpen c) := by
    refine List.filter_congr fun n hn => ?_
    rw [Function.comp, Node.isOpen_renumber (hnode n hn) (hc.outline ▸ h.outline),
      Node.isAction_renumber]
  rw [h.following_eq, List.filter_map, List.flatMap_map, hfilter]
  exact List.flatMap_congr fun n hn => hf n (hnode n (List.mem_filter.mp hn).1)

theorem contextCandidates_eq (hc : g.OnLine l c) (typed : String) :
    g'.contextCandidates (c.renumber ρ g'.outline) typed = g.contextCandidates c typed :=
  h.flatMap_filter_eq hg hblind hc (fun isAction isOpen => !isAction && isOpen)
    fun _ hn => Node.nodeCandidates_renumber hn (hc.outline ▸ h.outline) typed

theorem contextHelp_eq (hc : g.OnLine l c) (typed : String) :
    g'.contextHelp (c.renumber ρ g'.outline) typed = g.contextHelp c typed :=
  h.flatMap_filter_eq hg hblind hc (fun isAction isOpen => isOpen && !(isAction && !typed.isEmpty))
    fun _ hn => Node.nodeHelp_renumber hn (hc.outline ▸ h.outline) typed

/-! ### Lines -/

variable (hg' : g'.Numbered)

include hg'

theorem matchPending_eq (hc : g.OnLine l c) (hc' : g'.OnLine l (c.renumber ρ g'.outline)) :
    g'.matchPending (c.renumber ρ g'.outline) = (g.matchPending c).renumber ρ g'.outline := by
  have hlonger (ds : List (Context σ)) (d : Context σ) :
      (ds.map (·.renumber ρ g'.outline)).foldl longer (d.renumber ρ g'.outline) =
        (ds.foldl longer d).renumber ρ g'.outline := by
    rw [List.foldl_map]
    refine List.foldl_hom (Context.renumber ρ g'.outline) fun d e => ?_
    exact (apply_ite (Context.renumber ρ g'.outline) (d.consumed < e.consumed) e d).symm
  rw [Grammar.matchPending_eq hg' hc', Grammar.matchPending_eq hg hc, Context.pending_renumber,
    h.answerWith_eq hg hblind hc, h.metWith_eq hg hblind hc, hlonger]
  cases g.answerWith c.pending c <;> rfl

theorem positions_eq (hc : g.OnLine l c) (hc' : g'.OnLine l (c.renumber ρ g'.outline)) :
    g'.positions (c.renumber ρ g'.outline) = (g.positions c).map (·.renumber ρ g'.outline) := by
  have hevery : g'.everyPosition (c.renumber ρ g'.outline) =
      (g.everyPosition c).map (·.renumber ρ g'.outline) := by
    rw [everyPosition_eq, everyPosition_eq]
    exact h.arrivalsWith_eq hg hblind hc c.pending
  cases hs : g.isStateless with
  | false =>
    rw [positions_eq_everyPosition hs, positions_eq_everyPosition (h.isStateless_eq.trans hs),
      hevery]
  | true =>
    have hmem : ∀ d ∈ g.everyPosition c,
        g.OnLine l d ∧ g'.OnLine l (d.renumber ρ g'.outline) := fun d hd =>
      ⟨hc.of_mem_everyPosition hd,
        hc'.of_mem_everyPosition (hevery ▸ List.mem_map_of_mem hd)⟩
    have hnone : ∀ d ∈ ([] : List (Context σ)),
        g.OnLine l d ∧ g'.OnLine l (d.renumber ρ g'.outline) := List.forall_mem_nil _
    have hfold := foldl_addNew_map (fun d e hd he => h.state_eq_iff hd.1 he.1 hd.2 he.2) hmem hnone
    rw [Grammar.positions_eq hg hs hc, Grammar.positions_eq hg' (h.isStateless_eq.trans hs) hc',
      hevery, List.map_reverse]
    exact congrArg List.reverse hfold

theorem check_eq (input : String) (user : Option σ) :
    g'.check input user = (g.check input user).renumber ρ g'.outline := by
  have hc' := g'.onLine_start (.read input) user
  rw [← h.start_eq] at hc'
  have heq := h.matchPending_eq hg hblind hg' (g.onLine_start (.read input) user) hc'
  rw [h.start_eq] at heq
  exact heq

theorem typing_eq (input : String) (user : Option σ) :
    (g'.typing input user).1 = ((g.typing input user).1).map (·.renumber ρ g'.outline) ∧
      ∀ c ∈ (g.typing input user).1, g.OnLine (Line.read input).splitTrailing.1 c := by
  have hstart := g.onLine_start (Line.read input).splitTrailing.1 user
  have hc' := g'.onLine_start (Line.read input).splitTrailing.1 user
  rw [← h.start_eq] at hc'
  have heq := h.positions_eq hg hblind hg' hstart hc'
  rw [h.start_eq] at heq
  exact ⟨heq, fun c hc => hstart.of_mem_everyPosition (positions_subset_everyPosition hg hstart hc)⟩

theorem complete_eq (input : String) (user : Option σ) :
    g'.complete input user = g.complete input user := by
  obtain ⟨htyping, honLine⟩ := h.typing_eq hg hblind hg' input user
  change inOrder ((g'.typing input user).1.flatMap _) = inOrder ((g.typing input user).1.flatMap _)
  rw [htyping, List.flatMap_map]
  exact congrArg inOrder (List.flatMap_congr fun c hc =>
    h.contextCandidates_eq hg hblind (honLine c hc) _)

theorem help_eq (input : String) (user : Option σ) : g'.help input user = g.help input user := by
  obtain ⟨htyping, honLine⟩ := h.typing_eq hg hblind hg' input user
  change ((g'.typing input user).1.flatMap _).foldl HelpTable.insert .empty =
    ((g.typing input user).1.flatMap _).foldl HelpTable.insert .empty
  rw [htyping, List.flatMap_map]
  exact congrArg (List.foldl HelpTable.insert .empty) (List.flatMap_congr fun c hc =>
    h.contextHelp_eq hg hblind (honLine c hc) _)

end

end Grammar.Renumbers

end CommandGrammar
