import CommandGrammar.Proofs.Grouping
import CommandGrammar.Proofs.Rearranging
import CommandGrammar.Proofs.Offered
import CommandGrammar.Proofs.Sound

/-! The conditions of groups as guards. Every node that is declared inside a group has the group's
condition, and a node is entered, reached, offered and listed only in contexts in which its
conditions hold, by whatever edge the search came to it. Elements that a merge adds are inside no
group, even if the node they are added to is, and so may be nodes below a guarded one without the
guard. -/

namespace CommandGrammar

variable {σ ε : Type}

/-! ### Guards -/

namespace Grammar

/-- The condition guards the node. On every way the node was entered in a context in which the
condition holds, a line is matched up to it as an action only in such a context, and behind any
other context the candidates and the help are those of the other nodes that may follow. -/
structure Guards (g : Grammar σ ε) (holds : Context σ → Bool) (id : Nat) : Prop where
  entered : ∀ l user way c, g.follow? (g.start l user) way = some c →
    ∀ k, c.history[k]? = some id → holds (g.replay l user (c.history.take k)) = true
  checked : ∀ input user k, (g.check input user).history[k]? = some id →
    holds (g.replay (.read input) user ((g.check input user).history.take k)) = true
  reached : ∀ input user, (g.check input user).action = some id →
    holds { g.check input user with action := none } = true
  offered : ∀ c, holds c = false → ∀ typed, g.contextCandidates c typed =
    (((g.following c.position).filter (·.id != id)).filter fun n =>
      !n.isAction && n.isOpen c).flatMap (nodeCandidates c typed)
  listed : ∀ c, holds c = false → ∀ typed, g.contextHelp c typed =
    (((g.following c.position).filter (·.id != id)).filter fun n =>
      n.isOpen c && !(n.isAction && !typed.isEmpty)).flatMap (nodeHelp c typed)

theorem action_of_follow? {g : Grammar σ ε} {l : Line} {user : Option σ} {way : List Nat}
    {c : Context σ} (h : g.follow? (g.start l user) way = some c) : c.action = none := by
  refine follow?_keeps (P := fun c => c.action = none) (fun hc he => ?_) rfl h
  obtain ⟨n, token, value, -, -, -, rfl⟩ := exists_advance_of_take? he
  exact hc

/-- A node does not follow a context in which one of its conditions fails. -/
theorem filter_isOpen_eq {g : Grammar σ ε} (hg : g.Numbered) {id : Nat} {n : Node σ ε}
    (hn : g.node? id = some n) {holds : Context σ → Bool} (hholds : holds ∈ n.conditions)
    {c : Context σ} (hc : holds c = false) {test : Node σ ε → Bool}
    (htest : ∀ m, test m = true → m.isOpen c = true) :
    (g.following c.position).filter test =
      ((g.following c.position).filter (·.id != id)).filter test := by
  rw [List.filter_filter]
  refine List.filter_congr fun m hm => ?_
  refine (Bool.and_eq_left_iff_imp.mpr fun ht => bne_iff_ne.mpr ?_).symm
  rintro rfl
  cases hn.symm.trans (node?_of_mem_following hg hm)
  have hopen := htest n ht
  rw [Node.isOpen, Bool.and_eq_true, List.all_eq_true] at hopen
  rw [hopen.2 holds hholds] at hc
  cases hc

/-- Every condition of a node guards it. -/
theorem guards_of_mem {b : Builder σ ε} {g : Grammar σ ε} (hb : b.build = .ok g) {id : Nat}
    {n : Node σ ε} (hn : g.node? id = some n) {holds : Context σ → Bool}
    (hholds : holds ∈ n.conditions) : g.Guards holds id := by
  have hg := b.numbered_of_build hb
  have htaken {l : Line} {user : Option σ} {c : Context σ} (hc : g.Sound l user c) {k : Nat}
      (hk : c.history[k]? = some id) : holds (g.replay l user (c.history.take k)) = true := by
    obtain ⟨m, token, hm, -, htakes⟩ := hc.taken k id hk
    cases hn.symm.trans hm
    exact htakes.conditions holds hholds
  refine {
    entered := fun l user way c hc k => htaken (sound_of_follow? hb hc)
    checked := fun input user k => htaken (sound_check hb input)
    reached := ?reached
    offered := ?offered
    listed := ?listed }
  case reached =>
    intro input user haction
    rcases check_cases hg input user with ⟨way, place, d, m, hw, hc⟩ | ⟨-, way, hw⟩
    · rw [hc] at haction ⊢
      obtain rfl : m.id = id := Option.some.inj haction
      cases hn.symm.trans (node?_of_edge? hg hw.edge).2
      have hd : { d.finish n.id with action := none } = d := by
        rw [← action_of_follow? hw.follows]
        rfl
      have hopen := hw.isOpen
      rw [Node.isOpen, Bool.and_eq_true, List.all_eq_true] at hopen
      rw [hd]
      exact hopen.2 holds hholds
    · cases (action_of_follow? hw.follows).symm.trans haction
  case offered =>
    intro c hc typed
    rw [contextCandidates,
      filter_isOpen_eq hg hn hholds hc fun m hm => (Bool.and_eq_true_iff.mp hm).2]
  case listed =>
    intro c hc typed
    rw [contextHelp, filter_isOpen_eq hg hn hholds hc fun m hm => (Bool.and_eq_true_iff.mp hm).1]

end Grammar

/-! ### Conditions below a node -/

/-- The conditions of the groups around what is declared. -/
def Entry.conditions (e : Entry σ ε) : List (Context σ → Bool) :=
  match e.item with
  | .node _ inherited => inherited.conditions
  | .link _ => []

namespace Listing

/-- The condition is one of those of the groups around the node with the number. -/
def HasCondition (l : Listing σ ε) (holds : Context σ → Bool) (id : Nat) : Prop :=
  ∀ e ∈ l.nodes, l.places[id]? = some e.place → holds ∈ e.conditions

/-- The node at the place passes its conditions on to what has the given ones, unless it is one to
which elements are added with nothing around them. -/
def Passes (l : Listing σ ε) (fresh : List String → Prop) (place : List String)
    (conditions : List (Context σ → Bool)) : Prop :=
  fresh place ∨ ∃ e ∈ l.nodes, e.place = place ∧ e.conditions ⊆ conditions

/-- Every node passes its conditions on to the nodes declared in it, unless it is one to which
elements are added with nothing around them. -/
def Covered (l : Listing σ ε) (fresh : List String → Prop) : Prop :=
  ∀ e ∈ l.nodes, l.Passes fresh e.parent e.conditions

variable {l m : Listing σ ε} {fresh : List String → Prop} {place : List String}
  {conditions : List (Context σ → Bool)}

theorem Passes.mono (h : l.Passes fresh place conditions) (hm : l <+: m) :
    m.Passes fresh place conditions :=
  h.imp_right fun ⟨e, he, hplace⟩ => ⟨e, (hm.filter _).subset he, hplace⟩

theorem Covered.add (h : l.Covered fresh) (item : Item σ ε) (hnode : ∀ decl inherited,
    item = .node decl inherited → l.Passes fresh place inherited.conditions) :
    (l.add place item).Covered fresh := by
  intro e he
  rw [Listing.add, nodes_append, List.mem_append] at he
  rcases he with he | he
  · exact (h e he).mono (prefix_add l place item)
  · obtain ⟨hmem, hisNode⟩ := mem_nodes.mp he
    obtain rfl := List.mem_singleton.mp hmem
    obtain ⟨decl, inherited, rfl⟩ := Entry.item_of_isNode hisNode
    exact (hnode decl inherited rfl).mono (prefix_add l place _)

theorem passes_add (l : Listing σ ε) (fresh : List String → Prop) (place : List String)
    (decl : NodeDecl σ ε) (inherited : Inherited σ) :
    (l.add place (.node decl inherited)).Passes fresh (place ++ [l.chosenName place decl.name])
      inherited.conditions := by
  refine .inr ⟨⟨place, l.chosenName place decl.name, .node decl inherited⟩, ?_, rfl,
    List.Subset.refl _⟩
  rw [add, nodes_append]
  exact List.mem_append_right _ List.mem_cons_self

mutual

theorem Covered.addElement (e : Element σ ε) {l : Listing σ ε} {place : List String}
    {inherited : Inherited σ} (h : l.Covered fresh)
    (hpasses : l.Passes fresh place inherited.conditions) :
    (addElement place inherited l e).Covered fresh := by
  cases e with
  | node decl elements =>
    have hadd : (l.add place (.node decl inherited)).Covered fresh :=
      h.add _ fun _ _ heq => by cases heq; exact hpasses
    rw [Listing.addElement]
    exact Covered.addElements elements hadd (passes_add l fresh place decl inherited)
  | link decl =>
    rw [Listing.addElement]
    exact h.add _ fun _ _ heq => by cases heq
  | group grp elements =>
    rw [Listing.addElement]
    refine Covered.addElements elements h (hpasses.imp_right fun ⟨f, hf, hplace, hsub⟩ => ?_)
    exact ⟨f, hf, hplace, List.Subset.trans hsub (List.subset_append_left _ _)⟩

theorem Covered.addElements (es : List (Element σ ε)) {l : Listing σ ε} {place : List String}
    {inherited : Inherited σ} (h : l.Covered fresh)
    (hpasses : l.Passes fresh place inherited.conditions) :
    (addElements place inherited l es).Covered fresh := by
  cases es with
  | nil => rw [Listing.addElements]; exact h
  | cons e es =>
    rw [Listing.addElements]
    exact Covered.addElements es (Covered.addElement e h hpasses)
      (hpasses.mono (prefix_addElement _ _ _ e))

end

mutual

theorem Covered.addMerge (m : Merge σ ε) {l : Listing σ ε} {base : List String}
    (h : l.Covered fresh) (hfresh : ∀ s ∈ searches base l m, ∀ place ∈ s.place?, fresh place) :
    (addMerge base l m).Covered fresh := by
  cases m with
  | into target elements merges =>
    rw [searches, List.forall_mem_cons] at hfresh
    rw [Listing.addMerge]
    split
    · exact h
    · next place hplace =>
      rw [hplace] at hfresh
      exact Covered.addMerges merges
        (Covered.addElements elements h (.inl (hfresh.1 place hplace))) hfresh.2

theorem Covered.addMerges (ms : List (Merge σ ε)) {l : Listing σ ε} {base : List String}
    (h : l.Covered fresh) (hfresh : ∀ s ∈ searchesAll base l ms, ∀ place ∈ s.place?, fresh place) :
    (addMerges base l ms).Covered fresh := by
  cases ms with
  | nil => rw [Listing.addMerges]; exact h
  | cons m ms =>
    rw [searchesAll, List.forall_mem_append] at hfresh
    rw [Listing.addMerges]
    exact Covered.addMerges ms (Covered.addMerge m h hfresh.1) hfresh.2

end

end Listing

namespace Grammar

/-- The node is the given one, or it stands below it. -/
inductive Within (g : Grammar σ ε) (top : Nat) : Nat → Prop
  | self : Within g top top
  | child {id parent : Nat} {n : Node σ ε} : g.node? id = some n → n.parent = some parent →
      Within g top parent → Within g top id

theorem exists_node_of_within {g : Grammar σ ε} {top id : Nat} (hid : g.Within top id)
    (htop : ∃ n, g.node? top = some n) : ∃ n, g.node? id = some n := by
  cases hid with
  | self => exact htop
  | child hn _ _ => exact ⟨_, hn⟩

namespace Shows

variable {g : Grammar σ ε} {l : Listing σ ε}

theorem ne_zero_of_within (h : g.Shows l) {top id : Nat} (hid : g.Within top id) (ht : top ≠ 0) :
    id ≠ 0 := by
  cases hid with
  | self => exact ht
  | child hn hparent _ =>
    rintro rfl
    rw [(h.made hn).root_eq.2.2] at hparent
    cases hparent

/-- A condition of the groups around a node is one of those around every node below it, if no
elements were added there with nothing around them. -/
theorem hasCondition_of_within (h : g.Shows l) {fresh : List String → Prop}
    (hl : l.Covered fresh) {top id : Nat} (hid : g.Within top id)
    (hfresh : ∀ i place, g.Within top i → l.places[i]? = some place → ¬fresh place)
    {holds : Context σ → Bool} (htop : l.HasCondition holds top) : l.HasCondition holds id := by
  induction hid with
  | self => exact htop
  | @child id parent n hn hparent hbelow ih =>
    intro e he hplace
    have hid : id ≠ 0 := by
      rintro rfl
      exact e.place_ne_nil (Option.some.inj hplace).symm
    obtain ⟨p, f, -, hp, -, hpplace, hfplace, -⟩ := (h.made hn).exists_parent hid
    obtain rfl := Option.some.inj (hp.symm.trans hparent)
    have hparents : e.parent = f.parent :=
      (Entry.place_inj.mp (Option.some.inj (hplace.symm.trans hfplace))).1
    rcases hl e he with hnew | ⟨outer, houter, houterplace, hsub⟩
    · exact absurd hnew (hfresh p _ hbelow (hparents ▸ hpplace))
    · exact hsub (ih outer houter (by rw [hpplace, houterplace, hparents]))

/-- The conditions of the groups around a node are its own too. -/
theorem mem_conditions (h : g.Shows l) {id : Nat} {n : Node σ ε} (hn : g.node? id = some n)
    (hid : id ≠ 0) {holds : Context σ → Bool} (hl : l.HasCondition holds id) :
    holds ∈ n.conditions := by
  cases h.made hn with
  | root => exact absurd rfl hid
  | @node _ _ k parent e decl inherited pattern entry item _ _ _ =>
    have he := hl e (List.mem_of_getElem? entry) (by
      rw [Listing.getElem?_places_succ, entry, Option.map_some])
    rw [Entry.conditions, item] at he
    exact List.mem_append_left _ he

/-- A declaration inside a group is listed with its condition. -/
theorem hasCondition_of_group (h : g.Shows l) {ds : List (Declaration σ ε)} (hl : l.Declares ds)
    {k : Nat} {d : Declaration σ ε} (hd : ds[k]? = some d) {grp : GroupDecl σ}
    (hgrp : grp ∈ d.groups) {holds : Context σ → Bool} (hholds : grp.condition = some holds) :
    l.HasCondition holds (k + 1) := by
  obtain ⟨e, he, item⟩ := hl.exists_entry hd
  intro f hf hplace
  rw [Listing.getElem?_places_succ, he, Option.map_some, Option.some_inj] at hplace
  obtain rfl := List.inj_on_of_nodup_map h.clean.distinct
    (Listing.mem_nodes.mp (List.mem_of_getElem? he)).1 (Listing.mem_nodes.mp hf).1 hplace
  rw [Entry.conditions, item]
  exact List.mem_filterMap.mpr ⟨grp, hgrp, hholds⟩

end Shows

end Grammar

namespace Builder

variable {b : Builder σ ε} {g : Grammar σ ε}

/-- Elements are added with nothing around them to the root and to the targets of merges. -/
def Fresh (b : Builder σ ε) (place : List String) : Prop :=
  place = [] ∨ ∃ s ∈ b.searches, s.place? = some place

theorem covered_listing (b : Builder σ ε) : b.listing.Covered b.Fresh := by
  have hnil : Listing.Covered ([] : Listing σ ε) b.Fresh := List.forall_mem_nil _
  exact Listing.Covered.addMerges b.merges (hnil.addElements b.elements (.inl (.inl rfl)))
    fun s hs place hplace => .inr ⟨s, hs, hplace⟩

/-- The condition of a group guards every node that is declared inside the group, merges or not. It
guards every node in the subtree of such a node if no merge adds elements there. -/
theorem guards_of_group (h : b.build = .ok g) {k : Nat} {d : Declaration σ ε}
    (hd : b.declared[k]? = some d) {grp : GroupDecl σ} (hgrp : grp ∈ d.groups)
    {holds : Context σ → Bool} (hholds : grp.condition = some holds) :
    g.Guards holds (k + 1) ∧
      ((∀ s ∈ b.searches, ∀ place ∈ s.place?, ∀ id, g.outline.walk? 0 place = some id →
          ¬g.Within (k + 1) id) →
        ∀ id, g.Within (k + 1) id → g.Guards holds id) := by
  have hshows := b.shows_of_build h
  have hdeclares := b.declares_listing (wellDeclared_of_build h).merges
  have htop := hshows.hasCondition_of_group hdeclares hd hgrp hholds
  obtain ⟨e, he, -⟩ := hdeclares.exists_entry hd
  have hnode : ∃ n, g.node? (k + 1) = some n :=
    hshows.exists_node (by rw [Listing.getElem?_places_succ, he, Option.map_some])
  have hguards : ∀ id, g.Within (k + 1) id → b.listing.HasCondition holds id →
      g.Guards holds id := by
    intro id hid hl
    obtain ⟨n, hn⟩ := Grammar.exists_node_of_within hid hnode
    exact Grammar.guards_of_mem h hn
      (hshows.mem_conditions hn (hshows.ne_zero_of_within hid (Nat.succ_ne_zero k)) hl)
  refine ⟨hguards _ .self htop, fun hmerges id hid => hguards id hid
    (hshows.hasCondition_of_within b.covered_listing hid ?_ htop)⟩
  rintro i place hi hiplace (rfl | ⟨s, hs, hfound⟩)
  · exact hshows.ne_zero_of_within hi (Nat.succ_ne_zero k)
      (hshows.clean.number_inj hiplace Listing.root_place)
  · exact hmerges s hs place hfound i (hshows.outline.walk?_root.mpr hiplace) hi

end Builder

/-! ### A merge into a group -/

namespace Sample

/-- Whether there is a user. -/
def hasUser (c : Context Unit) : Bool := c.user.isSome

/-- A command that takes effect. -/
def wipe : Element Unit String :=
  .node { body := .literal, name := some "wipe" } [
    .node { body := .action fun _ => ⟨["wiped"], .ok ()⟩, name := none } []]

/-- A node for users only, and one for all from which an alias leads to what is in the first. -/
def vault (inside : List (Element Unit String)) (merges : List (Merge Unit String)) :
    Builder Unit String where
  elements := [
    .group { condition := some hasUser } [.node { body := .literal, name := some "secure" } inside],
    .node { body := .literal, name := some "run" } [.link { target := "/secure/*" }]]
  merges

/-- The declaration of the node for users. -/
def secure : Declaration Unit String :=
  ⟨{ body := .literal, name := some "secure" }, [{ condition := some hasUser }]⟩

/-- What is declared in the group is guarded, although there is a merge into the other node. -/
theorem guards_vault : ∃ g, (vault [wipe] [.into "/run" [wipe] []]).build = .ok g ∧
    (vault [wipe] [.into "/run" [wipe] []]).declared[0]? = some secure ∧
    g.nodes.toList.map (·.path) =
      ["/", "/secure", "/secure/wipe", "/secure/wipe/@0", "/run", "/run/wipe", "/run/wipe/@0"] ∧
    g.Within 1 2 ∧ g.Guards hasUser 2 := by
  obtain ⟨g, hg, hval⟩ := (vault [wipe] [.into "/run" [wipe] []]).exists_build
    (f := fun g => (g.nodes.toList.map (·.path), (g.node? 2).map (·.parent),
      (g.node? 4).map (·.parent), g.outline.walk? 0 ["run"]))
    (v := (["/", "/secure", "/secure/wipe", "/secure/wipe/@0", "/run", "/run/wipe", "/run/wipe/@0"],
      some (some 1), some (some 0), some 4)) (by decide +kernel)
  obtain ⟨hpaths, hval⟩ := Prod.mk.inj hval
  obtain ⟨hparent, hval⟩ := Prod.mk.inj hval
  obtain ⟨hrun, hwalk⟩ := Prod.mk.inj hval
  obtain ⟨n, hn, hparent⟩ := Option.map_eq_some_iff.mp hparent
  obtain ⟨m, hm, hrun⟩ := Option.map_eq_some_iff.mp hrun
  have hwithin : g.Within 1 2 := .child hn hparent .self
  -- the one merge adds its elements to a node at the root
  have hfound : ∀ s ∈ (vault [wipe] [.into "/run" [wipe] []]).searches,
      ∀ place ∈ s.place?, place = ["run"] := by
    have hsearches : (vault [wipe] [.into "/run" [wipe] []]).searches.map (·.place?) =
        [some ["run"]] := by decide +kernel
    intro s hs place hplace
    have hmem := List.mem_map_of_mem (f := Listing.Search.place?) hs
    rw [hsearches, List.mem_singleton] at hmem
    exact Option.some.inj (hplace.symm.trans hmem)
  have hshows := (vault [wipe] [.into "/run" [wipe] []]).shows_of_build hg
  have hcondition : (⟨none, none, some hasUser⟩ : GroupDecl Unit).condition = some hasUser := rfl
  obtain ⟨-, hbelow⟩ :=
    Builder.guards_of_group hg (k := 0) (d := secure) rfl List.mem_cons_self hcondition
  refine ⟨g, hg, rfl, hpaths, hwithin, hbelow (fun s hs place hplace id hid hbad => ?_) 2 hwithin⟩
  rw [hfound s hs place hplace, hwalk] at hid
  obtain rfl := Option.some.inj hid
  cases hbad with
  | child hm' hparent' habove =>
    obtain rfl := Option.some.inj (hm.symm.trans hm')
    obtain rfl := Option.some.inj (hrun.symm.trans hparent')
    exact hshows.ne_zero_of_within habove Nat.one_ne_zero rfl

/-- A command that is merged into the node for users is offered to everyone, and taken. -/
theorem unguarded_merge : ∃ g, (vault [] [.into "/secure" [wipe] []]).build = .ok g ∧
    (vault [] [.into "/secure" [wipe] []]).declared[0]? = some secure ∧
    g.nodes.toList.map (·.path) = ["/", "/secure", "/run", "/secure/wipe", "/secure/wipe/@0"] ∧
    g.Within 1 3 ∧ (g.check "run wipe" none).history = [2, 3] ∧
    (g.check "run wipe" none).action = some 4 ∧
    hasUser (g.replay (.read "run wipe") none [2]) = false ∧ "wipe " ∈ g.complete "run " none ∧
    ¬g.Guards hasUser 3 := by
  obtain ⟨g, hg, hval⟩ := (vault [] [.into "/secure" [wipe] []]).exists_build
    (f := fun g =>
      ((g.nodes.toList.map (·.path), (g.node? 3).map (·.parent)),
        ((g.seekPending (g.start (.read "run wipe") none)).history,
          (g.seekPending (g.start (.read "run wipe") none)).action),
        hasUser (g.replay (.read "run wipe") none [2]),
        (g.everyPosition (g.typingStart "run " none)).any fun d =>
          (g.contextCandidates d (Line.read "run ").splitTrailing.2).contains "wipe "))
    (v := ((["/", "/secure", "/run", "/secure/wipe", "/secure/wipe/@0"], some (some 1)),
      ([2, 3], some 4), false, true)) (by decide +kernel)
  obtain ⟨hnodes, hval⟩ := Prod.mk.inj hval
  obtain ⟨hpaths, hparent⟩ := Prod.mk.inj hnodes
  obtain ⟨hmatched, hval⟩ := Prod.mk.inj hval
  obtain ⟨hhistory, haction⟩ := Prod.mk.inj hmatched
  obtain ⟨huser, hoffered⟩ := Prod.mk.inj hval
  obtain ⟨n, hn, hparent⟩ := Option.map_eq_some_iff.mp hparent
  have hnumbered := (vault [] [.into "/secure" [wipe] []]).numbered_of_build hg
  have hseek : g.check "run wipe" none = g.seekPending (g.start (.read "run wipe") none) :=
    Grammar.matchPending_eq_seekPending hnumbered (g.onLine_start _ none)
  have hc : "wipe " ∈ g.complete "run " none := by
    rw [Grammar.mem_complete_iff_every hnumbered]
    simpa only [List.any_eq_true, List.contains_iff_mem] using hoffered
  rw [← hseek] at hhistory haction
  refine ⟨g, hg, rfl, hpaths, .child hn hparent .self, hhistory, haction, huser, hc,
    fun hguards => ?_⟩
  have hchecked := hguards.checked "run wipe" none 1 (by rw [hhistory]; rfl)
  rw [hhistory] at hchecked
  cases huser.symm.trans hchecked

end Sample

end CommandGrammar
