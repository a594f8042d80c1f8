import CommandGrammar.Proofs.Grafting
import CommandGrammar.Proofs.Grouping
import CommandGrammar.Proofs.Offered

/-! Declarations without merges. What a merge adds to a node could as well be declared at the end of
that node, if no group around the node gives anything to what is declared in it. The nodes get other
numbers then, and nothing else is different: the same lines are matched, with the same results. -/

namespace CommandGrammar

variable {σ ε : Type}

/-! ### Callbacks of declared nodes -/

/-- The callbacks of the declaration, and the conditions of the groups around it, do not look at the
numbers of nodes. -/
structure Declaration.Blind (d : Declaration σ ε) : Prop where
  groups : ∀ grp ∈ d.groups, ∀ holds, grp.condition = some holds → Context.Blind holds
  condition : ∀ holds, d.decl.condition = some holds → Context.Blind holds
  candidates : ∀ offer, d.decl.candidates = some (.dynamic offer) → Context.Blind offer
  help : ∀ entries, d.decl.help = some (.dynamic entries) → Context.Blind entries

/-- The callbacks of a grammar are those declared for it. -/
theorem Builder.blind_of_build {b : Builder σ ε} {g : Grammar σ ε} (h : b.build = .ok g)
    (hb : ∀ d ∈ b.declared, d.Blind) : g.Blind := by
  intro id n hn
  cases (b.shows_of_build h).made hn with
  | root => exact ⟨List.forall_mem_nil _, nofun, nofun⟩
  | node _ _ entry item =>
    obtain ⟨d, hd, hitem⟩ :=
      (b.declares_listing (wellDeclared_of_build h).merges).exists_declaration entry
    replace hd := List.mem_of_getElem? hd
    rw [item] at hitem
    cases hitem
    refine ⟨List.forall_mem_append.mpr ⟨fun holds hholds => ?_, fun holds hholds => ?_⟩,
      (hb d hd).candidates, (hb d hd).help⟩
    · obtain ⟨grp, hgrp, hcondition⟩ := List.mem_filterMap.mp hholds
      exact (hb d hd).groups grp hgrp holds hcondition
    · exact (hb d hd).condition holds (Option.mem_toList.mp hholds)

/-! ### Leaving merges out -/

namespace Merge

/-- The merges into nodes below the one that the elements are added to. -/
def inner : Merge σ ε → List (Merge σ ε)
  | .into _ _ merges => merges

/-- The elements of the root with those of a merge, which stand at the end of the node that they are
added to. This is the one that the target names among what is listed. -/
def inlined (l : Listing σ ε) (es : List (Element σ ε)) : Merge σ ε → List (Element σ ε)
  | .into target more _ =>
    ((l.mergePlace? [] target).bind (Element.graftAt? more es)).getD es

/-- The elements of the root with those of merges, one merge after another. -/
def inlinedAll (l : Listing σ ε) (es : List (Element σ ε)) : List (Merge σ ε) → List (Element σ ε)
  | [] => es
  | m :: ms => inlinedAll (l.addMerge [] m) (m.inlined l es) ms

end Merge

/-- The group sets nothing for what is declared in it. -/
def GroupDecl.SetsNothing (grp : GroupDecl σ) : Prop :=
  grp.traversals = none ∧ grp.group = none ∧ grp.condition = none

namespace Builder

/-- The declaration without merges. -/
def inlined (b : Builder σ ε) : Builder σ ε where
  elements :=
    Merge.inlinedAll (Listing.addElements [] ⟨none, none, []⟩ [] b.elements) b.elements b.merges
  merges := []

/-- No merge is declared in another one, every target is found, and no group around the node that it
names, or around a node above that, sets anything. The places behind that of the root are those of
the declared nodes, in order. -/
structure Inlinable (b : Builder σ ε) : Prop where
  flat : ∀ m ∈ b.merges, m.inner = []
  found : ∀ s ∈ b.searches, s.Succeeds
  ungrouped : ∀ s ∈ b.searches, ∀ place ∈ s.place?, ∀ k d,
    b.listing.places[k + 1]? = some place → b.declared[k]? = some d →
      ∀ grp ∈ d.groups, grp.SetsNothing

end Builder

/-- Groups that set nothing give nothing. -/
theorem Inherited.ofGroups_eq_none {groups : List (GroupDecl σ)}
    (h : ∀ grp ∈ groups, grp.SetsNothing) : ofGroups groups = ⟨none, none, []⟩ := by
  have hinnermost {α : Type} {value : GroupDecl σ → Option α}
      (hvalue : ∀ grp ∈ groups, value grp = none) : innermost value groups = none :=
    List.findSome?_eq_none_iff.mpr fun grp hgrp => hvalue grp (List.mem_reverse.mp hgrp)
  rw [ofGroups, hinnermost fun grp hgrp => (h grp hgrp).1,
    hinnermost fun grp hgrp => (h grp hgrp).2.1,
    List.filterMap_eq_nil_iff.mpr fun grp hgrp => (h grp hgrp).2.2]

namespace Listing

open Element (graftAt?)

/-! ### The node that a target names -/

theorem mem_places_of_labelled? {l : Listing σ ε} {label : String} {place : List String}
    (h : l.labelled? label = some place) : place ∈ l.places := by
  obtain ⟨front, rest, hlabels, -⟩ := List.lookup_eq_some_iff.mp h
  have hmem : (label, place) ∈ l.labels := by
    rw [hlabels]
    exact List.mem_append_right _ List.mem_cons_self
  obtain ⟨e, he, heq⟩ := List.mem_filterMap.mp hmem
  obtain ⟨_, hlabel, heq⟩ := Option.map_eq_some_iff.mp heq
  obtain rfl := (Prod.mk.inj heq).2
  -- an alias has no label
  have hnode : e.isNode = true := by
    unfold Entry.label? at hlabel
    unfold Entry.isNode
    split at hlabel
    · rfl
    · cases hlabel
  exact mem_places.mpr (.inr ⟨e, mem_nodes.mpr ⟨he, hnode⟩, rfl⟩)

theorem mem_places_of_mergePlace? {l : Listing σ ε} {base place : List String} {target : String}
    (h : l.mergePlace? base target = some place) : place ∈ l.places := by
  obtain ⟨hlocate, -⟩ := Option.filter_eq_some_iff.mp h
  rw [locate?] at hlocate
  split at hlocate
  · next found hlabel =>
    obtain rfl := Option.some.inj hlocate
    exact mem_places_of_labelled? hlabel
  · dsimp only at hlocate
    split at hlocate
    · next hmem =>
      obtain rfl := Option.some.inj hlocate
      exact hmem
    · cases hlocate

/-! ### One merge -/

/-- The elements of the root list the same in each node, if in one of the two ways no two things
stand at one place. -/
def Agrees (l : Listing σ ε) (es : List (Element σ ε)) : Prop :=
  l.Distinct ∨ (ofElements [] ⟨none, none, []⟩ 0 es).Distinct →
    l.SameUnder (ofElements [] ⟨none, none, []⟩ 0 es)

variable {l : Listing σ ε} {es : List (Element σ ε)}

theorem Agrees.graft (h : l.Agrees es) (hclosed : l.Closed) {place : List String}
    (hplace : place ∈ l.places) (hbare : l.Bare place) (more : List (Element σ ε)) :
    (addElements place ⟨none, none, []⟩ l more).Agrees ((graftAt? more es place).getD es) := by
  intro hd
  -- nothing stood at one place before
  have hbefore : l.Distinct ∨ (ofElements [] ⟨none, none, []⟩ 0 es).Distinct := by
    refine hd.imp (·.shorter (prefix_addElements _ _ _ _)) fun hd => ?_
    cases hes : graftAt? more es place with
    | none => rwa [hes] at hd
    | some es' =>
      rw [hes] at hd
      exact hd.sublist ((sublist_graftAt? hes).map _)
  have hsame := h hbefore
  have hes : (ofElements [] ⟨none, none, []⟩ 0 es).Distinct :=
    hbefore.elim (distinct_iff_of_perm hsame.perm).mp id
  obtain ⟨es', hgraft⟩ := exists_graftAt? ((places_perm hsame.perm).mem_iff.mp hplace) more
  rw [hgraft] at hd ⊢
  have hgrafted := (sameUnder_graftAt? hgraft hes fun e he =>
    hbare e (hsame.perm.mem_iff.mpr he)).symm
  have hlist := hsame.grafted place more
  have hadd := addElements_eq hclosed hplace ⟨none, none, []⟩ more
    (hd.imp_right (distinct_iff_of_perm (hlist.trans hgrafted).perm).mpr)
  rw [hadd]
  exact hlist.trans hgrafted

/-! ### All merges -/

theorem Agrees.addMerges {ms : List (Merge σ ε)} (hflat : ∀ m ∈ ms, m.inner = []) {l : Listing σ ε}
    {es : List (Element σ ε)} (h : l.Agrees es) (hclosed : l.Closed)
    (hfound : ∀ s ∈ searchesAll [] l ms, s.Succeeds)
    (hbare : ∀ s ∈ searchesAll [] l ms, ∀ place ∈ s.place?, (addMerges [] l ms).Bare place) :
    (addMerges [] l ms).Agrees (Merge.inlinedAll l es ms) := by
  induction ms generalizing l es with
  | nil => exact h
  | cons m ms ih =>
    rw [List.forall_mem_cons] at hflat
    rw [searchesAll, List.forall_mem_append] at hfound hbare
    rw [Listing.addMerges] at hbare ⊢
    rw [Merge.inlinedAll]
    have hstep : (addMerge [] l m).Agrees (m.inlined l es) ∧ (addMerge [] l m).Closed := by
      obtain ⟨target, more, merges⟩ := m
      obtain rfl : merges = [] := hflat.1
      have hmem : (⟨l, [], target⟩ : Search σ ε) ∈ searches [] l (.into target more []) := by
        rw [searches]
        exact List.mem_cons_self
      obtain ⟨place, hplace⟩ := Option.isSome_iff_exists.mp (hfound.1 _ hmem)
      have hplaces := mem_places_of_mergePlace? hplace
      have hbarel := (hbare.1 _ hmem place hplace).sublist
        ((prefix_addMerge _ _ _).trans (prefix_addMerges _ _ _)).sublist
      rw [addMerge, Merge.inlined, hplace]
      exact ⟨h.graft hclosed hplaces hbarel more, closed_addElements hclosed hplaces _ more⟩
    exact ih hflat.2 hstep.1 hstep.2 hfound.2 hbare.2

end Listing

namespace Builder

variable {b : Builder σ ε}

namespace Inlinable

theorem bare (h : b.Inlinable) {s : Listing.Search σ ε} (hs : s ∈ b.searches)
    {place : List String} (hplace : place ∈ s.place?) : b.listing.Bare place := by
  rintro e he rfl decl inherited item
  have hnode : e.isNode = true := by rw [Entry.isNode, item]
  obtain ⟨k, hk⟩ := List.mem_iff_getElem?.mp (Listing.mem_nodes.mpr ⟨he, hnode⟩)
  -- the entry is that of a declaration
  obtain ⟨d, hd, hitem⟩ := (b.declares_listing h.found).exists_declaration hk
  have hgroups := h.ungrouped s hs _ hplace k d
    (by rw [Listing.getElem?_places_succ, hk, Option.map_some]) hd
  rw [item] at hitem
  rw [← Inherited.ofGroups_eq_none hgroups]
  exact (Item.node.inj hitem).2.symm

theorem agrees (h : b.Inlinable) : b.listing.Agrees b.inlined.elements := by
  have hstart : (Listing.addElements [] ⟨none, none, []⟩ [] b.elements).Agrees b.elements := by
    intro hd
    have heq := Listing.addElements_eq (List.forall_mem_nil _) List.mem_cons_self _ b.elements hd
    rw [heq]
    exact .refl _
  have hclosed := Listing.closed_addElements (l := []) (List.forall_mem_nil _) List.mem_cons_self
    ⟨none, none, []⟩ b.elements
  exact hstart.addMerges h.flat hclosed h.found fun s hs place hplace => h.bare hs hplace

/-- The two declarations list the same in each node, if in one of them no two things stand at one
place. -/
theorem sameUnder (h : b.Inlinable) (hd : b.listing.Distinct ∨ b.inlined.listing.Distinct) :
    b.listing.SameUnder b.inlined.listing := by
  have hentries : b.listing.Distinct ∨ b.inlined.entries.Distinct :=
    hd.imp_right fun hd => listing_eq_entries (b := b.inlined) rfl (.inl hd) ▸ hd
  have hsame : b.listing.SameUnder b.inlined.entries := h.agrees hentries
  have hdistinct : b.inlined.entries.Distinct :=
    hentries.elim (Listing.distinct_iff_of_perm hsame.perm).mp id
  rw [listing_eq_entries (b := b.inlined) rfl (.inr hdistinct)]
  exact hsame

theorem wellDeclared_iff (h : b.Inlinable) : b.WellDeclared ↔ b.inlined.WellDeclared := by
  rw [Builder.wellDeclared_iff, Builder.wellDeclared_iff,
    searches_of_merges (b := b.inlined) rfl]
  constructor
  · rintro ⟨hl, -⟩
    exact ⟨hl.of_perm (h.sameUnder (.inl hl.distinct)).perm, List.forall_mem_nil _⟩
  · rintro ⟨hl, -⟩
    exact ⟨hl.of_perm (h.sameUnder (.inr hl.distinct)).perm.symm, h.found⟩

end Inlinable

/-- Merged elements make a grammar exactly if they do at the ends of the nodes that they are merged
into, and then it has the same nodes by their paths, with the same attributes, labels, children and
edges. If no callback looks at the numbers of nodes, lines are matched alike, and the same is
offered and listed. -/
theorem inlined_build (h : b.Inlinable) :
    ((∃ g, b.build = .ok g) ↔ ∃ g', b.inlined.build = .ok g') ∧
      ∀ g g', b.build = .ok g → b.inlined.build = .ok g' →
        g.Resembles Eq g' ∧
          (g.Blind → ∀ input user,
            (g'.check input user).history.map g'.outline.path =
              (g.check input user).history.map g.outline.path ∧
            (g'.check input user).action.map g'.outline.path =
              (g.check input user).action.map g.outline.path ∧
            (g'.check input user).vars = (g.check input user).vars ∧
            (g'.check input user).consumed = (g.check input user).consumed ∧
            g'.complete input user = g.complete input user ∧
            g'.help input user = g.help input user) := by
  refine ⟨?_, fun g g' hg hg' => ?_⟩
  · rw [exists_build_iff, exists_build_iff, h.wellDeclared_iff]
  · have hshows := b.shows_of_build hg
    have hshows' := b.inlined.shows_of_build hg'
    have hsame := h.sameUnder (.inl hshows.clean.distinct)
    refine ⟨hshows.resembles_of_sameUnder hshows' hsame, fun hblind input user => ?_⟩
    have hrenumbers := hshows.renumbers hshows' hsame
    have hnumbered := b.numbered_of_build hg
    have hnumbered' := b.inlined.numbered_of_build hg'
    refine ⟨?_, ?_, ?_, ?_, hrenumbers.complete_eq hnumbered hblind hnumbered' input user,
      hrenumbers.help_eq hnumbered hblind hnumbered' input user⟩
    all_goals rw [hrenumbers.check_eq hnumbered hblind hnumbered' input user]
    · rw [Context.renumber, List.map_map]
      exact List.map_congr_left fun id _ => hrenumbers.outline.path_eq id
    · rw [Context.renumber, Option.map_map]
      exact Option.map_congr fun id _ => hrenumbers.outline.path_eq id
    · rfl
    · rfl

end Builder

namespace Sample

/-- Whether the node entered last is one that a merge adds. -/
def behindUser (c : Context Unit) : Bool := c.outline.path c.position == "/show/user"

theorem blind_behindUser : Context.Blind behindUser := fun _ _ c hc =>
  congrArg (· == "/show/user") (hc.path_eq c.position)

def command (name : String) (elements : List (Element Unit String)) : Element Unit String :=
  .node { body := .literal, name := some name } elements

def done : Element Unit String :=
  .node { body := .action fun _ => ⟨["done"], .ok ()⟩, name := none } []

/-- A merge into a node that another one adds. An alias declared in front of them leads to what they
add, and an alias in the second leads back out. -/
def terminal : Builder Unit String where
  elements := [
    command "set" [.link { target := "/show/*" }],
    command "show" [],
    .group { condition := some behindUser } [command "log" [done]]]
  merges := [
    .into "/show" [command "user" []] [],
    .into "show/user" [done, .link { target := "/log" }] []]

theorem terminal_inlinable : terminal.Inlinable := by
  have hplaces : terminal.searches.map (·.place?) = [some ["show"], some ["show", "user"]] := by
    decide +kernel
  have hfound : ∀ s ∈ terminal.searches,
      s.place? = some ["show"] ∨ s.place? = some ["show", "user"] := by
    intro s hs
    have hmem := List.mem_map_of_mem (f := Listing.Search.place?) hs
    rw [hplaces] at hmem
    simpa using hmem
  have hgroups : ∀ k < 6, terminal.listing.places[k + 1]? = some ["show"] ∨
      terminal.listing.places[k + 1]? = some ["show", "user"] →
        (terminal.declared.map (·.groups.length))[k]? = some 0 := by
    decide +kernel
  refine ⟨?_, fun s hs => ?_, fun s hs place hplace k d hk hd grp hgrp => ?_⟩
  · rintro m (_ | ⟨_, _ | ⟨_, hm⟩⟩)
    · rfl
    · rfl
    · cases hm
  · exact (hfound s hs).elim Option.isSome_of_eq_some Option.isSome_of_eq_some
  · have hlt : k < 6 := (List.getElem?_eq_some_iff.mp hd).1
    rw [← Option.mem_def.mp hplace] at hk
    have hlength := hgroups k hlt (by rw [hk]; exact hfound s hs)
    rw [List.getElem?_map, hd, Option.map_some, Option.some_inj, List.length_eq_zero_iff] at hlength
    rw [hlength] at hgrp
    cases hgrp

theorem terminal_blind : ∀ d ∈ terminal.declared, d.Blind := by
  have hcalls : ∀ d ∈ terminal.declared, (∀ grp ∈ d.groups, grp.condition = some behindUser) ∧
      d.decl.condition = none ∧ d.decl.candidates = none ∧ d.decl.help = none := by
    simp [terminal, command, done, Builder.declared, Element.declaredAll, Element.declared,
      Merge.declaredAll, Merge.declared]
  intro d hd
  obtain ⟨hgroups, hcondition, hcandidates, hhelp⟩ := hcalls d hd
  refine ⟨fun grp hgrp holds hholds => ?_, fun holds hholds => ?_, fun offer hoffer => ?_,
    fun entries hentries => ?_⟩
  · obtain rfl := Option.some.inj ((hgroups grp hgrp).symm.trans hholds)
    exact blind_behindUser
  · cases hcondition.symm.trans hholds
  · cases hcandidates.symm.trans hoffer
  · cases hhelp.symm.trans hentries

theorem inlined_build_terminal : terminal.Inlinable ∧ ∃ g g', terminal.build = .ok g ∧
    terminal.inlined.build = .ok g' ∧ g.Blind ∧
    g.nodes.toList.map (·.path) =
      ["/", "/set", "/show", "/log", "/log/@0", "/show/user", "/show/user/@0"] ∧
    g'.nodes.toList.map (·.path) =
      ["/", "/set", "/show", "/show/user", "/show/user/@0", "/log", "/log/@0"] ∧
    g.Resembles Eq g' ∧
    (g.check "set user log" none).history = [1, 5, 3] ∧
    (g'.check "set user log" none).history.map g'.outline.path = ["/set", "/show/user", "/log"] ∧
    "user " ∈ g'.complete "set " none := by
  obtain ⟨g, hg, hval⟩ := terminal.exists_build
    (f := fun g =>
      (g.nodes.toList.map (·.path),
        (g.seekPending (g.start (.read "set user log") none)).history,
        [1, 5, 3].map g.outline.path,
        (g.everyPosition (g.typingStart "set " none)).any fun d =>
          (g.contextCandidates d (Line.read "set ").splitTrailing.2).contains "user "))
    (v := (["/", "/set", "/show", "/log", "/log/@0", "/show/user", "/show/user/@0"],
      [1, 5, 3], ["/set", "/show/user", "/log"], true)) (by decide +kernel)
  obtain ⟨hpaths, hval⟩ := Prod.mk.inj hval
  obtain ⟨hhistory, hval⟩ := Prod.mk.inj hval
  obtain ⟨hwalked, hoffered⟩ := Prod.mk.inj hval
  obtain ⟨hiff, halike⟩ := Builder.inlined_build terminal_inlinable
  obtain ⟨g', hg'⟩ := hiff.mp ⟨g, hg⟩
  obtain ⟨g'', hg'', hpaths'⟩ := terminal.inlined.exists_build
    (f := fun g => g.nodes.toList.map (·.path))
    (v := ["/", "/set", "/show", "/show/user", "/show/user/@0", "/log", "/log/@0"])
    (by decide +kernel)
  cases hg'.symm.trans hg''
  obtain ⟨hresembles, hmatched⟩ := halike g g' hg hg'
  have hblind := Builder.blind_of_build hg terminal_blind
  have hnumbered := terminal.numbered_of_build hg
  have hseek : g.check "set user log" none = g.seekPending (g.start (.read "set user log") none) :=
    Grammar.matchPending_eq_seekPending hnumbered (g.onLine_start _ none)
  rw [← hseek] at hhistory
  obtain ⟨hhistory', -⟩ := hmatched hblind "set user log" none
  obtain ⟨-, -, -, -, hcomplete, -⟩ := hmatched hblind "set " none
  refine ⟨terminal_inlinable, g, g', hg, hg', hblind, hpaths, hpaths', hresembles, hhistory, ?_, ?_⟩
  · rw [hhistory', hhistory, hwalked]
  · rw [hcomplete, Grammar.mem_complete_iff_every hnumbered]
    simpa only [List.any_eq_true, List.contains_iff_mem] using hoffered

end Sample

end CommandGrammar
