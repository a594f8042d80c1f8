import CommandGrammar.Proofs.Members
import CommandGrammar.Proofs.Target

/-! The order of edges. The edges of a node are what its members stand for, one member behind the
other: a node that is declared in it stands for itself, and an alias for the nodes that its target
resolves to in the finished grammar. The children are those that are declared, in the same order. -/

namespace CommandGrammar

variable {σ ε : Type}

/-- Whether the element declares a node. -/
def Element.isNode : Element σ ε → Bool
  | .node _ _ => true
  | .link _ => false
  | .group _ _ => false

/-- A member of a node with its name, and the nodes that it stands for among the edges. -/
structure Share (σ ε : Type) where
  name : String
  member : Element σ ε
  nodes : List Nat

/-- A target that resolves is a node, or its last name is a pattern and the names in front of it
are a node, of which those children are taken whose names the pattern accepts. -/
theorem PendingAlias.resolve_ok {o : Outline} {isAction : Nat → Bool} {a : PendingAlias}
    {ids : List Nat} (h : a.resolve o isAction = .ok ids) :
    ((∀ last ∈ (normalize (a.absolute o)).getLast?, isGlob last = false) ∧
      ∃ t, o.walk? 0 (normalize (a.absolute o)) = some t ∧ ids = [t]) ∨
    ∃ front last glob s, normalize (a.absolute o) = front ++ [last] ∧ isGlob last = true ∧
      Glob.read last = .ok glob ∧ (o.walk? 0 front).bind o.site? = some s ∧
      ids = s.children.filter fun id =>
        !isAction id && (o.site? id).any fun site => glob.accepts site.name := by
  rw [resolve] at h
  generalize normalize (a.absolute o) = names at h ⊢
  cases hlast : names.getLast? with
  | none =>
    obtain rfl := List.getLast?_eq_none_iff.mp hlast
    cases h
    exact .inl ⟨nofun, 0, rfl, rfl⟩
  | some last =>
    obtain ⟨front, rfl⟩ := List.getLast?_eq_some_iff.mp hlast
    simp only [hlast, List.dropLast_concat] at h
    split at h
    · next hglob =>
      split at h
      · cases h
      · next glob hread =>
        split at h
        · cases h
        · next s hs =>
          cases h
          exact .inr ⟨front, last, glob, s, rfl, hglob, hread, hs, rfl⟩
    · next hglob =>
      split at h
      · next t hwalk =>
        cases h
        refine .inl ⟨fun other hother => ?_, t, hwalk, rfl⟩
        rw [← Option.some.inj hother]
        exact Bool.eq_false_iff.mpr hglob
      · cases h

namespace Grammar

/-- Whether a node is an action. -/
def isAction (g : Grammar σ ε) (id : Nat) : Bool := (g.node? id).any (·.isAction)

/-- The names from the root that the target of an alias in a node denotes. -/
def targetNames (g : Grammar σ ε) (n : Node σ ε) (name target : String) : List String :=
  PendingAlias.normalize (PendingAlias.absolute g.outline ⟨Draft.childPath n.path name, target⟩)

/-- The member of the node stands for these nodes. A node that is declared stands for itself. An
alias stands for the node that its target leads to or, if the last name there is a pattern, for the
children of the node in front that are no actions and have such names, in the order of children. -/
inductive Assigns (g : Grammar σ ε) (a : Assembly σ ε) (n : Node σ ε) : Share σ ε → Prop
  | child {k : Nat} {decl : NodeDecl σ ε} {elements : List (Element σ ε)} {m : Node σ ε}
      (declared : a.nodes[k]? = some (decl, elements)) (node : g.node? (k + 1) = some m)
      (parent : m.parent = some n.id) (body : m.body = decl.body) :
      Assigns g a n ⟨m.name, .node decl elements, [k + 1]⟩
  | target {name : String} {decl : AliasDecl} {t : Nat}
      (plain : ∀ last ∈ (g.targetNames n name decl.target).getLast?,
        PendingAlias.isGlob last = false)
      (found : g.outline.walk? 0 (g.targetNames n name decl.target) = some t) :
      Assigns g a n ⟨name, .link decl, [t]⟩
  | pattern {name last : String} {decl : AliasDecl} {front : List String} {glob : Glob} {p : Nat}
      {m : Node σ ε} (names : g.targetNames n name decl.target = front ++ [last])
      (isGlob : PendingAlias.isGlob last = true) (read : Glob.read last = .ok glob)
      (found : g.outline.walk? 0 front = some p) (node : g.node? p = some m) :
      Assigns g a n ⟨name, .link decl, m.children.filter fun id =>
        (g.node? id).any fun c => !c.isAction && glob.accepts c.name⟩

variable {g : Grammar σ ε} {a : Assembly σ ε} {n : Node σ ε}

/-! ### Aliases -/

/-- The children of a node of the outline whose names a pattern accepts are told by the grammar. -/
theorem accepted_children (ids : List Nat) (glob : Glob) :
    (ids.filter fun id => !g.isAction id &&
      (g.outline.site? id).any fun site => glob.accepts site.name) =
    ids.filter fun id => (g.node? id).any fun c => !c.isAction && glob.accepts c.name := by
  congr 1
  funext id
  rw [isAction, Outline.site?, outline, Array.getElem?_map, node?]
  cases g.nodes[id]? <;> rfl

/-- An alias stands for what its target resolves to. -/
theorem assigns_of_resolve {name : String} {decl : AliasDecl} {ids : List Nat}
    (h : (⟨Draft.childPath n.path name, decl.target⟩ : PendingAlias).resolve g.outline g.isAction =
      .ok ids) : g.Assigns a n ⟨name, .link decl, ids⟩ := by
  rcases PendingAlias.resolve_ok h with ⟨hplain, t, hwalk, rfl⟩ |
    ⟨front, last, glob, s, hnames, hglob, hread, hsite, rfl⟩
  · exact .target hplain hwalk
  · obtain ⟨p, hwalk, hs⟩ := Option.bind_eq_some_iff.mp hsite
    rw [Outline.site?, outline, Array.getElem?_map, Option.map_eq_some_iff] at hs
    obtain ⟨m, hm, rfl⟩ := hs
    rw [accepted_children]
    exact .pattern hnames hglob hread hwalk hm

namespace Shows

variable {l : Listing σ ε}

theorem isAction_eq (h : g.Shows l) {i : Nat} {place : List String}
    (hi : l.places[i]? = some place) : g.isAction i = l.isAction place := by
  obtain ⟨n, hn⟩ := h.exists_node hi
  rw [isAction, hn, Option.any_some, (h.made hn).isAction_eq h.clean hi]

/-- In the finished grammar an alias resolves to the nodes that its entry stands for. -/
theorem resolve_eq (h : g.Shows l) {e : Entry σ ε} (he : e ∈ l) {decl : AliasDecl}
    (item : e.item = .link decl) (hres : l.Resolves (l.denoted e.place decl.target)) :
    (⟨Place.path e.place, decl.target⟩ : PendingAlias).resolve g.outline g.isAction =
      .ok (g.entered l e) := by
  have hends : PendingAlias.Resolved l e.place decl.target
      ((⟨Place.path e.place, decl.target⟩ : PendingAlias).resolve g.outline g.isAction) :=
    PendingAlias.resolved h.outline h.isAction_eq (h.clean.names e he)
  generalize (⟨Place.path e.place, decl.target⟩ : PendingAlias).resolve g.outline g.isAction = r
    at hends ⊢
  cases hends with
  | ok resolves numbers =>
    rw [h.outline.eq_filterMap_walk? numbers, entered, Listing.leads, item]
  | missing fails => exact absurd hres fails
  | unreadable last_eq isGlob unreadable =>
    obtain ⟨⟨glob, hread⟩, -⟩ := (Listing.resolves_iff_of_isGlob last_eq isGlob).mp hres
    cases unreadable.symm.trans hread

/-! ### Members -/

variable {ds : List (NodeDecl σ ε × List (Element σ ε))}

/-- A member stands for the nodes that follow through its entry. -/
theorem assigns (h : g.Shows l) {i : Nat} (hn : g.node? i = some n) {e : Entry σ ε}
    (hmem : e ∈ l) (hi : l.places[i]? = some e.parent)
    (hres : ∀ decl, e.item = .link decl → l.Resolves (l.denoted e.place decl.target))
    {x : String × Element σ ε} (hlists : l.Lists a.nodes e x) :
    g.Assigns a n ⟨x.1, x.2, g.entered l e⟩ ∧ e.isNode = x.2.isNode := by
  cases hlists with
  | @node k _ decl inherited elements entry item declared =>
    have hk : l.places[k + 1]? = some e.place := by
      rw [Listing.getElem?_places_succ, entry, Option.map_some]
    have hentered : g.entered l e = [k + 1] := by
      rw [entered, Listing.leads, item]
      exact List.filterMap_cons_some (h.outline.walk?_root.mpr hk)
    obtain ⟨m, hm⟩ := h.exists_node hk
    refine ⟨?_, by rw [Entry.isNode, item]; rfl⟩
    rw [hentered]
    cases h.made hm with
    | @node children edges _ parent f decl' inherited' pattern entry' item' _ parent_place _ =>
      obtain rfl : e = f := Option.some.inj (entry.symm.trans entry')
      cases item.symm.trans item'
      have hparent : parent = n.id := by
        rw [(h.made hn).id_eq]
        exact h.clean.number_inj parent_place hi
      exact .child declared hm (congrArg some hparent) rfl
  | @link _ decl item =>
    have hplace : Draft.childPath n.path e.name = Place.path e.place := by
      rw [((h.made hn).name_path hi).2,
        Place.childPath_path (h.clean.isName (List.mem_of_getElem? hi))]
      rfl
    have hresolve := h.resolve_eq hmem item (hres decl item)
    rw [← hplace] at hresolve
    exact ⟨assigns_of_resolve hresolve, by rw [Entry.isNode, item]; rfl⟩

/-- The children of a node are the nodes that its entries declare. -/
theorem children_eq (h : g.Shows l) {i : Nat} {place : List String} (hn : g.node? i = some n)
    (hi : l.places[i]? = some place) :
    n.children = (l.under place).nodes.flatMap (g.entered l) := by
  have hentered : ∀ e ∈ (l.under place).nodes,
      (g.outline.walk? 0 e.place).toList = g.entered l e := by
    intro e he
    obtain ⟨decl, inherited, item⟩ := Entry.item_of_isNode (Listing.mem_nodes.mp he).2
    rw [entered, Listing.leads, item, List.filterMap_cons]
    cases g.outline.walk? 0 e.place <;> rfl
  rw [h.outline.eq_filterMap_walk? (h.children hn hi), List.filterMap_map,
    ← List.flatMap_congr hentered, List.filterMap_eq_flatMap_toList]
  rfl

end Shows

/-- The shares of members, one behind the other, are what follows through their entries. -/
theorem exists_shares {l entries : Listing σ ε} {row : List (String × Element σ ε)}
    (h : List.Forall₂ (l.Lists a.nodes) entries row)
    (hassigns : ∀ e ∈ entries, ∀ x, l.Lists a.nodes e x →
      g.Assigns a n ⟨x.1, x.2, g.entered l e⟩ ∧ e.isNode = x.2.isNode) :
    ∃ shares : List (Share σ ε), (shares.map fun s => (s.name, s.member)) = row ∧
      (∀ s ∈ shares, g.Assigns a n s) ∧
      entries.flatMap (g.entered l) = shares.flatMap (·.nodes) ∧
      entries.nodes.flatMap (g.entered l) =
        (shares.filter (·.member.isNode)).flatMap (·.nodes) := by
  induction h with
  | nil => exact ⟨[], rfl, List.forall_mem_nil _, rfl, rfl⟩
  | @cons e x entries row hlists _ ih =>
    obtain ⟨hfirst, hrest⟩ := List.forall_mem_cons.mp hassigns
    obtain ⟨hassign, hnode⟩ := hfirst x hlists
    obtain ⟨shares, hrow, hall, hedges, hchildren⟩ := ih hrest
    refine ⟨⟨x.1, x.2, g.entered l e⟩ :: shares, ?_, List.forall_mem_cons.mpr ⟨hassign, hall⟩,
      ?_, ?_⟩
    · rw [List.map_cons, hrow]
    · rw [List.flatMap_cons, List.flatMap_cons, hedges]
    · rw [Listing.nodes] at hchildren ⊢
      rw [List.filter_cons, List.filter_cons, hnode]
      split
      · rw [List.flatMap_cons, List.flatMap_cons, hchildren]
      · exact hchildren

end Grammar

/-- In a grammar that is built, the edges of a node are what the members of the node stand for, in
the order in which they are declared, and its children are the members that are nodes. -/
theorem Builder.edges_of_build {b : Builder σ ε} {g : Grammar σ ε} (h : b.build = .ok g) {i : Nat}
    {n : Node σ ε} (hn : g.node? i = some n) :
    ∃ shares : List (Share σ ε),
      (shares.map fun s => (s.name, s.member)) = Element.named 0 (b.assembly.members i) ∧
      (∀ s ∈ shares, g.Assigns b.assembly n s) ∧
      n.edges = shares.flatMap (·.nodes) ∧
      n.children = (shares.filter (·.member.isNode)).flatMap (·.nodes) := by
  have hg := b.shows_of_build h
  have hassembles := assembles_of_build h
  have hwell := wellDeclared_of_build h
  obtain ⟨place, hi⟩ := hg.exists_place hn
  have hlt : i < b.assembly.blocks.length :=
    hassembles.length_blocks ▸ (List.getElem?_eq_some_iff.mp hi).1
  have hrow := hassembles.records.row hi (Assembly.getElem?_rows hlt)
  obtain ⟨shares, hshares, hall, hedges, hchildren⟩ := Grammar.exists_shares hrow
    fun e he x hlists => by
      obtain ⟨hmem, rfl⟩ := Listing.mem_under.mp he
      exact hg.assigns hn hmem hi (hwell.aliases e hmem) hlists
  exact ⟨shares, hshares, hall, (hg.edges_eq hn hi).trans hedges,
    (hg.children_eq hn hi).trans hchildren⟩

namespace Sample

/-- A place on a map, with what is there. -/
def spot (name : String) (elements : List (Element Unit String)) : Element Unit String :=
  .node { body := .literal, name := some name } elements

/-- Places, one of them in a group beside an alias. A pattern leads from the last of them back to
all of them, and a merge adds another place behind it, which a merge in the first one goes on from.
-/
def crossing : Builder Unit String where
  elements := [
    spot "mill" [],
    .group { traversals := some 2 } [spot "mall" [], .link { target := "../mill" }],
    spot "gate" [
      .link { target := "../../m*l" },
      .node { body := .action fun _ => ⟨[], .ok ()⟩, name := none } []]]
  merges := [
    .into "gate" [spot "yard" []] [.into "yard" [.link { target := "/gate" }] []],
    .into "/gate" [.link { target := "../.." }] []]

theorem edges_of_build_crossing : ∃ g n, crossing.build = .ok g ∧ g.node? 3 = some n ∧
    g.nodes.toList.map (·.path) =
      ["/", "/mill", "/mall", "/gate", "/gate/@1", "/gate/yard"] ∧
    g.nodes.toList.map (·.edges) = [[1, 2, 1, 3], [], [], [1, 2, 4, 5, 0], [], [3]] ∧
    n.edges = [1, 2, 4, 5, 0] ∧ n.children = [4, 5] ∧
    ((Element.named 0 (crossing.assembly.members 3)).map fun x => (x.1, x.2.isNode)) =
      [("@0", false), ("@1", true), ("yard", true), ("@2", false)] ∧
    ∃ shares : List (Share Unit String),
      (shares.map fun s => (s.name, s.member)) = Element.named 0 (crossing.assembly.members 3) ∧
      (∀ s ∈ shares, g.Assigns crossing.assembly n s) ∧
      n.edges = shares.flatMap (·.nodes) ∧
      n.children = (shares.filter (·.member.isNode)).flatMap (·.nodes) := by
  obtain ⟨g, hg, hval⟩ := crossing.exists_build
    (f := fun g => (g.nodes.toList.map (·.path), g.nodes.toList.map (·.edges),
      (g.node? 3).map fun n => (n.edges, n.children)))
    (v := (["/", "/mill", "/mall", "/gate", "/gate/@1", "/gate/yard"],
      [[1, 2, 1, 3], [], [], [1, 2, 4, 5, 0], [], [3]], some ([1, 2, 4, 5, 0], [4, 5])))
    (by decide +kernel)
  obtain ⟨hpaths, hval⟩ := Prod.mk.inj hval
  obtain ⟨hedges, hval⟩ := Prod.mk.inj hval
  obtain ⟨n, hn, hval⟩ := Option.map_eq_some_iff.mp hval
  obtain ⟨hgate, hchildren⟩ := Prod.mk.inj hval
  exact ⟨g, n, hg, hn, hpaths, hedges, hgate, hchildren, by decide +kernel,
    Builder.edges_of_build hg hn⟩

end Sample

end CommandGrammar
