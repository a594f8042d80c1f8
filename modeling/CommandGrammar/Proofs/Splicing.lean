import CommandGrammar.Proofs.Grouping
import CommandGrammar.Proofs.Rearranging
import CommandGrammar.Proofs.Arena

/-! Declarations without groups. A group can be left out if its elements take its place and each
node in it that sets no value itself gets that of the innermost group that sets one. The same
entries are listed then, and the same grammar is built, but for the conditions of its nodes. -/

namespace CommandGrammar

variable {σ ε : Type}

/-! ### Leaving groups out -/

/-- The declaration with the values of the innermost groups that set them, where it sets none. -/
def NodeDecl.filled (decl : NodeDecl σ ε) (groups : List (GroupDecl σ)) : NodeDecl σ ε :=
  { decl with
    traversals := decl.traversals <|> innermost (·.traversals) groups
    group := decl.group <|> innermost (·.group) groups }

namespace Element

mutual

/-- The element, inside the groups, without these and without the groups in it. -/
def spliced (groups : List (GroupDecl σ)) : Element σ ε → List (Element σ ε)
  | .node decl elements => [.node (decl.filled groups) (splicedAll groups elements)]
  | .link decl => [.link decl]
  | .group grp elements => splicedAll (groups ++ [grp]) elements

def splicedAll (groups : List (GroupDecl σ)) : List (Element σ ε) → List (Element σ ε)
  | [] => []
  | e :: es => spliced groups e ++ splicedAll groups es

end

end Element

/-- The declaration without groups. -/
def Builder.spliced (b : Builder σ ε) : Builder σ ε where
  elements := Element.splicedAll [] b.elements
  merges := b.merges

/-! ### Entries without groups -/

/-- What is declared, without the groups around it. -/
def Item.spliced : Item σ ε → Item σ ε
  | .node decl inherited =>
    .node { decl with
      traversals := decl.traversals <|> inherited.traversals
      group := decl.group <|> inherited.group } ⟨none, none, []⟩
  | .link decl => .link decl

@[simp]
theorem Item.name?_spliced (item : Item σ ε) : item.spliced.name? = item.name? := by
  cases item <;> rfl

theorem Item.spliced_ofGroups (decl : NodeDecl σ ε) (groups : List (GroupDecl σ)) :
    (Item.node decl (.ofGroups groups)).spliced = .node (decl.filled groups) ⟨none, none, []⟩ := rfl

namespace Entry

/-- The entry without the groups around it. -/
def spliced (e : Entry σ ε) : Entry σ ε := { e with item := e.item.spliced }

variable (e : Entry σ ε)

@[simp] theorem parent_spliced : e.spliced.parent = e.parent := rfl

@[simp] theorem name_spliced : e.spliced.name = e.name := rfl

@[simp] theorem place_spliced : e.spliced.place = e.place := rfl

@[simp]
theorem isNode_spliced : e.spliced.isNode = e.isNode := by
  cases e with | mk parent name item => cases item <;> rfl

@[simp]
theorem isAction_spliced : e.spliced.isAction = e.isAction := by
  cases e with | mk parent name item => cases item <;> rfl

@[simp]
theorem label?_spliced : e.spliced.label? = e.label? := by
  cases e with | mk parent name item => cases item <;> rfl

theorem hasPattern_spliced : e.spliced.HasPattern ↔ e.HasPattern := by
  cases e with | mk parent name item => cases item <;> rfl

theorem spliced_eq_link {decl : AliasDecl} : e.spliced.item = .link decl ↔ e.item = .link decl := by
  cases e with | mk parent name item => cases item <;> simp [spliced, Item.spliced]

end Entry

namespace Listing

/-- The entries without groups. -/
def spliced (l : Listing σ ε) : Listing σ ε := l.map (·.spliced)

variable (l : Listing σ ε)

theorem map_spliced {α : Type} (f : Entry σ ε → α) (h : ∀ e, f (Entry.spliced e) = f e) :
    l.spliced.map f = l.map f := by
  rw [spliced, List.map_map]
  exact List.map_congr_left fun e _ => h e

theorem filter_spliced {test : Entry σ ε → Bool} (h : ∀ e, test (Entry.spliced e) = test e) :
    l.spliced.filter test = spliced (l.filter test) := by
  rw [spliced, List.filter_map]
  exact congrArg spliced (List.filter_congr fun e _ => h e)

@[simp]
theorem nodes_spliced : l.spliced.nodes = l.nodes.spliced := l.filter_spliced fun _ => by simp

@[simp]
theorem under_spliced (place : List String) : l.spliced.under place = (l.under place).spliced :=
  l.filter_spliced fun _ => rfl

@[simp]
theorem places_spliced : l.spliced.places = l.places := by
  rw [places, nodes_spliced, map_spliced _ _ fun _ => rfl, places]

@[simp]
theorem unnamed_spliced (place : List String) : l.spliced.unnamed place = l.unnamed place := by
  rw [unnamed, under_spliced, spliced, List.countP_map, unnamed]
  refine List.countP_congr fun e _ => ?_
  rw [Function.comp, Entry.spliced, Item.name?_spliced]

@[simp]
theorem labels_spliced : l.spliced.labels = l.labels := by
  rw [labels, spliced, List.filterMap_map, labels]
  refine List.filterMap_congr fun e _ => ?_
  rw [Function.comp, Entry.label?_spliced, Entry.place_spliced]

@[simp]
theorem chosenName_spliced (place : List String) (name : Option String) :
    l.spliced.chosenName place name = l.chosenName place name := by
  rw [chosenName, unnamed_spliced, chosenName]

theorem add_spliced (place : List String) (item : Item σ ε) :
    (l.add place item).spliced = l.spliced.add place item.spliced := by
  rw [add, add, chosenName_spliced, Item.name?_spliced, spliced, List.map_append]
  rfl

theorem addElements_append (place : List String) (inherited : Inherited σ)
    (es fs : List (Element σ ε)) :
    l.addElements place inherited (es ++ fs) =
      (l.addElements place inherited es).addElements place inherited fs := by
  induction es generalizing l with
  | nil => rw [List.nil_append, addElements]
  | cons e es ih => rw [List.cons_append, addElements, addElements, ih]

mutual

/-- Elements without groups list the same entries without groups. -/
theorem addElements_spliced (e : Element σ ε) (l : Listing σ ε) (place : List String)
    (groups : List (GroupDecl σ)) :
    l.spliced.addElements place ⟨none, none, []⟩ (e.spliced groups) =
      (l.addElement place (.ofGroups groups) e).spliced := by
  cases e with
  | node decl elements =>
    rw [Element.spliced, addElements, addElements, addElement, addElement, chosenName_spliced,
      ← Item.spliced_ofGroups, ← add_spliced, addElements_splicedAll elements]
    rfl
  | link decl =>
    rw [Element.spliced, addElements, addElements, addElement, addElement, add_spliced]
    rfl
  | group grp elements =>
    rw [Element.spliced, addElement, Inherited.inside_ofGroups, addElements_splicedAll elements]

theorem addElements_splicedAll (es : List (Element σ ε)) (l : Listing σ ε) (place : List String)
    (groups : List (GroupDecl σ)) :
    l.spliced.addElements place ⟨none, none, []⟩ (Element.splicedAll groups es) =
      (l.addElements place (.ofGroups groups) es).spliced := by
  cases es with
  | nil => rw [Element.splicedAll, addElements, addElements]
  | cons e es =>
    rw [Element.splicedAll, addElements_append, addElements_spliced e, addElements_splicedAll es,
      addElements]

end

/-! ### Where aliases lead -/

@[simp]
theorem denoted_spliced (place : List String) (target : String) :
    l.spliced.denoted place target = l.denoted place target := by
  have horigin : l.spliced.origin place target = l.origin place target := by
    rw [origin, labelled?, labels_spliced, origin, labelled?]
  rw [denoted, horigin, denoted]

theorem resolves_spliced (names : List String) : l.spliced.Resolves names ↔ l.Resolves names := by
  rw [Resolves, places_spliced, Resolves]

theorem targets_spliced (names : List String) : l.spliced.targets names = l.targets names := by
  have hfilter (m : Listing σ ε) (glob : Glob) :
      ((m.spliced.filter fun e => !e.isAction && glob.accepts e.name).map (·.place)) =
        (m.filter fun e => !e.isAction && glob.accepts e.name).map (·.place) := by
    rw [filter_spliced _ fun e => by rw [Entry.isAction_spliced, Entry.name_spliced],
      map_spliced _ _ Entry.place_spliced]
  unfold targets
  simp only [under_spliced, nodes_spliced, hfilter]

theorem leads_spliced (e : Entry σ ε) : l.spliced.leads e.spliced = l.leads e := by
  cases e with
  | mk parent name item =>
    cases item with
    | node decl inherited => rfl
    | link decl =>
      change l.spliced.targets (l.spliced.denoted (parent ++ [name]) decl.target) = _
      rw [denoted_spliced, targets_spliced]
      rfl

theorem flatMap_leads_spliced (place : List String) :
    (l.spliced.under place).flatMap l.spliced.leads = (l.under place).flatMap l.leads := by
  rw [under_spliced, spliced.eq_def (l.under place), List.flatMap_map]
  exact List.flatMap_congr fun e _ => l.leads_spliced e

/-- Nothing is wrong with entries without groups if nothing is with the same in groups. -/
theorem wellDeclared_spliced : l.spliced.WellDeclared ↔ l.WellDeclared := by
  have hall {P Q : Entry σ ε → Prop} (h : ∀ e, P (Entry.spliced e) ↔ Q e) :
      (∀ e ∈ l.spliced, P e) ↔ ∀ e ∈ l, Q e := by
    rw [spliced, List.forall_mem_map]
    exact forall₂_congr fun e _ => h e
  have hnames := hall (P := fun e => ∀ name ∈ e.item.name?, IsName name)
    (Q := fun e => ∀ name ∈ e.item.name?, IsName name) fun e => by
      rw [Entry.spliced, Item.name?_spliced]
  have hdistinct : l.spliced.Distinct ↔ l.Distinct := by
    rw [Distinct, map_spliced _ _ Entry.place_spliced, Distinct]
  have haliases := hall
    (P := fun e => ∀ decl, e.item = .link decl →
      l.spliced.Resolves (l.spliced.denoted e.place decl.target))
    (Q := fun e => ∀ decl, e.item = .link decl → l.Resolves (l.denoted e.place decl.target))
    fun e => forall_congr' fun decl => imp_congr e.spliced_eq_link (by
      rw [denoted_spliced, resolves_spliced, Entry.place_spliced])
  have hlabels : l.spliced.labels.map (·.1) = l.labels.map (·.1) := by rw [labels_spliced]
  have hpatterns := hall Entry.hasPattern_spliced
  exact ⟨fun h => ⟨hnames.mp h.names, hdistinct.mp h.distinct, hlabels ▸ h.labels,
      hpatterns.mp h.patterns, haliases.mp h.aliases⟩,
    fun h => ⟨hnames.mpr h.names, hdistinct.mpr h.distinct, hlabels ▸ h.labels,
      hpatterns.mpr h.patterns, haliases.mpr h.aliases⟩⟩

end Listing

/-! ### Grammars without conditions -/

/-- The node without its conditions. -/
def Node.unconditional (n : Node σ ε) : Node σ ε := { n with conditions := [] }

/-- The grammar without the conditions of its nodes. -/
def Grammar.unconditional (g : Grammar σ ε) : Grammar σ ε :=
  ⟨g.nodes.map (·.unconditional), g.labels⟩

theorem Draft.makeNode_spliced (decl : NodeDecl σ ε) (inherited : Inherited σ) (id parent : Nat)
    (name path : String) (pattern : Option Pattern) {decl' : NodeDecl σ ε}
    {inherited' : Inherited σ} (h : (Item.node decl inherited).spliced = .node decl' inherited') :
    (makeNode decl' inherited' id parent name path pattern).unconditional =
      (makeNode decl inherited id parent name path pattern).unconditional := by
  cases h
  have htraversals (own around kind : Option Nat) :
      ((own <|> around) <|> none <|> kind) = (own <|> around <|> kind) := by
    cases own <;> cases around <;> rfl
  have hgroup (own around : Option Nat) : ((own <|> around) <|> none) = (own <|> around) := by
    cases own <;> cases around <;> rfl
  simp only [Node.unconditional, makeNode, htraversals, hgroup]
  rfl

namespace Grammar.Shows

variable {g g' : Grammar σ ε} {l : Listing σ ε}

/-- Places have the same numbers in both lists. -/
theorem numbers_eq (h : g.Shows l) {ids ids' : List Nat} {places : List (List String)}
    (hids : l.Numbers ids places) (hids' : l.spliced.Numbers ids' places) : ids' = ids := by
  rw [Listing.Numbers, Listing.places_spliced] at hids'
  exact h.clean.numbers_inj hids' hids

theorem labels_eq (h : g.Shows l) (h' : g'.Shows l.spliced) : g'.labels = g.labels := by
  have hlabels := h'.labels
  rw [Listing.labels_spliced, Listing.places_spliced, ← h.labels] at hlabels
  refine eq_of_map_eq hlabels fun a _ b hb heq => ?_
  obtain ⟨hlabel, hplaces⟩ := Prod.mk.inj heq
  obtain ⟨place, hplace⟩ := h.outline.exists_of_mem_labels hb
  exact Prod.ext hlabel (h.clean.number_inj (hplaces.trans hplace) hplace)

theorem unconditional_node_eq (h : g.Shows l) (h' : g'.Shows l.spliced) {i : Nat}
    {n n' : Node σ ε} (hn : g.node? i = some n) (hn' : g'.node? i = some n') :
    n'.unconditional = n.unconditional := by
  obtain ⟨place, hi⟩ := h.exists_place hn
  have hi' : l.spliced.places[i]? = some place := by rw [Listing.places_spliced, hi]
  have hchildren : n'.children = n.children := by
    refine h.numbers_eq (h.children hn hi) ?_
    have hnumbers := h'.children hn' hi'
    rwa [Listing.under_spliced, Listing.nodes_spliced,
      Listing.map_spliced _ _ Entry.place_spliced] at hnumbers
  have hedges : n'.edges = n.edges := by
    refine h.numbers_eq (h.edges hn hi) ?_
    have hnumbers := h'.edges hn' hi'
    rwa [Listing.flatMap_leads_spliced] at hnumbers
  cases h.made hn with
  | root =>
    cases h'.made hn'
    cases hchildren
    cases hedges
    rfl
  | @node children edges k parent e decl inherited pattern entry item _ parent_place compiled =>
    cases h'.made hn' with
    | @node _ _ _ _ _ decl' inherited' pattern' entry' item' _ parent_place' compiled' =>
      cases hchildren
      cases hedges
      rw [Listing.nodes_spliced, Listing.spliced, List.getElem?_map, entry] at entry'
      obtain rfl := Option.some.inj entry'
      rw [Listing.places_spliced, Entry.parent_spliced] at parent_place'
      obtain rfl := h.clean.number_inj parent_place parent_place'
      have hitem : (Item.node decl inherited).spliced = .node decl' inherited' :=
        item ▸ item'
      obtain rfl : pattern' = pattern := by
        cases hitem
        exact Except.ok.inj (compiled'.symm.trans compiled)
      exact congrArg (fun n : Node σ ε => { n with children, edges })
        (Draft.makeNode_spliced decl inherited (k + 1) parent e.name (Place.path e.place) _ hitem)

end Grammar.Shows

namespace Builder

variable {b : Builder σ ε}

theorem listing_spliced (h : b.merges = []) : b.spliced.listing = b.listing.spliced := by
  have hspliced := Listing.addElements_splicedAll b.elements [] [] []
  rw [listing_of_merges h, listing_of_merges (b := b.spliced) h]
  exact hspliced

theorem wellDeclared_spliced (h : b.merges = []) : b.spliced.WellDeclared ↔ b.WellDeclared := by
  rw [wellDeclared_iff, wellDeclared_iff, listing_spliced h, Listing.wellDeclared_spliced,
    searches_of_merges h, searches_of_merges (b := b.spliced) h]

/-- A grammar is built of a declaration exactly if one is built of it without groups. The two differ
in the conditions of their nodes only. A node of the first has the traversals and the help group
that it sets itself, or else those of the innermost group that sets them, or else those of its kind,
and the conditions of all groups around it in front of its own. -/
theorem spliced_build (h : b.merges = []) :
    ((∃ g, b.build = .ok g) ↔ ∃ g', b.spliced.build = .ok g') ∧
      ∀ g, b.build = .ok g →
        (∀ g', b.spliced.build = .ok g' → g'.unconditional = g.unconditional) ∧
        (∃ n, g.node? 0 = some n ∧ n.traversals = 1 ∧ n.group = 0 ∧ n.conditions = []) ∧
        g.nodes.size = b.declared.length + 1 ∧
        ∀ k d, b.declared[k]? = some d → ∃ n, g.node? (k + 1) = some n ∧ n.DeclaredBy d := by
  refine ⟨?_, fun g hg => ⟨fun g' hg' => ?_, ?_, ?_⟩⟩
  · rw [exists_build_iff, exists_build_iff, wellDeclared_spliced h]
  · have hshows := b.shows_of_build hg
    have hshows' : g'.Shows b.listing.spliced := listing_spliced h ▸ b.spliced.shows_of_build hg'
    have hsize : g'.nodes.size = g.nodes.size := by
      rw [hshows.size, hshows'.size, Listing.places_spliced]
    rw [Grammar.unconditional, Grammar.unconditional, hshows.labels_eq hshows']
    congr 1
    refine Array.ext (by rw [Array.size_map, Array.size_map, hsize]) fun i hi hi' => ?_
    rw [Array.size_map] at hi hi'
    rw [Array.getElem_map, Array.getElem_map]
    exact hshows.unconditional_node_eq hshows' (Array.getElem?_eq_getElem hi')
      (Array.getElem?_eq_getElem hi)
  · have hshows := b.shows_of_build hg
    obtain ⟨n, hn⟩ := hshows.exists_node Listing.root_place
    refine ⟨n, hn, ?_⟩
    cases hshows.made hn
    exact ⟨rfl, rfl, rfl⟩
  · obtain ⟨hsize, hdeclared⟩ := declaredBy_of_build hg
    refine ⟨hsize, fun k d hd => ?_⟩
    have hlt : k + 1 < g.nodes.size := by
      have := (List.getElem?_eq_some_iff.mp hd).1
      omega
    exact ⟨_, Array.getElem?_eq_getElem hlt, hdeclared k d _ hd (Array.getElem?_eq_getElem hlt)⟩

end Builder

namespace Sample

/-- One group in another, and an action behind them. -/
def nested : Builder Unit String where
  elements := [
    .group { traversals := some 3, group := some 1, condition := some fun c => c.action.isNone } [
      .group { traversals := some 0 } [
        .node { body := .literal, name := some "inner" } [
          .node { body := .literal, name := some "deeper" } []]],
      .node { body := .literal, name := some "outer", traversals := some 5 } []],
    .node { body := .action fun _ => ⟨[], .ok ()⟩, name := none } []]
  merges := []

theorem spliced_build_nested : nested.merges = [] ∧ ∃ g g', nested.build = .ok g ∧
    nested.spliced.build = .ok g' ∧ g'.unconditional = g.unconditional ∧
    g.nodes.toList.map (fun n => (n.path, n.traversals, n.group, n.conditions.length)) =
      [("/", 1, 0, 0), ("/inner", 0, 1, 1), ("/inner/deeper", 0, 1, 1), ("/outer", 5, 1, 1),
        ("/@0", 1, 9999, 0)] ∧
    ∃ n, g.node? 2 = some n ∧
      n.DeclaredBy ⟨{ body := .literal, name := some "deeper" },
        [{ traversals := some 3, group := some 1, condition := some fun c => c.action.isNone },
          { traversals := some 0 }]⟩ := by
  obtain ⟨g, hg, hnodes⟩ := nested.exists_build
    (f := fun g => g.nodes.toList.map fun n => (n.path, n.traversals, n.group, n.conditions.length))
    (v := [("/", 1, 0, 0), ("/inner", 0, 1, 1), ("/inner/deeper", 0, 1, 1), ("/outer", 5, 1, 1),
      ("/@0", 1, 9999, 0)]) (by decide +kernel)
  obtain ⟨hiff, hsame⟩ := Builder.spliced_build (b := nested) rfl
  obtain ⟨g', hg'⟩ := hiff.mp ⟨g, hg⟩
  obtain ⟨hunconditional, -, -, hdeclared⟩ := hsame g hg
  exact ⟨rfl, g, g', hg, hg', hunconditional g' hg', hnodes, hdeclared 1 _ rfl⟩

end Sample

end CommandGrammar
