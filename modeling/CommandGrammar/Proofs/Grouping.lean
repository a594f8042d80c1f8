import CommandGrammar.Proofs.Declared

/-! The groups around a node. A group is no place of its own: what is declared in it belongs to the
node around the group. It gives attributes to all nodes inside, at any depth, so a node is made of
its own declaration and of all groups around it, those around the nodes above it included. -/

namespace CommandGrammar

variable {σ ε : Type}

/-! ### What groups give -/

/-- The value of the innermost group that sets one, among groups given from the outermost in. -/
def innermost {α : Type} (value : GroupDecl σ → Option α) (groups : List (GroupDecl σ)) :
    Option α :=
  groups.reverse.findSome? value

theorem innermost_concat {α : Type} (value : GroupDecl σ → Option α)
    (groups : List (GroupDecl σ)) (grp : GroupDecl σ) :
    innermost value (groups ++ [grp]) = (value grp <|> innermost value groups) := by
  rw [innermost, innermost, List.reverse_append, List.reverse_singleton, List.singleton_append,
    List.findSome?_cons]
  cases value grp <;> rfl

/-- What the groups around an element give to it. -/
def Inherited.ofGroups (groups : List (GroupDecl σ)) : Inherited σ :=
  ⟨innermost (·.traversals) groups, innermost (·.group) groups, groups.filterMap (·.condition)⟩

theorem Inherited.inside_ofGroups (groups : List (GroupDecl σ)) (grp : GroupDecl σ) :
    (ofGroups groups).inside grp = ofGroups (groups ++ [grp]) := by
  have hconditions : (groups ++ [grp]).filterMap (·.condition) =
      groups.filterMap (·.condition) ++ grp.condition.toList := by
    rw [List.filterMap_append, List.filterMap_cons]
    cases grp.condition <;> rfl
  rw [ofGroups, ofGroups, innermost_concat, innermost_concat, hconditions]
  rfl

/-! ### Nodes as they are declared -/

/-- The declaration of a node, and the groups around it from the outermost in. -/
structure Declaration (σ ε : Type) where
  decl : NodeDecl σ ε
  groups : List (GroupDecl σ)

/-- What is listed for a declaration. -/
def Declaration.item (d : Declaration σ ε) : Item σ ε := .node d.decl (.ofGroups d.groups)

namespace Element

mutual

/-- The nodes declared in an element inside the groups, in order. -/
def declared (groups : List (GroupDecl σ)) : Element σ ε → List (Declaration σ ε)
  | .node decl elements => ⟨decl, groups⟩ :: declaredAll groups elements
  | .link _ => []
  | .group grp elements => declaredAll (groups ++ [grp]) elements

def declaredAll (groups : List (GroupDecl σ)) : List (Element σ ε) → List (Declaration σ ε)
  | [] => []
  | e :: es => declared groups e ++ declaredAll groups es

end

end Element

namespace Merge

mutual

/-- The nodes declared in a merge, in order. No group is around the elements that are added. -/
def declared : Merge σ ε → List (Declaration σ ε)
  | .into _ elements merges => Element.declaredAll [] elements ++ declaredAll merges

def declaredAll : List (Merge σ ε) → List (Declaration σ ε)
  | [] => []
  | m :: ms => declared m ++ declaredAll ms

end

end Merge

/-- The nodes declared for a grammar, in order. -/
def Builder.declared (b : Builder σ ε) : List (Declaration σ ε) :=
  Element.declaredAll [] b.elements ++ Merge.declaredAll b.merges

namespace Listing

/-- The nodes that are listed were declared so, one by one. -/
def Declares (l : Listing σ ε) (ds : List (Declaration σ ε)) : Prop :=
  l.nodes.map (·.item) = ds.map (·.item)

variable {l : Listing σ ε} {ds : List (Declaration σ ε)}

theorem Declares.map_item (h : l.Declares ds) (k : Nat) :
    (l.nodes[k]?).map (·.item) = (ds[k]?).map (·.item) := by
  rw [← List.getElem?_map, ← List.getElem?_map, h]

theorem Declares.exists_entry (h : l.Declares ds) {k : Nat} {d : Declaration σ ε}
    (hd : ds[k]? = some d) : ∃ e, l.nodes[k]? = some e ∧ e.item = d.item := by
  have hitem := h.map_item k
  rw [hd, Option.map_some] at hitem
  exact Option.map_eq_some_iff.mp hitem

theorem Declares.exists_declaration (h : l.Declares ds) {k : Nat} {e : Entry σ ε}
    (he : l.nodes[k]? = some e) : ∃ d, ds[k]? = some d ∧ d.item = e.item := by
  have hitem := (h.map_item k).symm
  rw [he, Option.map_some] at hitem
  exact Option.map_eq_some_iff.mp hitem

theorem Declares.add (h : l.Declares ds) (place : List String) (decl : NodeDecl σ ε)
    (groups : List (GroupDecl σ)) :
    (l.add place (.node decl (.ofGroups groups))).Declares (ds ++ [⟨decl, groups⟩]) := by
  rw [Declares, Listing.add, nodes_append, List.map_append, h, List.map_append]
  rfl

theorem Declares.addLink (h : l.Declares ds) (place : List String) (decl : AliasDecl) :
    (l.add place (.link decl)).Declares ds := by
  rw [Declares, Listing.add, nodes_append, List.map_append, h]
  exact List.append_nil _

mutual

theorem Declares.addElement (e : Element σ ε) {l : Listing σ ε} {ds : List (Declaration σ ε)}
    (h : l.Declares ds) (place : List String) (groups : List (GroupDecl σ)) :
    (addElement place (.ofGroups groups) l e).Declares (ds ++ e.declared groups) := by
  cases e with
  | node decl elements =>
    have hadd := Declares.addElements elements (h.add place decl groups)
      (place ++ [l.chosenName place decl.name]) groups
    rw [List.append_assoc, List.singleton_append] at hadd
    rw [Listing.addElement, Element.declared]
    exact hadd
  | link decl =>
    rw [Listing.addElement, Element.declared, List.append_nil]
    exact h.addLink place decl
  | group grp elements =>
    rw [Listing.addElement, Element.declared, Inherited.inside_ofGroups]
    exact Declares.addElements elements h place _

theorem Declares.addElements (es : List (Element σ ε)) {l : Listing σ ε}
    {ds : List (Declaration σ ε)} (h : l.Declares ds) (place : List String)
    (groups : List (GroupDecl σ)) :
    (addElements place (.ofGroups groups) l es).Declares (ds ++ Element.declaredAll groups es) := by
  cases es with
  | nil =>
    rw [Listing.addElements, Element.declaredAll, List.append_nil]
    exact h
  | cons e es =>
    rw [Listing.addElements, Element.declaredAll, ← List.append_assoc]
    exact Declares.addElements es (Declares.addElement e h place groups) place groups

end

mutual

theorem Declares.addMerge (m : Merge σ ε) {l : Listing σ ε} {ds : List (Declaration σ ε)}
    (h : l.Declares ds) {base : List String} (hfound : ∀ s ∈ searches base l m, s.Succeeds) :
    (addMerge base l m).Declares (ds ++ m.declared) := by
  cases m with
  | into target elements merges =>
    rw [searches, List.forall_mem_cons] at hfound
    obtain ⟨place, hplace⟩ := Option.isSome_iff_exists.mp hfound.1
    rw [Listing.addMerge, Merge.declared, ← List.append_assoc, hplace]
    rw [hplace] at hfound
    exact Declares.addMerges merges (Declares.addElements elements h place []) hfound.2

theorem Declares.addMerges (ms : List (Merge σ ε)) {l : Listing σ ε}
    {ds : List (Declaration σ ε)} (h : l.Declares ds) {base : List String}
    (hfound : ∀ s ∈ searchesAll base l ms, s.Succeeds) :
    (addMerges base l ms).Declares (ds ++ Merge.declaredAll ms) := by
  cases ms with
  | nil =>
    rw [Listing.addMerges, Merge.declaredAll, List.append_nil]
    exact h
  | cons m ms =>
    rw [searchesAll, List.forall_mem_append] at hfound
    rw [Listing.addMerges, Merge.declaredAll, ← List.append_assoc]
    exact Declares.addMerges ms (Declares.addMerge m h hfound.1) hfound.2

end

end Listing

/-- The nodes that a declaration lists are those declared for the grammar. -/
theorem Builder.declares_listing {b : Builder σ ε} (h : ∀ s ∈ b.searches, s.Succeeds) :
    b.listing.Declares b.declared := by
  have hnil : Listing.Declares ([] : Listing σ ε) [] := rfl
  exact Listing.Declares.addMerges b.merges (hnil.addElements b.elements [] []) h

/-! ### Nodes as they are made -/

/-- The node is that of the declaration: it has the traversals and the help group that the
declaration sets, or else those of the innermost group that sets them, or else those of its kind,
and the conditions of all groups around it in front of its own. -/
structure Node.DeclaredBy (n : Node σ ε) (d : Declaration σ ε) : Prop where
  body : n.body = d.decl.body
  label : n.label = d.decl.label
  help : n.help = d.decl.help
  traversals : n.traversals = (d.decl.traversals <|> innermost (·.traversals) d.groups <|>
    Draft.kindTraversals d.decl).getD 1
  group : n.group = (d.decl.group <|> innermost (·.group) d.groups).getD
    (if n.isAction then actionGroup else 0)
  conditions : n.conditions = d.groups.filterMap (·.condition) ++ d.decl.condition.toList

theorem Listing.Makes.declaredBy {l : Listing σ ε} {ds : List (Declaration σ ε)}
    (h : l.Declares ds) {k : Nat} {n : Node σ ε} (hn : l.Makes (k + 1) n) {d : Declaration σ ε}
    (hd : ds[k]? = some d) : n.DeclaredBy d := by
  cases hn with
  | node _ _ entry item =>
    -- the entry that the node is made of is that of the declaration
    have hitem := h.map_item k
    rw [entry, hd, Option.map_some, Option.map_some, item, Option.some_inj] at hitem
    cases hitem
    exact ⟨rfl, rfl, rfl, rfl, rfl, rfl⟩

/-- The nodes of a grammar behind the root are the declared ones, in order. -/
theorem Builder.declaredBy_of_build {b : Builder σ ε} {g : Grammar σ ε} (h : b.build = .ok g) :
    g.nodes.size = b.declared.length + 1 ∧
      ∀ k d n, b.declared[k]? = some d → g.node? (k + 1) = some n → n.DeclaredBy d := by
  have hg := b.shows_of_build h
  have hdeclares := b.declares_listing (wellDeclared_of_build h).merges
  refine ⟨?_, fun k d n hd hn => (hg.made hn).declaredBy hdeclares hd⟩
  have hlength := congrArg List.length hdeclares
  rw [List.length_map, List.length_map] at hlength
  rw [hg.size, Listing.places, List.length_cons, List.length_map, hlength]

end CommandGrammar
