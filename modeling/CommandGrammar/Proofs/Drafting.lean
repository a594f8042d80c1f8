import CommandGrammar.Proofs.Building
import CommandGrammar.Proofs.Showing
import Mathlib.Data.List.Forall2

/-! What a draft shows of a listing. While elements and merges are added to a draft, the same
entries are added to the list, and the draft has a node for each entry that is a node, a slot in
the node around it for each entry, and an alias for each other one. When an addition fails, the
error tells what is wrong with the list. -/

namespace CommandGrammar

variable {σ ε : Type}

/-! ### Nodes and slots -/

namespace Listing

/-- The slot is that of the entry. -/
inductive Stands (l : Listing σ ε) : Slot → Entry σ ε → Prop
  | child {id : Nat} {e : Entry σ ε} (isNode : e.isNode = true)
      (number : l.places[id]? = some e.place) : Stands l (.child id) e
  | linked {index : Nat} {e : Entry σ ε} {a : PendingAlias} (pending : e.pending? = some a)
      (number : l.pending[index]? = some a) : Stands l (.linked index) e

/-- The node with the number is the root, or it is made of its entry and stands behind the node
that the entry is declared in. -/
inductive Makes [PatternDialect] (l : Listing σ ε) : Nat → Node σ ε → Prop
  | root (children edges : List Nat) : Makes l 0 { Draft.root with children, edges }
  | node (children edges : List Nat) {k parent : Nat} {e : Entry σ ε} {decl : NodeDecl σ ε}
      {inherited : Inherited σ} {pattern : Option Pattern} (entry : l.nodes[k]? = some e)
      (item : e.item = .node decl inherited) (parent_le : parent ≤ k)
      (parent_place : l.places[parent]? = some e.parent)
      (compiled : Draft.compilePattern decl e.name (Place.path e.place) = .ok pattern) :
      Makes l (k + 1)
        { Draft.makeNode decl inherited (k + 1) parent e.name (Place.path e.place) pattern with
          children, edges }

/-! ### More entries -/

variable {l m : Listing σ ε}

theorem getElem?_mono {α : Type} {l m : List α} (h : l <+: m) {i : Nat} {a : α}
    (hi : l[i]? = some a) : m[i]? = some a := by
  obtain ⟨hlt, rfl⟩ := List.getElem?_eq_some_iff.mp hi
  exact List.prefix_iff_getElem?.mp h i hlt

theorem places_mono (h : l <+: m) {i : Nat} {place : List String}
    (hi : l.places[i]? = some place) : m.places[i]? = some place :=
  getElem?_mono ((List.prefix_cons_inj _).mpr ((h.filter _).map _)) hi

theorem Numbers.mono (h : l <+: m) {ids : List Nat} {places : List (List String)}
    (hids : l.Numbers ids places) : m.Numbers ids places := by
  refine Eq.trans (List.map_congr_left fun id hid => ?_) hids
  obtain ⟨place, -, hplace⟩ := hids.exists_place hid
  rw [places_mono h hplace, hplace]

theorem Stands.mono (h : l <+: m) {slot : Slot} {e : Entry σ ε} (hs : l.Stands slot e) :
    m.Stands slot e := by
  cases hs with
  | child isNode number => exact .child isNode (places_mono h number)
  | linked pending number => exact .linked pending (getElem?_mono (h.filterMap _) number)

theorem getElem?_places_succ (k : Nat) :
    l.places[k + 1]? = (l.nodes[k]?).map (·.place) := by
  rw [places, List.getElem?_cons_succ, List.getElem?_map]

section

variable [PatternDialect]

theorem Makes.mono (h : l <+: m) {i : Nat} {n : Node σ ε} (hn : l.Makes i n) : m.Makes i n := by
  cases hn with
  | root => exact .root _ _
  | node _ _ entry item parent_le parent_place compiled =>
    exact .node _ _ (getElem?_mono (h.filter _) entry) item parent_le
      (places_mono h parent_place) compiled

/-! ### What a node shows of its entry -/

theorem Makes.withEdges {i : Nat} {n : Node σ ε} (h : l.Makes i n) (children edges : List Nat) :
    l.Makes i { n with children, edges } := by
  cases h with
  | root => exact .root _ _
  | node _ _ entry item parent_le parent_place compiled =>
    exact .node _ _ entry item parent_le parent_place compiled

theorem Makes.id_eq {i : Nat} {n : Node σ ε} (h : l.Makes i n) : n.id = i := by
  cases h <;> rfl

theorem Makes.name_path {i : Nat} {n : Node σ ε} (h : l.Makes i n) {place : List String}
    (hi : l.places[i]? = some place) :
    n.name = place.getLast?.getD "" ∧ n.path = Place.path place := by
  cases h with
  | root =>
    cases hi
    exact ⟨rfl, rfl⟩
  | node _ _ entry =>
    rw [getElem?_places_succ, entry] at hi
    cases hi
    exact ⟨Entry.name_eq_of_place.symm, rfl⟩

theorem Makes.isAction_eq {i : Nat} {n : Node σ ε} (h : l.Makes i n) (hl : l.Clean)
    {place : List String} (hi : l.places[i]? = some place) : n.isAction = l.isAction place := by
  cases h with
  | root =>
    cases hi
    refine (List.any_eq_false.mpr fun e _ => ?_).symm
    simp [e.place_ne_nil]
  | node _ _ entry item =>
    rw [getElem?_places_succ, entry] at hi
    cases hi
    rw [hl.isAction_place (mem_nodes.mp (List.mem_of_getElem? entry)).1, Entry.isAction, item]
    rfl

theorem Makes.root_eq {n : Node σ ε} (h : l.Makes 0 n) :
    n.body = .root ∧ n.path = "/" ∧ n.parent = none := by
  cases h
  exact ⟨rfl, rfl, rfl⟩

/-- A node that is no root stands behind the node in which it is declared. -/
theorem Makes.exists_parent {i : Nat} {n : Node σ ε} (h : l.Makes i n) (hi : i ≠ 0) :
    ∃ p, ∃ e ∈ l.nodes, n.parent = some p ∧ p < i ∧ l.places[p]? = some e.parent ∧
      l.places[i]? = some e.place ∧ n.name = e.name ∧ n.path = Place.path e.place := by
  cases h with
  | root => exact absurd rfl hi
  | @node _ _ k parent e decl inherited pattern entry item parent_le parent_place compiled =>
    refine ⟨parent, e, List.mem_of_getElem? entry, rfl, Nat.lt_succ_of_le parent_le, parent_place,
      ?_, rfl, rfl⟩
    rw [getElem?_places_succ, entry, Option.map_some]

end

theorem under_concat_self (l : Listing σ ε) (e : Entry σ ε) :
    (l ++ [e] : Listing σ ε).under e.parent = l.under e.parent ++ [e] := by
  rw [under_append]
  simp [under]

theorem under_concat_ne (l : Listing σ ε) {e : Entry σ ε} {place : List String}
    (h : e.parent ≠ place) : (l ++ [e] : Listing σ ε).under place = l.under place := by
  rw [under_append]
  simp [under, h]

end Listing

/-! ### Drafts -/

/-- The node has the slots and the names of what is declared at its place. -/
structure DraftNode.Shows (n : DraftNode σ ε) (l : Listing σ ε) (place : List String) : Prop where
  children : l.Numbers n.node.children ((l.under place).nodes.map (·.place))
  slots : List.Forall₂ l.Stands n.slots (l.under place)
  names : n.names = ((l.under place).map (·.name)).reverse
  unnamed : n.unnamed = l.unnamed place

/-- The draft is that of the entries. -/
structure Draft.Shows [PatternDialect] (d : Draft σ ε) (l : Listing σ ε) : Prop where
  clean : l.Clean
  size : d.nodes.size = l.places.length
  made : ∀ {i : Nat} {n : DraftNode σ ε}, d.nodes[i]? = some n → l.Makes i n.node
  below : ∀ {i : Nat} {n : DraftNode σ ε} {place : List String}, d.nodes[i]? = some n →
    l.places[i]? = some place → n.Shows l place
  labels : (d.labels.map fun a => (a.1, l.places[a.2]?)) =
    l.labels.reverse.map fun a => (a.1, some a.2)
  aliases : d.aliases.toList = l.pending

/-- The number of the child whose slot it is. -/
def Slot.child? : Slot → Option Nat
  | child id => some id
  | linked _ => none

namespace DraftNode

/-- The node once there is one more slot in it. -/
def withSlot (n : DraftNode σ ε) (name : Option String) (chosen : String) (slot : Slot) :
    DraftNode σ ε :=
  { n.withName name chosen with
    node := { n.node with children := n.node.children ++ slot.child?.toList }
    slots := n.slots ++ [slot] }

namespace Shows

variable {n : DraftNode σ ε} {l : Listing σ ε} {e : Entry σ ε}

theorem withSlot {slot : Slot} (h : n.Shows l e.parent)
    (hs : (l ++ [e] : Listing σ ε).Stands slot e) :
    (n.withSlot e.item.name? e.name slot).Shows (l ++ [e]) e.parent where
  children := by
    have hold := h.children.mono (List.prefix_append l [e])
    rw [Listing.under_concat_self, Listing.nodes_append, List.map_append, Listing.Numbers]
    change (n.node.children ++ slot.child?.toList).map _ = _
    rw [List.map_append, List.map_append, hold]
    congr 1
    cases hs with
    | child isNode number => simp [Slot.child?, Listing.nodes, isNode, number]
    | linked pending number =>
      obtain ⟨decl, item, -⟩ := Entry.item_of_pending? pending
      have hnode : e.isNode = false := by rw [Entry.isNode, item]
      simp [Slot.child?, Listing.nodes, hnode]
  slots := by
    rw [Listing.under_concat_self]
    exact List.rel_append (h.slots.imp fun _ _ => .mono (List.prefix_append l [e]))
      (.cons hs .nil)
  names := by
    rw [Listing.under_concat_self, List.map_append, List.reverse_append, ← h.names]
    rfl
  unnamed := by
    rw [Listing.unnamed, Listing.under_concat_self, List.countP_append, ← Listing.unnamed,
      ← h.unnamed]
    cases hname : e.item.name? <;> simp [DraftNode.withSlot, withName, hname]

theorem concat_ne {place : List String} (h : n.Shows l place) (hne : e.parent ≠ place) :
    n.Shows (l ++ [e]) place where
  children := by
    rw [Listing.under_concat_ne l hne]
    exact h.children.mono (List.prefix_append l [e])
  slots := by
    rw [Listing.under_concat_ne l hne]
    exact h.slots.imp fun _ _ => .mono (List.prefix_append l [e])
  names := by rw [Listing.under_concat_ne l hne, h.names]
  unnamed := by rw [Listing.unnamed, Listing.under_concat_ne l hne, h.unnamed, Listing.unnamed]

/-- Nothing is declared yet in a node that is new. -/
theorem new [PatternDialect] {node : Node σ ε} (hl : l.Clean) (hplace : e.place ∉ l.places)
    (hchildren : node.children = []) :
    (⟨node, [], [], 0⟩ : DraftNode σ ε).Shows (l ++ [e]) e.place := by
  have hunder : (l ++ [e] : Listing σ ε).under e.place = [] := by
    rw [Listing.under_concat_ne l (by simp [Entry.place]), hl.under_eq_nil hplace]
  refine ⟨?_, ?_, ?_, ?_⟩
  · rw [hunder, hchildren]
    rfl
  · rw [hunder]
    exact .nil
  · rw [hunder]
    rfl
  · rw [Listing.unnamed, hunder]
    rfl

end Shows

end DraftNode

namespace Draft

variable {d : Draft σ ε} {l : Listing σ ε} {parent : Nat}

/-! ### The nodes after an addition -/

theorem getElem?_withNode (d : Draft σ ε) (parent : Nat) (decl : NodeDecl σ ε)
    (inherited : Inherited σ) (pattern : Option Pattern) (i : Nat) :
    (d.withNode parent decl inherited pattern).nodes[i]? =
      if i = d.nodes.size then
        some ⟨makeNode decl inherited d.nodes.size parent (d.chosenName parent decl.name)
          (childPath (d.path parent) (d.chosenName parent decl.name)) pattern, [], [], 0⟩
      else
        (d.nodes[i]?).map fun n =>
          if parent = i then
            n.withSlot decl.name (d.chosenName parent decl.name) (.child d.nodes.size)
          else n := by
  simp only [withNode, withName, Array.getElem?_push, Array.getElem?_modify, Array.size_modify]
  split
  · rfl
  · split <;> cases d.nodes[i]? <;> rfl

theorem getElem?_withAlias (d : Draft σ ε) (parent : Nat) (decl : AliasDecl) (i : Nat) :
    (d.withAlias parent decl).nodes[i]? =
      (d.nodes[i]?).map fun n =>
        if parent = i then
          n.withSlot decl.name (d.chosenName parent decl.name) (.linked d.aliases.size)
        else n := by
  simp only [withAlias, withName, Array.getElem?_modify]
  split
  · cases d.nodes[i]? with
    | none => rfl
    | some n =>
      simp only [Option.map_some, DraftNode.withSlot, Slot.child?, Option.toList_none,
        List.append_nil]
      rfl
  · cases d.nodes[i]? <;> rfl

/-! ### Patterns -/

variable [PatternDialect]

theorem compilePattern_eq (decl : NodeDecl σ ε) (name path : String) :
    compilePattern decl name path =
      if declaresAction decl then .ok none
      else match Pattern.new? (patternSource decl name) with
        | some pattern => .ok (some pattern)
        | none => .error (.invalidPattern path) := by
  unfold compilePattern declaresAction
  cases decl.body <;> rfl

theorem hasPattern_iff {e : Entry σ ε} {decl : NodeDecl σ ε} {inherited : Inherited σ}
    (item : e.item = .node decl inherited) (path : String) :
    e.HasPattern ↔ ∃ pattern, compilePattern decl e.name path = .ok pattern := by
  have hreads : e.HasPattern ↔ (declaresAction decl = false →
      (Pattern.new? (patternSource decl e.name)).isSome = true) := by
    rw [Entry.HasPattern, item]
  rw [hreads, compilePattern_eq]
  cases declaresAction decl <;> cases Pattern.new? (patternSource decl e.name) <;> simp

theorem compilePattern_error {decl : NodeDecl σ ε} {name path : String} {error : GrammarError}
    (h : compilePattern decl name path = .error error) : error = .invalidPattern path := by
  rw [compilePattern_eq] at h
  split at h
  · cases h
  · split at h
    · cases h
    · cases h
      rfl

/-! ### What a draft shows after an addition -/

namespace Shows

theorem outline (h : d.Shows l) : d.outline.Shows l where
  clean := h.clean
  size := by rw [Draft.outline, Array.size_map, h.size]
  site := by
    intro i s place hs hi
    rw [Outline.site?, Draft.outline, Array.getElem?_map, Option.map_eq_some_iff] at hs
    obtain ⟨n, hn, rfl⟩ := hs
    obtain ⟨hname, hpath⟩ := (h.made hn).name_path hi
    exact ⟨hname, hpath, (h.below hn hi).children⟩
  labels := h.labels

theorem exists_node (h : d.Shows l) {i : Nat} {place : List String}
    (hi : l.places[i]? = some place) : ∃ n, d.nodes[i]? = some n ∧ n.Shows l place := by
  have hlt : i < d.nodes.size := h.size ▸ (List.getElem?_eq_some_iff.mp hi).1
  exact ⟨_, Array.getElem?_eq_getElem hlt, h.below (Array.getElem?_eq_getElem hlt) hi⟩

theorem chosenName_eq (h : d.Shows l) {place : List String} (hi : l.places[parent]? = some place)
    (name : Option String) : d.chosenName parent name = l.chosenName place name := by
  obtain ⟨n, hn, hshows⟩ := h.exists_node hi
  rw [chosenName, hn, Option.elim_some, hshows.unnamed, Listing.chosenName]

theorem path_eq (h : d.Shows l) {i : Nat} {place : List String} (hi : l.places[i]? = some place) :
    d.path i = Place.path place := by
  obtain ⟨n, hn, -⟩ := h.exists_node hi
  rw [path, hn, Option.elim_some, ((h.made hn).name_path hi).2]

theorem childPath_eq (h : d.Shows l) {e : Entry σ ε} (hi : l.places[parent]? = some e.parent) :
    childPath (d.path parent) e.name = Place.path e.place := by
  rw [h.path_eq hi]
  exact Place.childPath_path (h.clean.isName (List.mem_of_getElem? hi)) e.name

theorem isAction_eq (h : d.Shows l) {i : Nat} {place : List String}
    (hi : l.places[i]? = some place) : d.isAction i = l.isAction place := by
  obtain ⟨n, hn, -⟩ := h.exists_node hi
  rw [isAction, hn, Option.any_some, (h.made hn).isAction_eq h.clean hi]

/-- The names in use in a node are those of its entries. -/
theorem contains_eq (h : d.Shows l) {place : List String} (hi : l.places[parent]? = some place)
    (name : String) : (d.nodes[parent]?).any (·.names.contains name) =
      decide (name ∈ (l.under place).map (·.name)) := by
  obtain ⟨n, hn, hshows⟩ := h.exists_node hi
  rw [hn, Option.any_some, hshows.names, List.contains_eq_mem]
  simp only [List.mem_reverse]

theorem made_concat (h : d.Shows l) (e : Entry σ ε) (name : Option String) (slot : Slot) {i : Nat}
    {n : DraftNode σ ε} (hn : d.nodes[i]? = some n) :
    (l ++ [e] : Listing σ ε).Makes i
      (if parent = i then n.withSlot name e.name slot else n).node := by
  have hmade := (h.made hn).mono (List.prefix_append l [e])
  split
  · exact hmade.withEdges _ _
  · exact hmade

/-- What is below a node shows all entries once a slot is added for the last one. -/
theorem below_concat (h : d.Shows l) {e : Entry σ ε} {slot : Slot}
    (hparent : l.places[parent]? = some e.parent) (hs : (l ++ [e] : Listing σ ε).Stands slot e)
    {i : Nat} {n : DraftNode σ ε} {place : List String} (hn : d.nodes[i]? = some n)
    (hi : l.places[i]? = some place) :
    (if parent = i then n.withSlot e.item.name? e.name slot else n).Shows (l ++ [e]) place := by
  split
  · next heq =>
    subst heq
    obtain rfl : e.parent = place := Option.some.inj (hparent.symm.trans hi)
    exact (h.below hn hi).withSlot hs
  · next hne =>
    refine (h.below hn hi).concat_ne ?_
    rintro rfl
    exact hne (h.clean.number_inj hparent hi)

theorem labels_concat (h : d.Shows l) (e : Entry σ ε) :
    (d.labels.map fun a => (a.1, (l ++ [e] : Listing σ ε).places[a.2]?)) =
      l.labels.reverse.map fun a => (a.1, some a.2) := by
  rw [← h.labels]
  refine List.map_congr_left fun a ha => ?_
  obtain ⟨place, hplace⟩ := h.outline.exists_of_mem_labels ha
  rw [Listing.places_mono (List.prefix_append l [e]) hplace, hplace]

/-- Adding a node adds its entry. -/
theorem withNode (h : d.Shows l) {e : Entry σ ε} {decl : NodeDecl σ ε} {inherited : Inherited σ}
    {pattern : Option Pattern} (hparent : l.places[parent]? = some e.parent)
    (item : e.item = .node decl inherited) (hname : d.chosenName parent decl.name = e.name)
    (hclean : (l ++ [e] : Listing σ ε).Clean)
    (compiled : compilePattern decl e.name (Place.path e.place) = .ok pattern) :
    (d.withNode parent decl inherited pattern).Shows (l ++ [e]) := by
  have hnode : [e].filter (·.isNode) = [e] := by simp [Entry.isNode, item]
  have hplaces : (l ++ [e] : Listing σ ε).places = l.places ++ [e.place] := by
    rw [Listing.places_append, Listing.nodes, hnode, List.map_singleton]
  have hsize : d.nodes.size = l.nodes.length + 1 := by
    rw [h.size, Listing.places, List.length_cons, List.length_map]
  have hid : (l ++ [e] : Listing σ ε).places[d.nodes.size]? = some e.place := by
    rw [hplaces, h.size, List.getElem?_concat_length]
  have hfresh : e.place ∉ l.places := by
    have hnodup := hclean.nodup_places
    rw [hplaces, List.nodup_append] at hnodup
    exact fun hmem => hnodup.2.2 _ hmem _ (List.mem_singleton_self _) rfl
  have hpath := h.childPath_eq hparent
  have hlt : parent < d.nodes.size := h.size ▸ (List.getElem?_eq_some_iff.mp hparent).1
  have hitemName : e.item.name? = decl.name := by rw [item]; rfl
  refine {
    clean := hclean
    size := ?size
    made := ?made
    below := ?below
    labels := ?labels
    aliases := ?aliases }
  case size =>
    rw [hplaces, List.length_append, ← h.size]
    simp [Draft.withNode, Draft.withName]
  case made =>
    intro i n hn
    rw [getElem?_withNode, hname, hpath] at hn
    split at hn
    · next heq =>
      cases hn
      subst heq
      rw [hsize]
      refine .node [] [] ?_ item (by omega)
        (Listing.places_mono (List.prefix_append l [e]) hparent) compiled
      rw [Listing.nodes_append, Listing.nodes, Listing.nodes, hnode]
      exact List.getElem?_concat_length
    · obtain ⟨m, hm, rfl⟩ := Option.map_eq_some_iff.mp hn
      exact h.made_concat e decl.name _ hm
  case below =>
    intro i n place hn hi
    rw [getElem?_withNode, hname, hpath] at hn
    split at hn
    · next heq =>
      cases hn
      subst heq
      obtain rfl : e.place = place := Option.some.inj (hid.symm.trans hi)
      exact .new h.clean hfresh rfl
    · next hne =>
      obtain ⟨m, hm, rfl⟩ := Option.map_eq_some_iff.mp hn
      have hlt' : i < l.places.length := h.size ▸ (Array.getElem?_eq_some_iff.mp hm).1
      rw [hplaces, List.getElem?_append_left hlt'] at hi
      rw [← hitemName]
      exact h.below_concat hparent (.child (by simp [Entry.isNode, item]) hid) hm hi
  case labels =>
    change ((decl.label.map (·, d.nodes.size)).toList ++ d.labels).map _ = _
    rw [List.map_append, h.labels_concat, Listing.labels_append, List.reverse_append,
      List.map_append]
    congr 1
    have hlabel : e.label? = decl.label := by rw [Entry.label?, item]
    cases hl : decl.label <;> simp [Listing.labels, hlabel, hl, hid]
  case aliases =>
    rw [Listing.pending, List.filterMap_append, ← Listing.pending, ← h.aliases]
    simp [Draft.withNode, Entry.pending?, item]

/-- Adding an alias adds its entry. -/
theorem withAlias (h : d.Shows l) {e : Entry σ ε} {decl : AliasDecl}
    (hparent : l.places[parent]? = some e.parent) (item : e.item = .link decl)
    (hname : d.chosenName parent decl.name = e.name) (hclean : (l ++ [e] : Listing σ ε).Clean) :
    (d.withAlias parent decl).Shows (l ++ [e]) := by
  have hplaces : (l ++ [e] : Listing σ ε).places = l.places := by
    rw [Listing.places_append]
    simp [Listing.nodes, Entry.isNode, item]
  have hpath := h.childPath_eq hparent
  have hpending : e.pending? = some ⟨Place.path e.place, decl.target⟩ := by
    rw [Entry.pending?, item]
  have hitemName : e.item.name? = decl.name := by rw [item]; rfl
  have haliases : (d.withAlias parent decl).aliases.toList = (l ++ [e] : Listing σ ε).pending := by
    rw [Listing.pending, List.filterMap_append, ← Listing.pending, ← h.aliases, Draft.withAlias,
      Array.toList_push, hname, hpath]
    simp [hpending]
  refine {
    clean := hclean
    size := ?size
    made := ?made
    below := ?below
    labels := ?labels
    aliases := haliases }
  case size =>
    rw [hplaces, ← h.size]
    simp [Draft.withAlias, Draft.withName]
  case made =>
    intro i n hn
    rw [getElem?_withAlias, hname] at hn
    obtain ⟨m, hm, rfl⟩ := Option.map_eq_some_iff.mp hn
    exact h.made_concat e decl.name _ hm
  case below =>
    intro i n place hn hi
    rw [getElem?_withAlias, hname] at hn
    obtain ⟨m, hm, rfl⟩ := Option.map_eq_some_iff.mp hn
    rw [hplaces] at hi
    rw [← hitemName]
    refine h.below_concat hparent (.linked hpending ?_) hm hi
    rw [← haliases, Draft.withAlias, Array.toList_push, hname, hpath, ← Array.length_toList,
      List.getElem?_concat_length]
  case labels =>
    change d.labels.map _ = _
    rw [h.labels_concat, Listing.labels_append, List.reverse_append, List.map_append]
    simp [Listing.labels, Entry.label?, item]

end Shows

end Draft

end CommandGrammar
