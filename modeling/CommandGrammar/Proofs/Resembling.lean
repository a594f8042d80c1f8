import CommandGrammar.Proofs.Rearranging
import CommandGrammar.Proofs.Arena

/-! Grammars that resemble each other. They have the same nodes, each at the same path and with the
same attributes, and where a node has the number of another one, this is the one with the same path
in both. The grammars of two declarations that list the same entries resemble each other. -/

namespace CommandGrammar

variable {σ ε : Type}

/-- The node without the numbers of other nodes and its own. -/
def Node.unnumbered (n : Node σ ε) : Node σ ε :=
  { n with id := 0, parent := none, children := [], edges := [] }

/-- The grammars have the same nodes by their paths. The children of a node and its edges are the
same up to their order, of which `order` tells how it may differ. -/
structure Grammar.Resembles (order : List String → List String → Prop) (g g' : Grammar σ ε) :
    Prop where
  paths : (g.nodes.toList.map (·.path)).Perm (g'.nodes.toList.map (·.path))
  attributes : ∀ {i j : Nat} {n m : Node σ ε}, g.node? i = some n → g'.node? j = some m →
    n.path = m.path → n.unnumbered = m.unnumbered
  parent : ∀ {i j : Nat} {n m : Node σ ε}, g.node? i = some n → g'.node? j = some m →
    n.path = m.path → n.parent.map g.outline.path = m.parent.map g'.outline.path
  children : ∀ {i j : Nat} {n m : Node σ ε}, g.node? i = some n → g'.node? j = some m →
    n.path = m.path → order (n.children.map g.outline.path) (m.children.map g'.outline.path)
  edges : ∀ {i j : Nat} {n m : Node σ ε}, g.node? i = some n → g'.node? j = some m →
    n.path = m.path → order (n.edges.map g.outline.path) (m.edges.map g'.outline.path)
  labels : ∀ label, (g.outline.labelled? label).map g.outline.path =
    (g'.outline.labelled? label).map g'.outline.path

namespace Grammar.Shows

variable {g g' : Grammar σ ε} {l m : Listing σ ε}

/-! ### Paths and places -/

theorem map_path (h : g.Shows l) {ids : List Nat} {places : List (List String)}
    (hids : l.Numbers ids places) : ids.map g.outline.path = places.map Place.path := by
  have hid : ∀ id ∈ ids, g.outline.path id = (l.places[id]?).elim "" Place.path := by
    intro id hmem
    obtain ⟨place, -, hplace⟩ := hids.exists_place hmem
    rw [h.outline.path_eq hplace, hplace, Option.elim_some]
  calc ids.map g.outline.path
      = (ids.map (l.places[·]?)).map (·.elim "" Place.path) := by
        rw [List.map_map]
        exact List.map_congr_left hid
    _ = places.map Place.path := by
      rw [hids, List.map_map]
      rfl

theorem map_path_nodes (h : g.Shows l) :
    g.nodes.toList.map (·.path) = l.places.map Place.path := by
  refine List.ext_getElem? fun i => ?_
  rw [List.getElem?_map, List.getElem?_map, Array.getElem?_toList]
  change (g.node? i).map _ = _
  cases hi : l.places[i]? with
  | none =>
    have hle : g.nodes.size ≤ i := h.size ▸ List.getElem?_eq_none_iff.mp hi
    rw [node?, Array.getElem?_eq_none hle]
    rfl
  | some place =>
    obtain ⟨n, hn⟩ := h.exists_node hi
    rw [hn, Option.map_some, Option.map_some, ((h.made hn).name_path hi).2]

/-- Nodes with one path stand at one place. -/
theorem exists_common_place (h : g.Shows l) (h' : g'.Shows m) {i j : Nat} {n k : Node σ ε}
    (hn : g.node? i = some n) (hk : g'.node? j = some k) (hpath : n.path = k.path) :
    ∃ place, l.places[i]? = some place ∧ m.places[j]? = some place := by
  obtain ⟨place, hi⟩ := h.exists_place hn
  obtain ⟨other, hj⟩ := h'.exists_place hk
  rw [((h.made hn).name_path hi).2, ((h'.made hk).name_path hj).2] at hpath
  obtain rfl := Place.path_inj (h.clean.isName (List.mem_of_getElem? hi))
    (h'.clean.isName (List.mem_of_getElem? hj)) hpath
  exact ⟨place, hi, hj⟩

theorem map_path_labelled? (h : g.Shows l) (label : String) :
    (g.outline.labelled? label).map g.outline.path = (l.labelled? label).map Place.path := by
  cases hlabel : l.labelled? label with
  | none => rw [h.outline.labelled?_eq_none hlabel]; rfl
  | some place =>
    obtain ⟨i, hi, hplace⟩ := h.outline.labelled?_of_place hlabel
    rw [hi, Option.map_some, Option.map_some, h.outline.path_eq hplace]

/-! ### Nodes at one place -/

/-- Nodes that are made of the same entry differ in numbers only. -/
theorem unnumbered_eq (h : g.Shows l) (h' : g'.Shows m) (hperm : l.Perm m) {i j : Nat}
    {n k : Node σ ε} {place : List String} (hn : g.node? i = some n) (hk : g'.node? j = some k)
    (hi : l.places[i]? = some place) (hj : m.places[j]? = some place) :
    n.unnumbered = k.unnumbered := by
  cases h.made hn with
  | root =>
    cases hi
    cases h'.made hk with
    | root => rfl
    | node _ _ entry =>
      rw [Listing.getElem?_places_succ, entry] at hj
      exact absurd (Option.some.inj hj) (Entry.place_ne_nil _)
  | node _ _ entry item _ _ compiled =>
    rw [Listing.getElem?_places_succ, entry] at hi
    cases hi
    cases h'.made hk with
    | root => exact absurd (Option.some.inj hj).symm (Entry.place_ne_nil _)
    | node _ _ entry' item' _ _ compiled' =>
      rw [Listing.getElem?_places_succ, entry'] at hj
      have hmem := (Listing.mem_nodes.mp (List.mem_of_getElem? entry)).1
      have hmem' := (Listing.mem_nodes.mp (List.mem_of_getElem? entry')).1
      obtain rfl := List.inj_on_of_nodup_map h'.clean.distinct hmem' (hperm.mem_iff.mp hmem)
        (Option.some.inj hj)
      cases item.symm.trans item'
      cases compiled.symm.trans compiled'
      rfl

theorem map_path_parent_eq (h : g.Shows l) (h' : g'.Shows m) {i j : Nat} {n k : Node σ ε}
    {place : List String} (hn : g.node? i = some n) (hk : g'.node? j = some k)
    (hi : l.places[i]? = some place) (hj : m.places[j]? = some place) :
    n.parent.map g.outline.path = k.parent.map g'.outline.path := by
  have hroot : i = 0 ↔ j = 0 := by
    constructor
    · rintro rfl
      cases hi
      exact h'.clean.number_inj hj rfl
    · rintro rfl
      cases hj
      exact h.clean.number_inj hi rfl
  by_cases h0 : i = 0
  · rw [(h.parent_eq_none_iff hn).mpr h0, (h'.parent_eq_none_iff hk).mpr (hroot.mp h0)]
    rfl
  · obtain ⟨p, e, -, hp, -, hpplace, hiplace, -⟩ := (h.made hn).exists_parent h0
    obtain ⟨q, f, -, hq, -, hqplace, hjplace, -⟩ := (h'.made hk).exists_parent (h0 ∘ hroot.mpr)
    have hplace : e.place = f.place := Option.some.inj
      (hiplace.symm.trans (hi.trans (hj.symm.trans hjplace)))
    rw [hp, hq, Option.map_some, Option.map_some, h.outline.path_eq hpplace,
      h'.outline.path_eq hqplace, (Entry.place_inj.mp hplace).1]

/-- Grammars of the same entries resemble each other. -/
theorem resembles (h : g.Shows l) (h' : g'.Shows m) (hperm : l.Perm m)
    {order : List String → List String → Prop}
    (children : ∀ place, order (((l.under place).nodes.map (·.place)).map Place.path)
      (((m.under place).nodes.map (·.place)).map Place.path))
    (edges : ∀ place, order (((l.under place).flatMap l.leads).map Place.path)
      (((m.under place).flatMap m.leads).map Place.path)) :
    g.Resembles order g' where
  paths := by
    rw [h.map_path_nodes, h'.map_path_nodes]
    exact (Listing.places_perm hperm).map _
  attributes hn hk hpath := by
    obtain ⟨place, hi, hj⟩ := h.exists_common_place h' hn hk hpath
    exact h.unnumbered_eq h' hperm hn hk hi hj
  parent hn hk hpath := by
    obtain ⟨place, hi, hj⟩ := h.exists_common_place h' hn hk hpath
    exact h.map_path_parent_eq h' hn hk hi hj
  children hn hk hpath := by
    obtain ⟨place, hi, hj⟩ := h.exists_common_place h' hn hk hpath
    rw [h.map_path (h.children hn hi), h'.map_path (h'.children hk hj)]
    exact children place
  edges hn hk hpath := by
    obtain ⟨place, hi, hj⟩ := h.exists_common_place h' hn hk hpath
    rw [h.map_path (h.edges hn hi), h'.map_path (h'.edges hk hj)]
    exact edges place
  labels label := by
    rw [h.map_path_labelled?, h'.map_path_labelled?,
      Listing.labelled?_eq_of_perm hperm h.clean.labels]

/-- Grammars of the same entries in any order resemble each other up to that order. -/
theorem resembles_of_perm (h : g.Shows l) (h' : g'.Shows m) (hperm : l.Perm m) :
    g.Resembles List.Perm g' :=
  h.resembles h' hperm
    (fun place => ((Listing.nodes_perm (Listing.under_perm hperm place)).map _).map _)
    fun place => (Listing.flatMap_leads_perm hperm h.clean.labels place).map _

end Grammar.Shows

end CommandGrammar
