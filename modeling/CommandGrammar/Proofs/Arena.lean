import CommandGrammar.Proofs.Finishing

/-! The nodes of a grammar as a tree. Every node but the root stands in one other node, which comes
before it, and its path spells the names on the way to it, so that the way can be found from the
path. Every number in the grammar is that of a node. -/

namespace CommandGrammar

variable {σ ε : Type}

namespace Grammar

/-- The nodes of the grammar are a tree, in which each node can be found by its path. -/
structure IsTree (g : Grammar σ ε) : Prop where
  id_eq : ∀ {i : Nat} {n : Node σ ε}, g.node? i = some n → n.id = i
  root : ∃ n, g.node? 0 = some n ∧ n.body = .root ∧ n.path = "/" ∧ n.parent = none
  /-- Every other node stands once among the children of an earlier one. -/
  parent : ∀ {i : Nat} {n : Node σ ε}, g.node? i = some n → i ≠ 0 →
    ∃ p m, n.parent = some p ∧ p < i ∧ g.node? p = some m ∧ m.children.count i = 1 ∧
      n.path = (if p = 0 then "" else m.path) ++ "/" ++ n.name
  /-- A node stands among the children of no other node. -/
  parent_of_mem_children : ∀ {i p : Nat} {m : Node σ ε}, g.node? p = some m → i ∈ m.children →
    ∃ n, g.node? i = some n ∧ n.parent = some p
  isName : ∀ {i : Nat} {n : Node σ ε}, g.node? i = some n → i ≠ 0 → IsName n.name
  sibling_inj : ∀ {i j : Nat} {n m : Node σ ε}, g.node? i = some n → g.node? j = some m →
    n.parent = m.parent → n.name = m.name → i = j
  path_inj : ∀ {i j : Nat} {n m : Node σ ε}, g.node? i = some n → g.node? j = some m →
    n.path = m.path → i = j
  walk_path : ∀ {i : Nat} {n : Node σ ε}, g.node? i = some n →
    g.outline.walk? 0 (Outline.segments n.path) = some i
  edge_lt : ∀ {i : Nat} {n : Node σ ε}, g.node? i = some n → ∀ id ∈ n.edges, id < g.nodes.size
  label_lt : ∀ a ∈ g.labels, a.2 < g.nodes.size

end Grammar

namespace Grammar.Shows

variable [PatternDialect] {g : Grammar σ ε} {l : Listing σ ε}

/-- The children of a node are the nodes that are declared in it. -/
theorem mem_children_iff (h : g.Shows l) {p i : Nat} {m : Node σ ε} {place : List String}
    (hm : g.node? p = some m) (hp : l.places[p]? = some place) :
    i ∈ m.children ↔ ∃ e ∈ (l.under place).nodes, l.places[i]? = some e.place := by
  have hnumbers := h.children hm hp
  refine ⟨fun hi => hnumbers.exists_entry hi, fun ⟨e, he, hi⟩ => ?_⟩
  obtain ⟨id, hid, hplace⟩ := hnumbers.exists_number he
  exact h.clean.number_inj hplace hi ▸ hid

theorem nodup_children (h : g.Shows l) {p : Nat} {m : Node σ ε} {place : List String}
    (hm : g.node? p = some m) (hp : l.places[p]? = some place) : m.children.Nodup := by
  refine (h.children hm hp).nodup (h.clean.distinct.sublist (List.Sublist.map _ ?_))
  exact List.filter_sublist.trans List.filter_sublist

/-- Every node but the root stands once among the children of an earlier one. -/
theorem count_children_parent (h : g.Shows l) {i : Nat} {n : Node σ ε} (hn : g.node? i = some n)
    (hi : i ≠ 0) : ∃ p m, n.parent = some p ∧ p < i ∧ g.node? p = some m ∧
      m.children.count i = 1 ∧ n.path = (if p = 0 then "" else m.path) ++ "/" ++ n.name := by
  obtain ⟨p, e, he, hparent, hlt, hp, hplace, hname, hpath⟩ := (h.made hn).exists_parent hi
  obtain ⟨m, hm⟩ := h.exists_node hp
  obtain ⟨hmem, hnode⟩ := Listing.mem_nodes.mp he
  refine ⟨p, m, hparent, hlt, hm, ?_, ?_⟩
  · refine List.count_eq_one_of_mem (h.nodup_children hm hp) ((h.mem_children_iff hm hp).mpr ?_)
    exact ⟨e, Listing.mem_nodes.mpr ⟨Listing.mem_under.mpr ⟨hmem, rfl⟩, hnode⟩, hplace⟩
  · rw [hpath, hname, Entry.place, Place.path_concat, ((h.made hm).name_path hp).2]
    -- only the root has the empty place
    have hroot : p = 0 ↔ e.parent = [] :=
      ⟨fun h0 => by subst h0; exact (Option.some.inj hp).symm,
        fun hnil => h.clean.number_inj (hnil ▸ hp) rfl⟩
    simp only [hroot]

theorem parent_of_mem_children (h : g.Shows l) {i p : Nat} {m : Node σ ε}
    (hm : g.node? p = some m) (hi : i ∈ m.children) :
    ∃ n, g.node? i = some n ∧ n.parent = some p := by
  obtain ⟨place, hp⟩ := h.exists_place hm
  obtain ⟨e, he, hplace⟩ := (h.mem_children_iff hm hp).mp hi
  obtain ⟨-, rfl⟩ := Listing.mem_under.mp (Listing.mem_nodes.mp he).1
  obtain ⟨n, hn⟩ := h.exists_node hplace
  have hi0 : i ≠ 0 := by
    rintro rfl
    exact e.place_ne_nil (Option.some.inj hplace).symm
  obtain ⟨q, f, -, hparent, -, hq, hplace', -⟩ := (h.made hn).exists_parent hi0
  obtain ⟨hpq, -⟩ := Entry.place_inj.mp (Option.some.inj (hplace.symm.trans hplace'))
  exact ⟨n, hn, hparent.trans (congrArg some (h.clean.number_inj hq (hpq ▸ hp)))⟩

theorem parent_eq_none_iff (h : g.Shows l) {i : Nat} {n : Node σ ε} (hn : g.node? i = some n) :
    n.parent = none ↔ i = 0 := by
  constructor
  · intro hnone
    by_contra hi
    obtain ⟨p, e, -, hparent, -⟩ := (h.made hn).exists_parent hi
    cases hnone.symm.trans hparent
  · rintro rfl
    exact (h.made hn).root_eq.2.2

/-- No two nodes have the same parent and the same name. -/
theorem sibling_inj (h : g.Shows l) {i j : Nat} {n m : Node σ ε} (hn : g.node? i = some n)
    (hm : g.node? j = some m) (hparent : n.parent = m.parent) (hname : n.name = m.name) :
    i = j := by
  have hroot : i = 0 ↔ j = 0 := by
    rw [← h.parent_eq_none_iff hn, ← h.parent_eq_none_iff hm, hparent]
  by_cases hi : i = 0
  · rw [hi, hroot.mp hi]
  · obtain ⟨p, e, -, hp, -, hpplace, hiplace, hen, -⟩ := (h.made hn).exists_parent hi
    obtain ⟨q, f, -, hq, -, hqplace, hjplace, hfn, -⟩ :=
      (h.made hm).exists_parent (hi ∘ hroot.mpr)
    obtain rfl : p = q := Option.some.inj (hp.symm.trans (hparent.trans hq))
    have hplace : e.place = f.place := Entry.place_inj.mpr
      ⟨Option.some.inj (hpplace.symm.trans hqplace), hen.symm.trans (hname.trans hfn)⟩
    exact h.clean.number_inj (hplace ▸ hiplace) hjplace

/-- No two nodes have the same path. -/
theorem path_inj (h : g.Shows l) {i j : Nat} {n m : Node σ ε} (hn : g.node? i = some n)
    (hm : g.node? j = some m) (hpath : n.path = m.path) : i = j := by
  obtain ⟨place, hi⟩ := h.exists_place hn
  obtain ⟨other, hj⟩ := h.exists_place hm
  rw [((h.made hn).name_path hi).2, ((h.made hm).name_path hj).2] at hpath
  have hplace := Place.path_inj (h.clean.isName (List.mem_of_getElem? hi))
    (h.clean.isName (List.mem_of_getElem? hj)) hpath
  exact h.clean.number_inj (hplace ▸ hi) hj

/-- The names on the path of a node lead to it. -/
theorem walk?_path (h : g.Shows l) {i : Nat} {n : Node σ ε} (hn : g.node? i = some n) :
    g.outline.walk? 0 (Outline.segments n.path) = some i := by
  obtain ⟨place, hi⟩ := h.exists_place hn
  rw [((h.made hn).name_path hi).2, Place.segments_path (h.clean.isName (List.mem_of_getElem? hi))]
  exact h.outline.walk?_root.mpr hi

theorem isTree (h : g.Shows l) : g.IsTree where
  id_eq hn := (h.made hn).id_eq
  root := by
    obtain ⟨n, hn⟩ := h.exists_node Listing.root_place
    exact ⟨n, hn, (h.made hn).root_eq⟩
  parent := h.count_children_parent
  parent_of_mem_children := h.parent_of_mem_children
  isName := by
    intro i n hn hi
    obtain ⟨p, e, he, -, -, -, -, hname, -⟩ := (h.made hn).exists_parent hi
    exact hname ▸ h.clean.names e (Listing.mem_nodes.mp he).1 e.name List.mem_concat_self
  sibling_inj := h.sibling_inj
  path_inj := h.path_inj
  walk_path := h.walk?_path
  edge_lt := by
    intro i n hn
    obtain ⟨place, hi⟩ := h.exists_place hn
    exact h.size ▸ (h.edges hn hi).lt_length
  label_lt := h.size ▸ h.outline.label_lt

end Grammar.Shows

/-- The nodes of every grammar that is built are a tree. -/
theorem Builder.isTree_of_build [PatternDialect] {b : Builder σ ε} {g : Grammar σ ε}
    (h : b.build = .ok g) : g.IsTree :=
  (b.shows_of_build h).isTree

theorem Sample.isTree_tags :
    ∃ g, tags.build = .ok g ∧ g.nodes.toList.map (·.path) =
      ["/", "/tags", "/tags/text", "/tags/word", "/tags/end", "/tags/end/@0"] ∧ g.IsTree := by
  obtain ⟨g, hg, hpaths⟩ := tags.exists_build (f := fun g => g.nodes.toList.map (·.path))
    (v := ["/", "/tags", "/tags/text", "/tags/word", "/tags/end", "/tags/end/@0"])
    (by decide +kernel)
  exact ⟨g, hg, hpaths, Builder.isTree_of_build hg⟩

end CommandGrammar
