import CommandGrammar.Proofs.Arena
import CommandGrammar.Proofs.Rearranging

/-! Finding nodes. A text is first looked for among the labels and then followed as a path from the
root. Every label leads to its node. A path leads to its node too, unless it is the label of another
one: names have no slashes in them, but a label may be any text. -/

namespace CommandGrammar

variable {σ ε : Type}

theorem Place.startsWith_path (place : List String) : (path place).startsWith "/" = true := by
  rw [String.startsWith_string_iff]
  cases place with
  | nil => exact List.prefix_rfl
  | cons name names =>
    rw [toList_path (List.cons_ne_nil name names), List.flatMap_cons, List.cons_append]
    exact List.prefix_append ['/'] _

/-! ### Labels -/

namespace Listing

variable {l : Listing σ ε}

theorem mem_labels {label : String} {place : List String} :
    (label, place) ∈ l.labels ↔ ∃ e ∈ l, e.label? = some label ∧ e.place = place := by
  rw [labels, List.mem_filterMap]
  refine exists_congr fun e => and_congr_right fun _ => ?_
  rw [Option.map_eq_some_iff]
  constructor
  · rintro ⟨_, hlabel, heq⟩
    obtain ⟨rfl, rfl⟩ := Prod.mk.inj heq
    exact ⟨hlabel, rfl⟩
  · rintro ⟨hlabel, rfl⟩
    exact ⟨label, hlabel, rfl⟩

/-- The label of a node is that of its entry. -/
theorem Makes.label_eq_some_iff {i : Nat} {n : Node σ ε} (h : l.Makes i n) (hl : l.Clean)
    {place : List String} (hi : l.places[i]? = some place) {label : String} :
    n.label = some label ↔ (label, place) ∈ l.labels := by
  rw [mem_labels]
  cases h with
  | root =>
    cases hi
    refine iff_of_false nofun ?_
    rintro ⟨e, -, -, hplace⟩
    exact e.place_ne_nil hplace
  | @node _ _ k parent e decl inherited pattern entry item =>
    rw [getElem?_places_succ, entry] at hi
    cases hi
    have he : e ∈ l := (mem_nodes.mp (List.mem_of_getElem? entry)).1
    have hlabel : e.label? = decl.label := by rw [Entry.label?, item]
    change decl.label = some label ↔ _
    rw [← hlabel]
    constructor
    · exact fun hlabel => ⟨e, he, hlabel, rfl⟩
    · rintro ⟨f, hf, hlabel, hplace⟩
      exact List.inj_on_of_nodup_map hl.distinct hf he hplace ▸ hlabel

end Listing

/-! ### Finding -/

namespace Grammar.Shows

variable {g : Grammar σ ε} {l : Listing σ ε}

/-- A label leads to the node that has it. -/
theorem labelled?_eq_some_iff (h : g.Shows l) {label : String} {i : Nat} :
    g.outline.labelled? label = some i ↔ ∃ n, g.node? i = some n ∧ n.label = some label := by
  have hmem {place : List String} :
      l.labelled? label = some place ↔ (label, place) ∈ l.labels :=
    lookup_eq_some_iff_mem h.clean.labels
  constructor
  · intro hi
    have heq := h.outline.labelled?_eq label
    rw [hi, Option.map_some, eq_comm, Option.map_eq_some_iff] at heq
    obtain ⟨place, hlabel, hplace⟩ := heq
    obtain ⟨n, hn⟩ := h.exists_node hplace.symm
    exact ⟨n, hn, ((h.made hn).label_eq_some_iff h.clean hplace.symm).mpr (hmem.mp hlabel)⟩
  · rintro ⟨n, hn, hlabel⟩
    obtain ⟨place, hi⟩ := h.exists_place hn
    have hlabelled := hmem.mpr (((h.made hn).label_eq_some_iff h.clean hi).mp hlabel)
    obtain ⟨j, hj, hplace⟩ := h.outline.labelled?_of_place hlabelled
    rw [hj, h.clean.number_inj hplace hi]

/-- The names from the root lead to the node whose path they are. -/
theorem walk?_eq_some_iff (h : g.Shows l) {names : List String} {i : Nat} :
    g.outline.walk? 0 names = some i ↔
      ∃ n, g.node? i = some n ∧ Outline.segments n.path = names := by
  constructor
  · intro hwalk
    have hi := h.outline.walk?_root.mp hwalk
    obtain ⟨n, hn⟩ := h.exists_node hi
    refine ⟨n, hn, ?_⟩
    rw [((h.made hn).name_path hi).2,
      Place.segments_path (h.clean.isName (List.mem_of_getElem? hi))]
  · rintro ⟨n, hn, rfl⟩
    exact h.walk?_path hn

/-- A node is found by its label, and by a path to it that is not the label of a node. -/
theorem find?_eq_some_iff (h : g.Shows l) {text : String} {i : Nat} :
    g.find? text = some i ↔ ∃ n, g.node? i = some n ∧ (n.label = some text ∨
      (∀ j m, g.node? j = some m → m.label ≠ some text) ∧ text.startsWith "/" = true ∧
        Outline.segments n.path = Outline.segments text) := by
  rw [Grammar.find?, Outline.find?]
  cases hlabel : g.outline.labelled? text with
  | some j =>
    obtain ⟨m, hm, hmlabel⟩ := h.labelled?_eq_some_iff.mp hlabel
    constructor
    · intro hji
      exact ⟨m, Option.some.inj hji ▸ hm, .inl hmlabel⟩
    · rintro ⟨n, hn, hnlabel | ⟨hfree, -⟩⟩
      · exact hlabel.symm.trans (h.labelled?_eq_some_iff.mpr ⟨n, hn, hnlabel⟩)
      · exact absurd hmlabel (hfree j m hm)
  | none =>
    have hfree (j : Nat) (m : Node σ ε) (hm : g.node? j = some m) : m.label ≠ some text := by
      intro hmlabel
      cases hlabel.symm.trans (h.labelled?_eq_some_iff.mpr ⟨m, hm, hmlabel⟩)
    dsimp only
    split
    · next hstarts =>
      rw [h.walk?_eq_some_iff]
      refine exists_congr fun n => and_congr_right fun hn => ?_
      rw [or_iff_right (hfree i n hn), and_iff_right hfree, and_iff_right hstarts]
    · next hstarts =>
      refine iff_of_false nofun ?_
      rintro ⟨n, hn, hnlabel | ⟨-, hslash, -⟩⟩
      · exact hfree i n hn hnlabel
      · exact hstarts hslash

theorem find?_label (h : g.Shows l) {i : Nat} {n : Node σ ε} (hn : g.node? i = some n)
    {label : String} (hlabel : n.label = some label) : g.find? label = some i :=
  h.find?_eq_some_iff.mpr ⟨n, hn, .inl hlabel⟩

theorem startsWith_path (h : g.Shows l) {i : Nat} {n : Node σ ε} (hn : g.node? i = some n) :
    n.path.startsWith "/" = true := by
  obtain ⟨place, hi⟩ := h.exists_place hn
  rw [((h.made hn).name_path hi).2]
  exact Place.startsWith_path place

/-- The path of a node leads to it if no other node has the path as its label. -/
theorem find?_path_iff (h : g.Shows l) {i : Nat} {n : Node σ ε} (hn : g.node? i = some n) :
    g.find? n.path = some i ↔ ∀ j m, g.node? j = some m → m.label = some n.path → j = i := by
  constructor
  · intro hi j m hm hlabel
    exact Option.some.inj ((h.find?_label hm hlabel).symm.trans hi)
  · intro hother
    by_cases hlabel : n.label = some n.path
    · exact h.find?_label hn hlabel
    · have hfree (j : Nat) (m : Node σ ε) (hm : g.node? j = some m) : m.label ≠ some n.path := by
        intro hmlabel
        obtain rfl := hother j m hm hmlabel
        exact hlabel (Option.some.inj (hn.symm.trans hm) ▸ hmlabel)
      exact h.find?_eq_some_iff.mpr ⟨n, hn, .inr ⟨hfree, h.startsWith_path hn, rfl⟩⟩

end Grammar.Shows

/-- In every grammar that is built, the path of a node leads to it exactly if it is the label of no
other node, and every label leads to its node, which stands where the label is declared. -/
theorem Builder.find?_of_build {b : Builder σ ε} {g : Grammar σ ε} (h : b.build = .ok g) :
    (∀ i n, g.node? i = some n → (g.find? n.path = some i ↔
      ∀ j m, g.node? j = some m → m.label = some n.path → j = i)) ∧
    (∀ i n label, g.node? i = some n → n.label = some label → g.find? label = some i) ∧
    ∀ label place, (label, place) ∈ b.listing.labels → ∃ i n, g.find? label = some i ∧
      g.node? i = some n ∧ n.path = Place.path place ∧ n.label = some label := by
  have hshows := b.shows_of_build h
  refine ⟨fun _ _ hn => hshows.find?_path_iff hn,
    fun _ _ _ hn hlabel => hshows.find?_label hn hlabel, ?_⟩
  intro label place hmem
  have hlabel : b.listing.labelled? label = some place :=
    (lookup_eq_some_iff_mem hshows.clean.labels).mpr hmem
  obtain ⟨i, -, hi⟩ := hshows.outline.labelled?_of_place hlabel
  obtain ⟨n, hn⟩ := hshows.exists_node hi
  have hnlabel := ((hshows.made hn).label_eq_some_iff hshows.clean hi).mpr hmem
  exact ⟨i, n, hshows.find?_label hn hnlabel, hn, ((hshows.made hn).name_path hi).2, hnlabel⟩

namespace Sample

/-- Three nodes with labels. That of the last one is the path of the first. -/
def hidden : Builder Unit String where
  elements := [
    .node { body := .literal, name := some "one", label := some "top" }
      [.node { body := .literal, name := some "two", label := some "deep" } []],
    .node { body := .literal, name := some "three", label := some "/one" } []]
  merges := []

theorem find?_hidden : ∃ g, hidden.build = .ok g ∧ g.nodes.toList.map (·.path) =
      ["/", "/one", "/one/two", "/three"] ∧
    (∃ n, g.node? 2 = some n ∧ n.path = "/one/two" ∧ n.label = some "deep") ∧
    g.find? "/one/two" = some 2 ∧ g.find? "deep" = some 2 ∧
    ∃ i n, g.find? "/one" = some i ∧ g.node? i = some n ∧ n.path = "/three" := by
  obtain ⟨g, hg, hval⟩ := hidden.exists_build
    (f := fun g => (g.nodes.toList.map (·.path), g.nodes.toList.map (·.label),
      (g.node? 2).map fun n => (n.path, n.label)))
    (v := (["/", "/one", "/one/two", "/three"], [none, some "top", some "deep", some "/one"],
      some ("/one/two", some "deep")))
    (by decide +kernel)
  obtain ⟨hpaths, hval⟩ := Prod.mk.inj hval
  obtain ⟨hlabels, hval⟩ := Prod.mk.inj hval
  obtain ⟨n, hn, hnode⟩ := Option.map_eq_some_iff.mp hval
  obtain ⟨hpath, hlabel⟩ := Prod.mk.inj hnode
  obtain ⟨hfind, hfindlabel, hdeclared⟩ := Builder.find?_of_build hg
  have hfree (j : Nat) (m : Node Unit String) (hm : g.node? j = some m) :
      m.label ≠ some "/one/two" := by
    have hmem : m.label ∈ g.nodes.toList.map (·.label) :=
      List.mem_map_of_mem (Array.mem_def.mp (Array.mem_of_getElem? hm))
    rw [hlabels] at hmem
    intro heq
    rw [heq] at hmem
    exact absurd hmem (by decide)
  have htwo : g.find? n.path = some 2 := (hfind 2 n hn).mpr fun j m hm heq =>
    absurd (hpath ▸ heq) (hfree j m hm)
  obtain ⟨i, m, hi, hm, hmpath, -⟩ := hdeclared "/one" ["three"] (by decide +kernel)
  exact ⟨g, hg, hpaths, ⟨n, hn, hpath, hlabel⟩, hpath ▸ htwo, hfindlabel 2 n "deep" hn hlabel,
    i, m, hi, hm, hmpath.trans (by decide +kernel)⟩

/-- The label takes the place of the path. -/
theorem path_hidden : ∃ g, hidden.build = .ok g ∧ (g.node? 1).map (·.path) = some "/one" ∧
    g.find? "/one" = some 3 ∧ ¬∀ i n, g.node? i = some n → g.find? n.path = some i := by
  obtain ⟨g, hg, hval⟩ := hidden.exists_build
    (f := fun g => ((g.node? 1).map (·.path), g.find? "/one")) (v := (some "/one", some 3))
    (by decide +kernel)
  obtain ⟨hnode, hfind⟩ := Prod.mk.inj hval
  refine ⟨g, hg, hnode, hfind, fun hall => ?_⟩
  obtain ⟨n, hn, hpath⟩ := Option.map_eq_some_iff.mp hnode
  have hone := hall 1 n hn
  rw [hpath, hfind] at hone
  cases hone

end Sample

end CommandGrammar
