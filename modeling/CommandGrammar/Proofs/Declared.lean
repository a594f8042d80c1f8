import CommandGrammar.Proofs.Finishing

/-! Which declarations make a grammar. A grammar is built exactly if nothing is wrong with its
declaration, an error tells something that is wrong with it, and on the way no node and no alias
is looked up that is not there. -/

namespace CommandGrammar

variable {σ ε : Type}

/-! ### On the way to a grammar -/

/-- Every number in the draft is that of a node or of an alias. -/
structure Draft.InRange (d : Draft σ ε) : Prop where
  child_lt : ∀ n ∈ d.nodes, ∀ id ∈ n.node.children, id < d.nodes.size
  parent_lt : ∀ n ∈ d.nodes, ∀ id ∈ n.node.parent, id < d.nodes.size
  child_slot_lt : ∀ n ∈ d.nodes, ∀ id, .child id ∈ n.slots → id < d.nodes.size
  linked_slot_lt : ∀ n ∈ d.nodes, ∀ index, .linked index ∈ n.slots → index < d.aliases.size
  label_lt : ∀ a ∈ d.labels, a.2 < d.nodes.size

/-- What is still to be added, and to which node. -/
inductive Task (σ ε : Type) where
  | elements (parent : Nat) (inherited : Inherited σ) (elements : List (Element σ ε))
  | merges (base : Nat) (merges : List (Merge σ ε))

/-- The node to which something is to be added, or from which the targets of merges are seen. -/
def Task.node : Task σ ε → Nat
  | elements parent _ _ => parent
  | merges base _ => base

/-- On the way to the grammar of a declaration, a draft is met with a task in front. -/
inductive Builder.Meets [PatternDialect] (b : Builder σ ε) : Draft σ ε → Task σ ε → Prop
  | elements : Meets b .start (.elements 0 ⟨none, none, []⟩ b.elements)
  | inNode {d d' : Draft σ ε} {parent : Nat} {inherited : Inherited σ} {decl : NodeDecl σ ε}
      {elements rest : List (Element σ ε)} :
      Meets b d (.elements parent inherited (.node decl elements :: rest)) →
      d.addNode parent decl inherited = .ok d' →
      Meets b d' (.elements d.nodes.size inherited elements)
  | inGroup {d : Draft σ ε} {parent : Nat} {inherited : Inherited σ} {decl : GroupDecl σ}
      {elements rest : List (Element σ ε)} :
      Meets b d (.elements parent inherited (.group decl elements :: rest)) →
      Meets b d (.elements parent (inherited.inside decl) elements)
  | nextElement {d d' : Draft σ ε} {parent : Nat} {inherited : Inherited σ} {e : Element σ ε}
      {rest : List (Element σ ε)} :
      Meets b d (.elements parent inherited (e :: rest)) →
      Draft.addElement parent inherited d e = .ok d' → Meets b d' (.elements parent inherited rest)
  | merges {d : Draft σ ε} :
      Draft.addElements 0 ⟨none, none, []⟩ .start b.elements = .ok d →
      Meets b d (.merges 0 b.merges)
  | inMerge {d : Draft σ ε} {base id : Nat} {target : String} {elements : List (Element σ ε)}
      {merges rest : List (Merge σ ε)} :
      Meets b d (.merges base (.into target elements merges :: rest)) →
      (d.outline.locate? base target).filter (!d.isAction ·) = some id →
      Meets b d (.elements id ⟨none, none, []⟩ elements)
  | afterElements {d d' : Draft σ ε} {base id : Nat} {target : String}
      {elements : List (Element σ ε)} {merges rest : List (Merge σ ε)} :
      Meets b d (.merges base (.into target elements merges :: rest)) →
      (d.outline.locate? base target).filter (!d.isAction ·) = some id →
      Draft.addElements id ⟨none, none, []⟩ d elements = .ok d' → Meets b d' (.merges id merges)
  | nextMerge {d d' : Draft σ ε} {base : Nat} {m : Merge σ ε} {rest : List (Merge σ ε)} :
      Meets b d (.merges base (m :: rest)) → Draft.addMerge base d m = .ok d' →
      Meets b d' (.merges base rest)

namespace Draft

variable [PatternDialect] {d d' : Draft σ ε} {l : Listing σ ε}

theorem Answers.shows {ss : List (Listing.Search σ ε)} {r : Except GrammarError (Draft σ ε)}
    (h : Answers l ss r) (hr : r = .ok d) : d.Shows l := by
  subst hr
  cases h with
  | ok shows _ => exact shows

namespace Shows

theorem inRange (h : d.Shows l) : d.InRange := by
  have hnode : ∀ n ∈ d.nodes, ∃ (i : Nat) (place : List String),
      d.nodes[i]? = some n ∧ l.places[i]? = some place := by
    intro n hn
    obtain ⟨i, hi⟩ := Array.mem_iff_getElem?.mp hn
    have hlt : i < l.places.length := h.size ▸ (Array.getElem?_eq_some_iff.mp hi).1
    exact ⟨i, _, hi, List.getElem?_eq_getElem hlt⟩
  -- a slot stands for an entry, so its number is one of those of the list
  have hslot : ∀ n ∈ d.nodes, ∀ slot ∈ n.slots, ∃ e, l.Stands slot e := by
    intro n hn slot hslot
    obtain ⟨i, place, hi, hplace⟩ := hnode n hn
    obtain ⟨k, hk⟩ := List.mem_iff_getElem?.mp hslot
    obtain ⟨e, -, hstands⟩ := getElem?_of_forall₂ (h.below hi hplace).slots hk
    exact ⟨e, hstands⟩
  refine {
    child_lt := ?child
    parent_lt := ?parent
    child_slot_lt := ?child_slot
    linked_slot_lt := ?linked_slot
    label_lt := h.size ▸ h.outline.label_lt }
  case child =>
    intro n hn
    obtain ⟨i, place, hi, hplace⟩ := hnode n hn
    rw [h.size]
    exact (h.below hi hplace).children.lt_length
  case parent =>
    intro n hn id hid
    obtain ⟨i, place, hi, -⟩ := hnode n hn
    have hlt : i < d.nodes.size := (Array.getElem?_eq_some_iff.mp hi).1
    by_cases h0 : i = 0
    · subst h0
      rw [(h.made hi).root_eq.2.2] at hid
      cases hid
    · obtain ⟨p, e, -, hparent, hp, -⟩ := (h.made hi).exists_parent h0
      rw [hparent, Option.mem_some_iff] at hid
      omega
  case child_slot =>
    intro n hn id hid
    obtain ⟨e, hstands⟩ := hslot n hn _ hid
    cases hstands with
    | child isNode number => exact h.size ▸ (List.getElem?_eq_some_iff.mp number).1
  case linked_slot =>
    intro n hn index hindex
    obtain ⟨e, hstands⟩ := hslot n hn _ hindex
    cases hstands with
    | linked pending number =>
      rw [← h.aliases] at number
      exact (List.getElem?_eq_some_iff.mp number).1

/-- The nodes of a merge are found among those that are there. -/
theorem exists_place_of_merge (h : d.Shows l) {base id : Nat} {place : List String}
    (hi : l.places[base]? = some place) {target : String}
    (hid : (d.outline.locate? base target).filter (!d.isAction ·) = some id) :
    ∃ found, l.places[id]? = some found := by
  have heq := h.mergePlace?_eq hi target
  rw [hid, Option.map_some, eq_comm, Option.map_eq_some_iff] at heq
  obtain ⟨found, -, hfound⟩ := heq
  exact ⟨found, hfound.symm⟩

end Shows

end Draft

namespace Builder

variable [PatternDialect] {b : Builder σ ε}

/-- Every draft that is met shows a list, and the node of its task is in the list. -/
theorem Meets.shows {d : Draft σ ε} {t : Task σ ε} (h : b.Meets d t) :
    ∃ l, d.Shows l ∧ ∃ place, l.places[t.node]? = some place := by
  induction h with
  | elements => exact ⟨[], Draft.start_shows, [], rfl⟩
  | inNode _ hadd ih =>
    obtain ⟨l, hd, place, hi⟩ := ih
    exact ⟨_, (hd.addNode hi _ _).shows hadd, _, hd.number_add place _ _⟩
  | inGroup _ ih => exact ih
  | nextElement _ hadd ih =>
    obtain ⟨l, hd, place, hi⟩ := ih
    exact ⟨_, (hd.addElement _ hi _).shows hadd, place,
      Listing.places_mono (Listing.prefix_addElement _ _ _ _) hi⟩
  | merges hadd =>
    have hd := Draft.start_shows.addElements b.elements Listing.root_place ⟨none, none, []⟩
    exact ⟨_, hd.shows hadd, [], rfl⟩
  | inMerge _ hid ih =>
    obtain ⟨l, hd, place, hi⟩ := ih
    exact ⟨l, hd, hd.exists_place_of_merge hi hid⟩
  | afterElements _ hid hadd ih =>
    obtain ⟨l, hd, place, hi⟩ := ih
    obtain ⟨found, hfound⟩ := hd.exists_place_of_merge hi hid
    exact ⟨_, (hd.addElements _ hfound _).shows hadd, found,
      Listing.places_mono (Listing.prefix_addElements _ _ _ _) hfound⟩
  | nextMerge _ hadd ih =>
    obtain ⟨l, hd, place, hi⟩ := ih
    exact ⟨_, (hd.addMerge _ hi).shows hadd, place,
      Listing.places_mono (Listing.prefix_addMerge _ _ _) hi⟩

/-! ### Errors and declarations -/

theorem fault_of_clash {error : GrammarError} (h : b.listing.Clash error) : b.Fault error := by
  cases error with
  | mergeTarget target => exact h.elim
  | unresolvedAlias path target => exact h.elim
  | invalidGlob pattern error => exact h.elim
  | _ => exact h

/-- An error tells something that is wrong with the declaration. -/
theorem fault_of_build {error : GrammarError} (h : b.build = .error error) : b.Fault error := by
  rw [build_eq] at h
  have hanswers := Draft.answers_ofBuilder b
  rcases bind_error_iff.mp h with h | ⟨d, hd, h⟩
  · rw [h] at hanswers
    cases hanswers with
    | clash clash => exact fault_of_clash clash
    | missed mem fails => exact ⟨_, mem, rfl, fails⟩
  · obtain ⟨e, he, decl, item, hends⟩ := (hanswers.shows hd).finish_error h
    cases hends with
    | missing fails => exact ⟨e, he, decl, item, rfl, rfl, fails⟩
    | unreadable last_eq isGlob unreadable =>
      exact ⟨e, he, decl, _, item, rfl, last_eq, isGlob, unreadable⟩

theorem wellDeclared_of_build {g : Grammar σ ε} (h : b.build = .ok g) : b.WellDeclared := by
  rw [build_eq] at h
  obtain ⟨d, hd, h⟩ := bind_ok_iff.mp h
  have hanswers := Draft.answers_ofBuilder b
  rw [hd] at hanswers
  cases hanswers with
  | ok shows found =>
    have hclean := shows.clean
    exact ⟨hclean.given, hclean.nodup_names, hclean.labels, hclean.patterns, found,
      (shows.finish_ok h).2⟩

/-- Where an error tells the truth, something is wrong. -/
theorem not_wellDeclared_of_fault {error : GrammarError} (h : b.Fault error) :
    ¬b.WellDeclared := by
  intro hb
  cases error with
  | invalidName parent name =>
    obtain ⟨e, he, -, hname, hnot⟩ := h
    exact hnot (hb.names e he name hname)
  | duplicateChild parent name =>
    obtain ⟨place, -, hcount⟩ := h
    have hle := List.nodup_iff_count.mp (hb.distinct place) name
    omega
  | duplicateLabel label path =>
    obtain ⟨hcount, -⟩ := h
    have hle := List.nodup_iff_count.mp hb.labels label
    omega
  | invalidPattern path =>
    obtain ⟨e, he, -, hnot⟩ := h
    exact hnot (hb.patterns e he)
  | mergeTarget target =>
    obtain ⟨s, hs, -, hnot⟩ := h
    exact hnot (hb.merges s hs)
  | unresolvedAlias path target =>
    obtain ⟨e, he, decl, item, -, -, hnot⟩ := h
    exact hnot (hb.aliases e he decl item)
  | invalidGlob pattern error =>
    obtain ⟨e, he, decl, last, item, -, hlast, hglob, hread⟩ := h
    have hres := hb.aliases e he decl item
    obtain ⟨⟨glob, hok⟩, -⟩ := (Listing.resolves_iff_of_isGlob hlast hglob).mp hres
    cases hok.symm.trans hread

/-- A grammar is built exactly if nothing is wrong with its declaration, an error tells what is, and
no draft on the way has a number, or is given one, that stands for nothing. -/
theorem build_iff_wellDeclared (b : Builder σ ε) :
    ((∃ g, b.build = .ok g) ↔ b.WellDeclared) ∧
      (∀ error, b.build = .error error → b.Fault error) ∧
      ∀ d t, b.Meets d t → t.node < d.nodes.size ∧ d.InRange := by
  refine ⟨⟨fun ⟨g, h⟩ => wellDeclared_of_build h, fun hb => ?_⟩, fun _ => fault_of_build, ?_⟩
  · cases h : b.build with
    | ok g => exact ⟨g, rfl⟩
    | error error => exact absurd hb (not_wellDeclared_of_fault (fault_of_build h))
  · intro d t h
    obtain ⟨l, hd, place, hplace⟩ := h.shows
    exact ⟨hd.size ▸ (List.getElem?_eq_some_iff.mp hplace).1, hd.inRange⟩

end Builder

namespace Sample

/-- A declaration with two nodes of one name. -/
def twice : Builder Unit String where
  elements := [
    .node { body := .literal, name := some "tag" } [],
    .group { traversals := some 2 } [.node { body := .literal, name := some "tag" } []]]
  merges := []

theorem wellDeclared_tags : tags.WellDeclared ∧ ¬twice.WellDeclared ∧
    twice.build = .error (.duplicateChild "/" "tag") ∧
    twice.Fault (.duplicateChild "/" "tag") := by
  obtain ⟨g, hg, -⟩ := tags.exists_build (f := fun _ => ()) (v := ()) (by decide +kernel)
  have hends : (match twice.build with
      | .ok _ => none
      | .error error => some error) = some (.duplicateChild "/" "tag") := by decide +kernel
  have herror : twice.build = .error (.duplicateChild "/" "tag") := by
    split at hends
    · cases hends
    · next error h => rw [h, Option.some.inj hends]
  obtain ⟨htags, -⟩ := Builder.build_iff_wellDeclared tags
  obtain ⟨htwice, hfault, -⟩ := Builder.build_iff_wellDeclared twice
  refine ⟨htags.mp ⟨g, hg⟩, fun hwell => ?_, herror, hfault _ herror⟩
  obtain ⟨g', hg'⟩ := htwice.mpr hwell
  cases herror.symm.trans hg'

end Sample

end CommandGrammar
