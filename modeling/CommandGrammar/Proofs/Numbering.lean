import CommandGrammar.Proofs.Renumbering
import CommandGrammar.Proofs.Resembling

/-! Numbers in two lists of entries. If two lists have the same entries in each node, in the same
order, then they differ only in what stands between the entries of a node. The two grammars have the
same nodes under other numbers. -/

namespace CommandGrammar

variable {σ ε : Type}

namespace Listing

/-- In each node the same is listed in the same order. -/
def SameUnder (l m : Listing σ ε) : Prop := ∀ place, l.under place = m.under place

namespace SameUnder

variable {l m : Listing σ ε}

theorem refl (l : Listing σ ε) : l.SameUnder l := fun _ => rfl

theorem symm (h : l.SameUnder m) : m.SameUnder l := fun place => (h place).symm

theorem trans {k : Listing σ ε} (h : k.SameUnder l) (h' : l.SameUnder m) : k.SameUnder m :=
  fun place => (h place).trans (h' place)

theorem append {l' m' : Listing σ ε} (h : l.SameUnder m) (h' : l'.SameUnder m') :
    SameUnder (l ++ l') (m ++ m') := fun place => by
  rw [under_append, under_append, h place, h' place]

/-- Every entry is listed in its own node, so the lists have the same entries. -/
theorem perm (h : l.SameUnder m) : l.Perm m := by
  classical
  refine List.perm_iff_count.mpr fun e => ?_
  have hcount (k : Listing σ ε) : (k.under e.parent).count e = k.count e := by
    rw [under, List.count_filter]
    exact beq_self_eq_true e.parent
  rw [← hcount l, ← hcount m, h]

theorem targets_eq (h : l.SameUnder m) (names : List String) :
    l.targets names = m.targets names := by
  unfold targets
  simp only [h names.dropLast]

theorem flatMap_leads_eq (h : l.SameUnder m) (hl : (l.labels.map (·.1)).Nodup)
    (place : List String) : (l.under place).flatMap l.leads = (m.under place).flatMap m.leads := by
  rw [h place]
  refine List.flatMap_congr fun e _ => ?_
  unfold leads
  split
  · rfl
  · rw [denoted_eq_of_perm h.perm hl, h.targets_eq]

end SameUnder

/-! ### Numbers -/

/-- The number in the second list of the node that has the number in the first. -/
def numberIn (l m : Listing σ ε) (id : Nat) : Nat :=
  match l.places[id]? with
  | some place => m.places.idxOf place
  | none => id

theorem numberIn_of_place {l m : Listing σ ε} {id : Nat} {place : List String}
    (h : l.places[id]? = some place) : l.numberIn m id = m.places.idxOf place := by
  rw [numberIn, h]

theorem numberIn_of_length_le {l m : Listing σ ε} {id : Nat} (h : l.places.length ≤ id) :
    l.numberIn m id = id := by
  rw [numberIn, List.getElem?_eq_none h]

section

variable {l m : Listing σ ε} (hperm : l.Perm m)

include hperm

theorem getElem?_numberIn (id : Nat) : m.places[l.numberIn m id]? = l.places[id]? := by
  cases hid : l.places[id]? with
  | none =>
    have hle := List.getElem?_eq_none_iff.mp hid
    rw [numberIn_of_length_le hle]
    exact List.getElem?_eq_none ((places_perm hperm).length_eq ▸ hle)
  | some place =>
    have hmem : place ∈ m.places := (places_perm hperm).mem_iff.mp (List.mem_of_getElem? hid)
    rw [numberIn_of_place hid, List.getElem?_eq_getElem (List.idxOf_lt_length_of_mem hmem),
      List.getElem_idxOf]

theorem numberIn_numberIn (hl : l.Clean) (id : Nat) : m.numberIn l (l.numberIn m id) = id := by
  cases hid : l.places[id]? with
  | none =>
    have hle := List.getElem?_eq_none_iff.mp hid
    rw [numberIn_of_length_le hle, numberIn_of_length_le ((places_perm hperm).length_eq ▸ hle)]
  | some place =>
    have hplace := (getElem?_numberIn hperm id).trans hid
    rw [numberIn_of_place hplace]
    have hmem := List.mem_of_getElem? hid
    refine hl.number_inj ?_ hid
    rw [List.getElem?_eq_getElem (List.idxOf_lt_length_of_mem hmem), List.getElem_idxOf]

end

/-- The numbers in the second list of the nodes that have their numbers in the first. -/
def renumbering {l m : Listing σ ε} (hl : l.Clean) (hm : m.Clean) (hperm : l.Perm m) :
    Equiv.Perm Nat where
  toFun := l.numberIn m
  invFun := m.numberIn l
  left_inv := numberIn_numberIn hperm hl
  right_inv := numberIn_numberIn hperm.symm hm

theorem Numbers.map {l m : Listing σ ε} (hperm : l.Perm m) {ids : List Nat}
    {places : List (List String)} (h : l.Numbers ids places) :
    m.Numbers (ids.map (l.numberIn m)) places := by
  rw [Numbers, List.map_map, ← h]
  exact List.map_congr_left fun id _ => getElem?_numberIn hperm id

end Listing

theorem Node.eq_of_unnumbered_eq {n m : Node σ ε} (h : n.unnumbered = m.unnumbered) :
    m = { n with id := m.id, parent := m.parent, children := m.children, edges := m.edges } := by
  calc m = { m.unnumbered with
        id := m.id, parent := m.parent, children := m.children, edges := m.edges } := rfl
    _ = { n.unnumbered with
        id := m.id, parent := m.parent, children := m.children, edges := m.edges } := by rw [h]

namespace Grammar.Shows

variable {g g' : Grammar σ ε} {l m : Listing σ ε}

/-- Grammars of lists with the same entries in each node resemble each other, their nodes in the
same order. -/
theorem resembles_of_sameUnder (h : g.Shows l) (h' : g'.Shows m) (hsame : l.SameUnder m) :
    g.Resembles Eq g' :=
  h.resembles h' hsame.perm (fun place => by rw [hsame place]) fun place => by
    rw [hsame.flatMap_leads_eq h.clean.labels]

theorem parent_eq_map (h : g.Shows l) (h' : g'.Shows m) (hperm : l.Perm m) {i j : Nat}
    {n k : Node σ ε} {place : List String} (hn : g.node? i = some n) (hk : g'.node? j = some k)
    (hi : l.places[i]? = some place) (hj : m.places[j]? = some place) :
    k.parent = n.parent.map (l.numberIn m) := by
  have hroot : i = 0 ↔ place = [] :=
    ⟨fun h0 => by subst h0; exact (Option.some.inj hi).symm,
      fun hnil => h.clean.number_inj hi (hnil ▸ Listing.root_place)⟩
  have hroot' : j = 0 ↔ place = [] :=
    ⟨fun h0 => by subst h0; exact (Option.some.inj hj).symm,
      fun hnil => h'.clean.number_inj hj (hnil ▸ Listing.root_place)⟩
  by_cases h0 : place = []
  · rw [(h.parent_eq_none_iff hn).mpr (hroot.mpr h0),
      (h'.parent_eq_none_iff hk).mpr (hroot'.mpr h0)]
    rfl
  · obtain ⟨p, e, -, hp, -, hpplace, hiplace, -⟩ := (h.made hn).exists_parent (h0 ∘ hroot.mp)
    obtain ⟨q, f, -, hq, -, hqplace, hjplace, -⟩ := (h'.made hk).exists_parent (h0 ∘ hroot'.mp)
    have hplace : e.place = f.place := Option.some.inj
      (hiplace.symm.trans (hi.trans (hj.symm.trans hjplace)))
    have hparent := (Entry.place_inj.mp hplace).1
    rw [hp, hq, Option.map_some]
    refine congrArg some (h'.clean.number_inj hqplace ?_)
    rw [Listing.getElem?_numberIn hperm, hpplace, hparent]

/-- At one place the two grammars have the same node with other numbers. -/
theorem eq_renumber (h : g.Shows l) (h' : g'.Shows m) (hsame : l.SameUnder m) {i j : Nat}
    {n k : Node σ ε} {place : List String} (hn : g.node? i = some n) (hk : g'.node? j = some k)
    (hi : l.places[i]? = some place) (hj : m.places[j]? = some place) :
    k = n.renumber (Listing.renumbering h.clean h'.clean hsame.perm) := by
  have hid : k.id = l.numberIn m n.id := by
    rw [(h'.made hk).id_eq, (h.made hn).id_eq]
    exact h'.clean.number_inj hj ((Listing.getElem?_numberIn hsame.perm i).trans hi)
  have hparent := h.parent_eq_map h' hsame.perm hn hk hi hj
  have hchildren : k.children = n.children.map (l.numberIn m) := by
    refine h'.clean.numbers_inj (h'.children hk hj) ?_
    rw [← hsame place]
    exact (h.children hn hi).map hsame.perm
  have hedges : k.edges = n.edges.map (l.numberIn m) := by
    refine h'.clean.numbers_inj (h'.edges hk hj) ?_
    rw [← hsame.flatMap_leads_eq h.clean.labels]
    exact (h.edges hn hi).map hsame.perm
  rw [Node.eq_of_unnumbered_eq (h.unnumbered_eq h' hsame.perm hn hk hi hj), hid, hparent, hchildren,
    hedges]
  rfl

/-- The second grammar is the first with other numbers. -/
theorem renumbers (h : g.Shows l) (h' : g'.Shows m) (hsame : l.SameUnder m) :
    g.Renumbers (Listing.renumbering h.clean h'.clean hsame.perm) g' where
  root := h'.clean.number_inj (Listing.getElem?_numberIn hsame.perm 0) Listing.root_place
  node := by
    intro i
    change g'.node? (l.numberIn m i) = _
    have hj := Listing.getElem?_numberIn hsame.perm i
    cases hi : l.places[i]? with
    | none =>
      rw [hi, List.getElem?_eq_none_iff, ← h'.size] at hj
      rw [List.getElem?_eq_none_iff, ← h.size] at hi
      rw [node?, node?, Array.getElem?_eq_none hi, Array.getElem?_eq_none hj]
      rfl
    | some place =>
      rw [hi] at hj
      obtain ⟨n, hn⟩ := h.exists_node hi
      obtain ⟨k, hk⟩ := h'.exists_node hj
      rw [hn, hk, Option.map_some, h.eq_renumber h' hsame hn hk hi hj]
  labels := by
    intro label
    have hlabel := Listing.labelled?_eq_of_perm hsame.perm h.clean.labels label
    cases hplace : l.labelled? label with
    | none =>
      rw [h.outline.labelled?_eq_none hplace, h'.outline.labelled?_eq_none (hlabel ▸ hplace)]
      rfl
    | some place =>
      obtain ⟨i, hi, hiplace⟩ := h.outline.labelled?_of_place hplace
      obtain ⟨j, hj, hjplace⟩ := h'.outline.labelled?_of_place (hlabel ▸ hplace)
      rw [hi, hj, Option.map_some]
      refine congrArg some (h'.clean.number_inj hjplace ?_)
      exact (Listing.getElem?_numberIn hsame.perm i).trans hiplace

end Grammar.Shows

end CommandGrammar
