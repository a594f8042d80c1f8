import CommandGrammar.Proofs.Showing

/-! The entries of elements by themselves. What an element lists depends on the list before it only
through the number of names that were made up in the node around it, as long as no two things stand
at one place. So the entries of elements can be told one element at a time. -/

namespace CommandGrammar

variable {σ ε : Type}

namespace Element

mutual

/-- How many names are made up for an element in the node that it is declared in. -/
def unnamed : Element σ ε → Nat
  | .node decl _ => if decl.name.isNone then 1 else 0
  | .link decl => if decl.name.isNone then 1 else 0
  | .group _ elements => unnamedAll elements

def unnamedAll : List (Element σ ε) → Nat
  | [] => 0
  | e :: es => e.unnamed + unnamedAll es

end

end Element

/-- The name in a node in which `k` names were made up before. -/
def Item.nameAfter (item : Item σ ε) (k : Nat) : String := item.name?.getD ("@" ++ toString k)

namespace Listing

open Element (unnamedAll)

mutual

/-- The entries of an element in the node at a place, in which `k` names were made up before. -/
def ofElement (place : List String) (inherited : Inherited σ) (k : Nat) :
    Element σ ε → Listing σ ε
  | .node decl elements =>
    let name := Item.nameAfter (.node decl inherited) k
    ⟨place, name, .node decl inherited⟩ :: ofElements (place ++ [name]) inherited 0 elements
  | .link decl => [⟨place, Item.nameAfter (.link decl : Item σ ε) k, .link decl⟩]
  | .group decl elements => ofElements place (inherited.inside decl) k elements

def ofElements (place : List String) (inherited : Inherited σ) (k : Nat) :
    List (Element σ ε) → Listing σ ε
  | [] => []
  | e :: es => ofElement place inherited k e ++ ofElements place inherited (k + e.unnamed) es

end

/-- No two things stand at one place. -/
def Distinct (l : Listing σ ε) : Prop := (l.map (·.place)).Nodup

/-- Everything is declared in a node that is listed too. -/
def Closed (l : Listing σ ε) : Prop := ∀ e ∈ l, e.parent ∈ l.places

/-! ### Where the entries of elements stand -/

theorem concat_not_prefix_self (place : List String) (name : String) :
    ¬place ++ [name] <+: place := by
  intro h
  have hle := h.length_le
  rw [List.length_append, List.length_singleton] at hle
  omega

mutual

theorem prefix_parent_of_mem_ofElement {place : List String} {inherited : Inherited σ} {k : Nat}
    {e : Element σ ε} {f : Entry σ ε} (h : f ∈ ofElement place inherited k e) :
    place <+: f.parent := by
  cases e with
  | node decl elements =>
    rw [ofElement] at h
    rcases List.mem_cons.mp h with rfl | h
    · exact List.prefix_rfl
    · exact (List.prefix_append _ _).trans (prefix_parent_of_mem_ofElements h)
  | link decl =>
    rw [ofElement] at h
    obtain rfl := List.mem_singleton.mp h
    exact List.prefix_rfl
  | group decl elements =>
    rw [ofElement] at h
    exact prefix_parent_of_mem_ofElements h

theorem prefix_parent_of_mem_ofElements {place : List String} {inherited : Inherited σ} {k : Nat}
    {es : List (Element σ ε)} {f : Entry σ ε} (h : f ∈ ofElements place inherited k es) :
    place <+: f.parent := by
  cases es with
  | nil =>
    rw [ofElements] at h
    cases h
  | cons e es =>
    rw [ofElements] at h
    rcases List.mem_append.mp h with h | h
    · exact prefix_parent_of_mem_ofElement h
    · exact prefix_parent_of_mem_ofElements h

end

/-- The elements of a node list nothing in other nodes than that one and those below it. -/
theorem under_ofElements_eq_nil {place other : List String} (h : ¬place <+: other)
    (inherited : Inherited σ) (k : Nat) (es : List (Element σ ε)) :
    (ofElements place inherited k es).under other = [] := by
  refine List.filter_eq_nil_iff.mpr fun f hf heq => h ?_
  exact beq_iff_eq.mp heq ▸ prefix_parent_of_mem_ofElements hf

theorem unnamed_append (l m : Listing σ ε) (place : List String) :
    (l ++ m : Listing σ ε).unnamed place = l.unnamed place + m.unnamed place := by
  rw [unnamed, under_append, List.countP_append]
  rfl

theorem unnamed_singleton (f : Entry σ ε) :
    unnamed [f] f.parent = if f.item.name?.isNone then 1 else 0 := by
  rw [unnamed, under, List.filter_singleton, beq_self_eq_true, cond_true, List.countP_singleton]

mutual

/-- The number of names that are made up for the elements of a node. -/
theorem unnamed_ofElement (place : List String) (inherited : Inherited σ) (k : Nat)
    (e : Element σ ε) : (ofElement place inherited k e).unnamed place = e.unnamed := by
  cases e with
  | node decl elements =>
    rw [ofElement, Element.unnamed, ← List.singleton_append, unnamed_append, unnamed_singleton,
      unnamed, under_ofElements_eq_nil (concat_not_prefix_self _ _)]
    rfl
  | link decl =>
    rw [ofElement, Element.unnamed, unnamed_singleton]
    rfl
  | group decl elements =>
    rw [ofElement, Element.unnamed]
    exact unnamed_ofElements place _ k elements

theorem unnamed_ofElements (place : List String) (inherited : Inherited σ) (k : Nat)
    (es : List (Element σ ε)) :
    (ofElements place inherited k es).unnamed place = unnamedAll es := by
  cases es with
  | nil => rw [ofElements, unnamedAll]; rfl
  | cons e es =>
    rw [ofElements, unnamed_append, unnamed_ofElement, unnamed_ofElements, unnamedAll]

end

/-! ### Elements behind other entries -/

theorem Distinct.shorter {l m : Listing σ ε} (h : m.Distinct) (hl : l <+: m) : l.Distinct :=
  h.sublist (hl.sublist.map _)

theorem closed_add {l : Listing σ ε} (h : l.Closed) {place : List String}
    (hplace : place ∈ l.places)
    (item : Item σ ε) : (l.add place item).Closed := by
  unfold Closed add
  rw [List.forall_mem_append, List.forall_mem_singleton, places_append]
  exact ⟨fun f hf => List.mem_append_left _ (h f hf), List.mem_append_left _ hplace⟩

theorem concat_mem_places_add (l : Listing σ ε) (place : List String) (decl : NodeDecl σ ε)
    (inherited : Inherited σ) :
    place ++ [l.chosenName place decl.name] ∈ (l.add place (.node decl inherited)).places := by
  rw [add, places_append]
  exact List.mem_append_right _ List.mem_cons_self

theorem mem_places_mono {l m : Listing σ ε} (h : l <+: m) {place : List String}
    (hplace : place ∈ l.places) : place ∈ m.places := by
  obtain ⟨rest, rfl⟩ := h
  rw [places_append]
  exact List.mem_append_left _ hplace

mutual

theorem closed_addElement {l : Listing σ ε} (h : l.Closed) {place : List String}
    (hplace : place ∈ l.places) (inherited : Inherited σ) (e : Element σ ε) :
    (addElement place inherited l e).Closed := by
  cases e with
  | node decl elements =>
    rw [addElement]
    exact closed_addElements (closed_add h hplace _) (concat_mem_places_add _ _ _ _) _ elements
  | link decl => rw [addElement]; exact closed_add h hplace _
  | group decl elements => rw [addElement]; exact closed_addElements h hplace _ elements

theorem closed_addElements {l : Listing σ ε} (h : l.Closed) {place : List String}
    (hplace : place ∈ l.places) (inherited : Inherited σ) (es : List (Element σ ε)) :
    (addElements place inherited l es).Closed := by
  cases es with
  | nil => rw [addElements]; exact h
  | cons e es =>
    rw [addElements]
    exact closed_addElements (closed_addElement h hplace _ e)
      (mem_places_mono (prefix_addElement _ _ _ e) hplace) _ es

end

/-- Nothing is declared yet in a node that is added to a list in which no two things stand at one
place. -/
theorem under_add_eq_nil {l : Listing σ ε} (h : l.Closed) {place : List String}
    {decl : NodeDecl σ ε} {inherited : Inherited σ}
    (hdistinct : (l.add place (.node decl inherited)).Distinct) :
    (l.add place (.node decl inherited)).under (place ++ [l.chosenName place decl.name]) = [] := by
  refine List.filter_eq_nil_iff.mpr fun f hf heq => ?_
  rw [beq_iff_eq] at heq
  rcases List.mem_append.mp hf with hf | hf
  · -- the node around `f` would stand at the place of the new one
    have hparent := h f hf
    rw [heq] at hparent
    obtain ⟨e, he, hplace⟩ := (mem_places.mp hparent).resolve_left (List.concat_ne_nil _ _)
    rw [Distinct, add, List.map_append, List.nodup_append] at hdistinct
    exact hdistinct.2.2 _ (List.mem_map_of_mem (mem_nodes.mp he).1) _ List.mem_cons_self hplace
  · obtain rfl := List.mem_singleton.mp hf
    exact List.cons_ne_nil _ _ (List.self_eq_append_right.mp heq)

theorem unnamed_add {l : Listing σ ε} (h : l.Closed) {place : List String} {decl : NodeDecl σ ε}
    {inherited : Inherited σ} (hdistinct : (l.add place (.node decl inherited)).Distinct) :
    (l.add place (.node decl inherited)).unnamed (place ++ [l.chosenName place decl.name]) = 0 := by
  rw [unnamed, under_add_eq_nil h hdistinct, List.countP_nil]

theorem append_ofElement_node (l : Listing σ ε) (place : List String) (inherited : Inherited σ)
    (decl : NodeDecl σ ε) (elements : List (Element σ ε)) :
    l ++ ofElement place inherited (l.unnamed place) (.node decl elements) =
      l.add place (.node decl inherited) ++
        ofElements (place ++ [l.chosenName place decl.name]) inherited 0 elements := by
  rw [ofElement, List.append_cons]
  rfl

mutual

/-- Elements that are added to a list list what they list by themselves, if in one of the two ways
no two things stand at one place. -/
theorem addElement_eq {l : Listing σ ε} (h : l.Closed) {place : List String}
    (hplace : place ∈ l.places) (inherited : Inherited σ) (e : Element σ ε)
    (hdistinct : (addElement place inherited l e).Distinct ∨
      Distinct (l ++ ofElement place inherited (l.unnamed place) e)) :
    addElement place inherited l e = l ++ ofElement place inherited (l.unnamed place) e := by
  cases e with
  | node decl elements =>
    rw [addElement, append_ofElement_node] at *
    have hadd : (l.add place (.node decl inherited)).Distinct := hdistinct.elim
      (·.shorter (prefix_addElements _ _ _ _)) (·.shorter (List.prefix_append _ _))
    have hzero := unnamed_add h hadd
    have heq := addElements_eq (closed_add h hplace _) (concat_mem_places_add _ _ _ _) inherited
      elements (hzero ▸ hdistinct)
    rw [hzero] at heq
    exact heq
  | link decl =>
    rw [addElement, ofElement]
    rfl
  | group decl elements =>
    rw [addElement, ofElement] at *
    exact addElements_eq h hplace _ elements hdistinct

theorem addElements_eq {l : Listing σ ε} (h : l.Closed) {place : List String}
    (hplace : place ∈ l.places) (inherited : Inherited σ) (es : List (Element σ ε))
    (hdistinct : (addElements place inherited l es).Distinct ∨
      Distinct (l ++ ofElements place inherited (l.unnamed place) es)) :
    addElements place inherited l es = l ++ ofElements place inherited (l.unnamed place) es := by
  cases es with
  | nil => rw [addElements, ofElements, List.append_nil]
  | cons e es =>
    rw [addElements, ofElements, ← List.append_assoc] at *
    have hfirst := addElement_eq h hplace inherited e (hdistinct.imp
      (·.shorter (prefix_addElements _ _ _ _)) (·.shorter (List.prefix_append _ _)))
    have hclosed := closed_addElement h hplace inherited e
    have hmem := mem_places_mono (prefix_addElement place inherited l e) hplace
    rw [hfirst] at hdistinct hclosed hmem ⊢
    have hcount : Listing.unnamed (l ++ ofElement place inherited (l.unnamed place) e) place =
        l.unnamed place + e.unnamed := by
      rw [unnamed_append, unnamed_ofElement]
    rw [← hcount] at hdistinct ⊢
    exact addElements_eq hclosed hmem inherited es hdistinct

end

end Listing

end CommandGrammar
