import CommandGrammar.Proofs.Numbering

/-! More elements at the end of a node. Where elements are put at the end of a node somewhere below,
each node lists what it did before, and the new elements list behind that what they list by
themselves. This is so as long as no two things stand at one place. -/

namespace CommandGrammar

variable {σ ε : Type}

namespace Element

mutual

/-- The element with more elements at the end of the node to which the names lead, from the node
that the element is declared in and in which `k` names were made up before. -/
def graft? (more : List (Element σ ε)) (k : Nat) (name : String) (rest : List String) :
    Element σ ε → Option (Element σ ε)
  | .node decl elements =>
    if decl.name.getD ("@" ++ toString k) = name then
      (match rest with
        | [] => some (elements ++ more)
        | next :: rest => graftAll? more 0 next rest elements).map (.node decl)
    else none
  | .link _ => none
  | .group grp elements => (graftAll? more k name rest elements).map (.group grp)

def graftAll? (more : List (Element σ ε)) (k : Nat) (name : String) (rest : List String) :
    List (Element σ ε) → Option (List (Element σ ε))
  | [] => none
  | e :: es =>
    match graft? more k name rest e with
    | some e' => some (e' :: es)
    | none => (graftAll? more (k + e.unnamed) name rest es).map (e :: ·)

end

/-- The elements of a node with more at the end of the node at a place, seen from that one. -/
def graftAt? (more es : List (Element σ ε)) : List String → Option (List (Element σ ε))
  | [] => some (es ++ more)
  | name :: rest => graftAll? more 0 name rest es

variable {more : List (Element σ ε)} {name : String} {rest : List String}

theorem graft?_node {k : Nat} {decl : NodeDecl σ ε} {elements : List (Element σ ε)}
    {e' : Element σ ε} :
    (Element.node decl elements).graft? more k name rest = some e' ↔
      decl.name.getD ("@" ++ toString k) = name ∧
        ∃ elements', graftAt? more elements rest = some elements' ∧ e' = .node decl elements' := by
  have heq : (Element.node decl elements).graft? more k name rest =
      if decl.name.getD ("@" ++ toString k) = name then
        (graftAt? more elements rest).map (.node decl)
      else none := by
    cases rest <;> rfl
  rw [heq, Option.ite_none_right_eq_some, Option.map_eq_some_iff]
  simp only [eq_comm]

theorem graft?_group {k : Nat} {grp : GroupDecl σ} {elements : List (Element σ ε)}
    {e' : Element σ ε} :
    (Element.group grp elements).graft? more k name rest = some e' ↔
      ∃ elements', graftAll? more k name rest elements = some elements' ∧
        e' = .group grp elements' := by
  rw [graft?, Option.map_eq_some_iff]
  simp only [eq_comm]

theorem graftAll?_cons {k : Nat} {e : Element σ ε} {es es' : List (Element σ ε)}
    (h : graftAll? more k name rest (e :: es) = some es') :
    (∃ e', e.graft? more k name rest = some e' ∧ es' = e' :: es) ∨
      ∃ es₁, graftAll? more (k + e.unnamed) name rest es = some es₁ ∧ es' = e :: es₁ := by
  rw [graftAll?] at h
  split at h
  · next e' he => exact .inl ⟨e', he, (Option.some.inj h).symm⟩
  · obtain ⟨es₁, hes, rfl⟩ := Option.map_eq_some_iff.mp h
    exact .inr ⟨es₁, hes, rfl⟩

mutual

/-- In the node around it as many names are made up for the element as before. -/
theorem unnamed_graft? {k : Nat} {e e' : Element σ ε}
    (h : e.graft? more k name rest = some e') : e'.unnamed = e.unnamed := by
  cases e with
  | node decl elements =>
    obtain ⟨-, elements', -, rfl⟩ := graft?_node.mp h
    rw [unnamed, unnamed]
  | link decl => rw [graft?] at h; cases h
  | group grp elements =>
    obtain ⟨elements', helements, rfl⟩ := graft?_group.mp h
    rw [unnamed, unnamed]
    exact unnamed_graftAll? helements

theorem unnamed_graftAll? {k : Nat} {es es' : List (Element σ ε)}
    (h : graftAll? more k name rest es = some es') : unnamedAll es' = unnamedAll es := by
  cases es with
  | nil => rw [graftAll?] at h; cases h
  | cons e es =>
    rcases graftAll?_cons h with ⟨e', he, rfl⟩ | ⟨es₁, hes, rfl⟩
    · rw [unnamedAll, unnamedAll, unnamed_graft? he]
    · rw [unnamedAll, unnamedAll, unnamed_graftAll? hes]

end

end Element

namespace Listing

open Element (unnamedAll graft? graftAll? graftAt?)

theorem ofElements_append (place : List String) (inherited : Inherited σ) (k : Nat)
    (es fs : List (Element σ ε)) :
    ofElements place inherited k (es ++ fs) =
      ofElements place inherited k es ++ ofElements place inherited (k + unnamedAll es) fs := by
  induction es generalizing k with
  | nil => rw [List.nil_append, ofElements, unnamedAll, List.nil_append, Nat.add_zero]
  | cons e es ih =>
    rw [List.cons_append, ofElements, ofElements, unnamedAll, ih, List.append_assoc, Nat.add_assoc]

/-- A node is listed in front of its elements. -/
theorem ofElement_node {decl : NodeDecl σ ε} {k : Nat} {name : String}
    (h : decl.name.getD ("@" ++ toString k) = name) (place : List String) (inherited : Inherited σ)
    (elements : List (Element σ ε)) :
    ofElement place inherited k (.node decl elements) =
      [⟨place, name, .node decl inherited⟩] ++
        ofElements (place ++ [name]) inherited 0 elements := by
  rw [ofElement, ← h]
  rfl

theorem under_singleton_eq_nil {e : Entry σ ε} {place : List String} (h : e.parent ≠ place) :
    under [e] place = [] := by
  rw [under, List.filter_singleton, beq_eq_false_iff_ne.mpr h, cond_false]

/-! ### What stands below a name -/

/-- Every entry is declared in the node at the place, or below one that is. -/
def Rooted (l : Listing σ ε) (place : List String) : Prop :=
  ∀ e ∈ l, e.parent = place ∨ ∃ f ∈ l, f.parent = place ∧ f.place <+: e.parent

variable {l m : Listing σ ε} {place : List String}

theorem Rooted.append (hl : l.Rooted place) (hm : m.Rooted place) : Rooted (l ++ m) place := by
  intro e he
  rcases List.mem_append.mp he with he | he
  · exact (hl e he).imp_right fun ⟨f, hf, h⟩ => ⟨f, List.mem_append_left _ hf, h⟩
  · exact (hm e he).imp_right fun ⟨f, hf, h⟩ => ⟨f, List.mem_append_right _ hf, h⟩

mutual

theorem rooted_ofElement (place : List String) (inherited : Inherited σ) (k : Nat)
    (e : Element σ ε) : (ofElement place inherited k e).Rooted place := by
  cases e with
  | node decl elements =>
    intro f hf
    rw [ofElement] at hf ⊢
    rcases List.mem_cons.mp hf with rfl | hf
    · exact .inl rfl
    · exact .inr ⟨_, List.mem_cons_self, rfl, prefix_parent_of_mem_ofElements hf⟩
  | link decl =>
    intro f hf
    rw [ofElement] at hf
    obtain rfl := List.mem_singleton.mp hf
    exact .inl rfl
  | group grp elements =>
    rw [ofElement]
    exact rooted_ofElements place _ k elements

theorem rooted_ofElements (place : List String) (inherited : Inherited σ) (k : Nat)
    (es : List (Element σ ε)) : (ofElements place inherited k es).Rooted place := by
  cases es with
  | nil => rw [ofElements]; exact List.forall_mem_nil _
  | cons e es =>
    rw [ofElements]
    exact (rooted_ofElement place inherited k e).append (rooted_ofElements place inherited _ es)

end

/-- If something stands under a name already, nothing else is listed below that name. -/
theorem Rooted.under_eq_nil (hm : m.Rooted place) (hd : Distinct (l ++ m)) {name : String}
    (hl : ∃ e ∈ l, e.place = place ++ [name]) {other : List String}
    (hother : place ++ [name] <+: other) : m.under other = [] := by
  obtain ⟨e, he, heplace⟩ := hl
  refine List.filter_eq_nil_iff.mpr fun f hf heq => ?_
  obtain rfl := beq_iff_eq.mp heq
  rcases hm f hf with hparent | ⟨top, htop, htopparent, hbelow⟩
  · rw [hparent] at hother
    exact concat_not_prefix_self place name hother
  · -- the entry at the top stands under the name too
    have hplace : top.place = place ++ [name] := by
      refine (List.prefix_of_prefix_length_le hbelow hother ?_).eq_of_length ?_ <;>
        simp [Entry.place, htopparent]
    rw [Distinct, List.map_append, List.nodup_append] at hd
    exact hd.2.2 _ (List.mem_map_of_mem he) _ (List.mem_map_of_mem htop)
      (heplace.trans hplace.symm)

theorem unnamed_eq_zero (h : l.under place = []) : l.unnamed place = 0 := by
  rw [unnamed, h, List.countP_nil]

/-! ### What more elements list -/

/-- The list with elements behind it that are declared in the node at a place. -/
def grafted (l : Listing σ ε) (place : List String) (more : List (Element σ ε)) : Listing σ ε :=
  l ++ ofElements place ⟨none, none, []⟩ (l.unnamed place) more

/-- A node at the place inherits nothing. -/
def Bare (l : Listing σ ε) (place : List String) : Prop :=
  ∀ e ∈ l, e.place = place → ∀ decl inherited, e.item = .node decl inherited →
    inherited = ⟨none, none, []⟩

theorem Bare.sublist (h : m.Bare place) (hl : l.Sublist m) : l.Bare place :=
  fun e he => h e (hl.subset he)

theorem grafted_append_left (hl : ∀ other, place <+: other → l.under other = [])
    (m : Listing σ ε) (more : List (Element σ ε)) :
    grafted (l ++ m) place more = l ++ m.grafted place more := by
  rw [grafted, grafted, unnamed_append, unnamed_eq_zero (hl place List.prefix_rfl), Nat.zero_add,
    List.append_assoc]

theorem SameUnder.grafted (h : l.SameUnder m) (place : List String)
    (more : List (Element σ ε)) : (l.grafted place more).SameUnder (m.grafted place more) := by
  have hcount : l.unnamed place = m.unnamed place := by rw [unnamed, unnamed, h place]
  rw [Listing.grafted, Listing.grafted, hcount]
  exact h.append (.refl _)

/-- It does not matter whether the elements are listed in front of what stands elsewhere. -/
theorem sameUnder_grafted_append (l : Listing σ ε)
    (hm : ∀ other, place <+: other → m.under other = []) (more : List (Element σ ε)) :
    SameUnder (l.grafted place more ++ m) (grafted (l ++ m) place more) := by
  intro other
  rw [grafted, grafted, unnamed_append, unnamed_eq_zero (hm place List.prefix_rfl), Nat.add_zero,
    under_append, under_append, under_append, under_append]
  by_cases hother : place <+: other
  · rw [hm other hother, List.append_nil, List.append_nil]
  · rw [under_ofElements_eq_nil hother, List.append_nil, List.append_nil]

/-- At the end of a node that inherits nothing. -/
theorem ofElements_append_eq_grafted (place : List String) (es more : List (Element σ ε)) :
    ofElements place ⟨none, none, []⟩ 0 (es ++ more) =
      (ofElements place ⟨none, none, []⟩ 0 es).grafted place more := by
  rw [grafted, ofElements_append, unnamed_ofElements, Nat.zero_add]

variable {more : List (Element σ ε)}

mutual

theorem exists_top_of_graft? {name : String} {rest : List String} {k : Nat} {e e' : Element σ ε}
    (h : e.graft? more k name rest = some e') (place : List String) (inherited : Inherited σ) :
    ∃ f ∈ ofElement place inherited k e, f.place = place ++ [name] := by
  cases e with
  | node decl elements =>
    obtain ⟨hname, -⟩ := Element.graft?_node.mp h
    rw [ofElement]
    exact ⟨_, List.mem_cons_self, congrArg (place ++ [·]) hname⟩
  | link decl => rw [graft?] at h; cases h
  | group grp elements =>
    obtain ⟨elements', helements, -⟩ := Element.graft?_group.mp h
    rw [ofElement]
    exact exists_top_of_graftAll? helements place _

theorem exists_top_of_graftAll? {name : String} {rest : List String} {k : Nat}
    {es es' : List (Element σ ε)}
    (h : graftAll? more k name rest es = some es') (place : List String)
    (inherited : Inherited σ) :
    ∃ f ∈ ofElements place inherited k es, f.place = place ++ [name] := by
  cases es with
  | nil => rw [graftAll?] at h; cases h
  | cons e es =>
    rw [ofElements]
    rcases Element.graftAll?_cons h with ⟨e', he, -⟩ | ⟨es₁, hes, -⟩
    · obtain ⟨f, hf, hplace⟩ := exists_top_of_graft? he place inherited
      exact ⟨f, List.mem_append_left _ hf, hplace⟩
    · obtain ⟨f, hf, hplace⟩ := exists_top_of_graftAll? hes place inherited
      exact ⟨f, List.mem_append_right _ hf, hplace⟩

end

theorem concat_prefix_of_cons {name : String} {rest place other : List String}
    (h : place ++ name :: rest <+: other) :
    place ++ [name] <+: other := by
  rw [List.append_cons] at h
  exact (List.prefix_append _ _).trans h

mutual

/-- Each node lists what it did before, and the node at the place what is new behind that. -/
theorem sameUnder_graft? {name : String} {rest : List String} {k : Nat} {e e' : Element σ ε}
    (h : e.graft? more k name rest = some e') {place : List String} {inherited : Inherited σ}
    (hd : (ofElement place inherited k e).Distinct)
    (hbare : (ofElement place inherited k e).Bare (place ++ name :: rest)) :
    SameUnder (ofElement place inherited k e')
      ((ofElement place inherited k e).grafted (place ++ name :: rest) more) := by
  cases e with
  | node decl elements =>
    obtain ⟨hname, elements', helements, rfl⟩ := Element.graft?_node.mp h
    rw [ofElement_node hname] at hd hbare
    -- the node itself is not declared at the place or below it
    have htop (other : List String) (hother : place ++ name :: rest <+: other) :
        under [(⟨place, name, .node decl inherited⟩ : Entry σ ε)] other = [] := by
      refine under_singleton_eq_nil fun hparent => ?_
      obtain rfl : place = other := hparent
      exact concat_not_prefix_self _ _ (concat_prefix_of_cons hother)
    rw [ofElement_node hname, ofElement_node hname, grafted_append_left htop]
    refine (SameUnder.refl [_]).append ?_
    cases rest with
    | nil =>
      obtain rfl := Option.some.inj helements
      obtain rfl := hbare _ List.mem_cons_self rfl decl inherited rfl
      rw [ofElements_append_eq_grafted]
      exact .refl _
    | cons next rest =>
      rw [List.append_cons place name (next :: rest)] at hbare ⊢
      exact sameUnder_graftAll? helements (hd.sublist ((List.sublist_append_right _ _).map _))
        (hbare.sublist (List.sublist_append_right _ _))
  | link decl => rw [graft?] at h; cases h
  | group grp elements =>
    obtain ⟨elements', helements, rfl⟩ := Element.graft?_group.mp h
    rw [ofElement] at *
    exact sameUnder_graftAll? helements hd hbare

theorem sameUnder_graftAll? {name : String} {rest : List String} {k : Nat}
    {es es' : List (Element σ ε)}
    (h : graftAll? more k name rest es = some es') {place : List String}
    {inherited : Inherited σ} (hd : (ofElements place inherited k es).Distinct)
    (hbare : (ofElements place inherited k es).Bare (place ++ name :: rest)) :
    SameUnder (ofElements place inherited k es')
      ((ofElements place inherited k es).grafted (place ++ name :: rest) more) := by
  cases es with
  | nil => rw [graftAll?] at h; cases h
  | cons e es =>
    rw [ofElements] at hd hbare ⊢
    rcases Element.graftAll?_cons h with ⟨e', he, rfl⟩ | ⟨es₁, hes, rfl⟩
    · -- what follows the element lists nothing below the name
      have hother (other : List String) (hother : place ++ name :: rest <+: other) :=
        (rooted_ofElements place inherited (k + e.unnamed) es).under_eq_nil hd
          (exists_top_of_graft? he place inherited) (concat_prefix_of_cons hother)
      rw [ofElements, Element.unnamed_graft? he]
      refine SameUnder.trans ?_ (sameUnder_grafted_append _ hother more)
      exact (sameUnder_graft? he (hd.sublist ((List.sublist_append_left _ _).map _))
        (hbare.sublist (List.sublist_append_left _ _))).append (.refl _)
    · have hother (other : List String) (hother : place ++ name :: rest <+: other) :=
        (rooted_ofElement place inherited k e).under_eq_nil
          ((distinct_iff_of_perm List.perm_append_comm).mp hd)
          (exists_top_of_graftAll? hes place inherited) (concat_prefix_of_cons hother)
      rw [ofElements, grafted_append_left hother]
      exact (SameUnder.refl _).append
        (sameUnder_graftAll? hes (hd.sublist ((List.sublist_append_right _ _).map _))
          (hbare.sublist (List.sublist_append_right _ _)))

end

mutual

/-- What was listed is still listed. -/
theorem sublist_graft? {name : String} {rest : List String} {k : Nat} {e e' : Element σ ε}
    (h : e.graft? more k name rest = some e') (place : List String) (inherited : Inherited σ) :
    (ofElement place inherited k e).Sublist (ofElement place inherited k e') := by
  cases e with
  | node decl elements =>
    obtain ⟨-, elements', helements, rfl⟩ := Element.graft?_node.mp h
    rw [ofElement, ofElement]
    refine List.Sublist.cons_cons _ ?_
    cases rest with
    | nil =>
      obtain rfl := Option.some.inj helements
      rw [ofElements_append]
      exact List.sublist_append_left _ _
    | cons next rest => exact sublist_graftAll? helements _ _
  | link decl => rw [graft?] at h; cases h
  | group grp elements =>
    obtain ⟨elements', helements, rfl⟩ := Element.graft?_group.mp h
    rw [ofElement, ofElement]
    exact sublist_graftAll? helements place _

theorem sublist_graftAll? {name : String} {rest : List String} {k : Nat}
    {es es' : List (Element σ ε)} (h : graftAll? more k name rest es = some es')
    (place : List String) (inherited : Inherited σ) :
    (ofElements place inherited k es).Sublist (ofElements place inherited k es') := by
  cases es with
  | nil => rw [graftAll?] at h; cases h
  | cons e es =>
    rcases Element.graftAll?_cons h with ⟨e', he, rfl⟩ | ⟨es₁, hes, rfl⟩
    · rw [ofElements, ofElements, Element.unnamed_graft? he]
      exact (sublist_graft? he place inherited).append_right _
    · rw [ofElements, ofElements]
      exact (sublist_graftAll? hes place inherited).append_left _

end

mutual

/-- More elements can be put at the end of every node that is listed. -/
theorem isSome_graft? {name : String} {rest place : List String} {inherited : Inherited σ}
    {k : Nat} {e : Element σ ε} {f : Entry σ ε} (hf : f ∈ ofElement place inherited k e)
    (hnode : f.isNode = true) (hplace : f.place = place ++ name :: rest) :
    (e.graft? more k name rest).isSome = true := by
  cases e with
  | node decl elements =>
    rw [ofElement] at hf
    rcases List.mem_cons.mp hf with rfl | hf
    · obtain ⟨hname, rfl⟩ := List.cons.inj (List.append_cancel_left hplace)
      exact Option.isSome_of_eq_some (Element.graft?_node.mpr ⟨hname, _, rfl, rfl⟩)
    · -- the place is one below the node, so its first name is that of the node
      obtain ⟨other, hparent⟩ := prefix_parent_of_mem_ofElements hf
      obtain ⟨next, below, hbelow⟩ := List.exists_cons_of_ne_nil (List.concat_ne_nil f.name other)
      have hsplit : f.place = place ++ Item.nameAfter (.node decl inherited : Item σ ε) k ::
          next :: below := by
        rw [Entry.place, ← hparent, List.append_assoc, hbelow, List.append_assoc,
          List.singleton_append]
      obtain ⟨hname, rfl⟩ := List.cons.inj (List.append_cancel_left (hsplit.symm.trans hplace))
      rw [List.append_cons] at hsplit
      have hsome : (graftAll? more 0 next below elements).isSome = true :=
        isSome_graftAll? hf hnode hsplit
      obtain ⟨elements', helements⟩ := Option.isSome_iff_exists.mp hsome
      exact Option.isSome_of_eq_some (Element.graft?_node.mpr ⟨hname, _, helements, rfl⟩)
  | link decl =>
    rw [ofElement] at hf
    obtain rfl := List.mem_singleton.mp hf
    cases hnode
  | group grp elements =>
    rw [ofElement] at hf
    rw [graft?, Option.isSome_map]
    exact isSome_graftAll? hf hnode hplace

theorem isSome_graftAll? {name : String} {rest place : List String} {inherited : Inherited σ}
    {k : Nat} {es : List (Element σ ε)} {f : Entry σ ε} (hf : f ∈ ofElements place inherited k es)
    (hnode : f.isNode = true) (hplace : f.place = place ++ name :: rest) :
    (graftAll? more k name rest es).isSome = true := by
  cases es with
  | nil => rw [ofElements] at hf; cases hf
  | cons e es =>
    rw [ofElements] at hf
    rw [graftAll?]
    split
    · rfl
    · next hnone =>
      rcases List.mem_append.mp hf with hf | hf
      · have hsome : (e.graft? more k name rest).isSome = true := isSome_graft? hf hnode hplace
        rw [hnone] at hsome
        cases hsome
      · rw [Option.isSome_map]
        exact isSome_graftAll? hf hnode hplace

end

/-! ### From the root -/

/-- More elements can be put at the end of the root and of every node that is listed. -/
theorem exists_graftAt? {es : List (Element σ ε)} {place : List String}
    (h : place ∈ (ofElements [] ⟨none, none, []⟩ 0 es).places) (more : List (Element σ ε)) :
    ∃ es', graftAt? more es place = some es' := by
  cases place with
  | nil => exact ⟨_, rfl⟩
  | cons name rest =>
    obtain ⟨f, hf, hplace⟩ := (mem_places.mp h).resolve_left (List.cons_ne_nil _ _)
    obtain ⟨hf, hnode⟩ := mem_nodes.mp hf
    exact Option.isSome_iff_exists.mp (isSome_graftAll? hf hnode hplace)

variable {es es' : List (Element σ ε)} (h : graftAt? more es place = some es')

include h

theorem sublist_graftAt? :
    (ofElements [] ⟨none, none, []⟩ 0 es).Sublist (ofElements [] ⟨none, none, []⟩ 0 es') := by
  cases place with
  | nil =>
    obtain rfl := Option.some.inj h
    rw [ofElements_append]
    exact List.sublist_append_left _ _
  | cons name rest => exact sublist_graftAll? h _ _

theorem sameUnder_graftAt? (hd : (ofElements [] ⟨none, none, []⟩ 0 es).Distinct)
    (hbare : (ofElements [] ⟨none, none, []⟩ 0 es).Bare place) :
    SameUnder (ofElements [] ⟨none, none, []⟩ 0 es')
      ((ofElements [] ⟨none, none, []⟩ 0 es).grafted place more) := by
  cases place with
  | nil =>
    obtain rfl := Option.some.inj h
    rw [ofElements_append_eq_grafted]
    exact .refl _
  | cons name rest => exact sameUnder_graftAll? h hd hbare

end Listing

end CommandGrammar
