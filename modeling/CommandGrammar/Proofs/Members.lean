import CommandGrammar.Proofs.Entries
import CommandGrammar.Proofs.Declared

/-! What is declared in each node. The members of a node are the elements in it, where a group is no
element of its own and stands for those in it. Behind them come the elements of merges into the
node, in the order in which merges are applied. All of this is told by the numbers of nodes, which
follow the declarations, and it is what the entries of the node list. -/

namespace CommandGrammar

variable {σ ε : Type}

namespace Element

/-- The name that the declaration gives, if it gives one. -/
def name? : Element σ ε → Option String
  | .node decl _ => decl.name
  | .link decl => decl.name
  | .group _ _ => none

mutual

/-- What an element declares in the node around it. -/
def members : Element σ ε → List (Element σ ε)
  | .node decl elements => [.node decl elements]
  | .link decl => [.link decl]
  | .group _ elements => membersAll elements

def membersAll : List (Element σ ε) → List (Element σ ε)
  | [] => []
  | e :: es => e.members ++ membersAll es

end

mutual

/-- The nodes declared in an element, each with the elements in it, in order. -/
def nodes : Element σ ε → List (NodeDecl σ ε × List (Element σ ε))
  | .node decl elements => (decl, elements) :: nodesAll elements
  | .link _ => []
  | .group _ elements => nodesAll elements

def nodesAll : List (Element σ ε) → List (NodeDecl σ ε × List (Element σ ε))
  | [] => []
  | e :: es => e.nodes ++ nodesAll es

end

/-- Members with their names, where `k` names were made up for the members in front of them. -/
def named (k : Nat) : List (Element σ ε) → List (String × Element σ ε)
  | [] => []
  | e :: es => (e.name?.getD ("@" ++ toString k), e) :: named (k + e.unnamed) es

theorem named_concat (k : Nat) (es : List (Element σ ε)) (e : Element σ ε) :
    named k (es ++ [e]) =
      named k es ++ [(e.name?.getD ("@" ++ toString (k + unnamedAll es)), e)] := by
  induction es generalizing k with
  | nil => rfl
  | cons f es ih =>
    rw [List.cons_append, named, named, ih, unnamedAll, Nat.add_assoc, List.cons_append]

end Element

/-! ### Merges by the numbers of nodes -/

namespace Draft

mutual

/-- The elements that a merge adds, each list with the number of the node that it is added to. -/
def additions (base : Nat) (d : Draft σ ε) : Merge σ ε → List (Nat × List (Element σ ε))
  | .into target elements merges =>
    match (d.outline.locate? base target).filter (!d.isAction ·) with
    | none => []
    | some id =>
      (id, elements) ::
        match addElements id ⟨none, none, []⟩ d elements with
        | .error _ => []
        | .ok d => additionsAll id d merges

def additionsAll (base : Nat) (d : Draft σ ε) : List (Merge σ ε) → List (Nat × List (Element σ ε))
  | [] => []
  | m :: ms =>
    additions base d m ++
      match addMerge base d m with
      | .error _ => []
      | .ok d => additionsAll base d ms

end

/-- What a merge adds at a node that is there: its elements, and what its own merges add. -/
theorem additions_into {base id : Nat} {d d₁ : Draft σ ε} {target : String}
    {elements : List (Element σ ε)} (merges : List (Merge σ ε))
    (hid : (d.outline.locate? base target).filter (!d.isAction ·) = some id)
    (hadd : addElements id ⟨none, none, []⟩ d elements = .ok d₁) :
    additions base d (.into target elements merges) =
      (id, elements) :: additionsAll id d₁ merges := by
  rw [additions, hid]
  dsimp only
  rw [hadd]

end Draft

/-- A declaration in which nodes are known by their numbers: the elements of the root, and lists of
elements that are added to nodes, in order. -/
structure Assembly (σ ε : Type) where
  elements : List (Element σ ε)
  additions : List (Nat × List (Element σ ε))

namespace Assembly

/-- The nodes behind the root, each with the elements in it. -/
def nodes (a : Assembly σ ε) : List (NodeDecl σ ε × List (Element σ ε)) :=
  Element.nodesAll a.elements ++ a.additions.flatMap fun added => Element.nodesAll added.2

/-- The elements that each node is declared with, that of the root first. -/
def blocks (a : Assembly σ ε) : List (List (Element σ ε)) := a.elements :: a.nodes.map (·.2)

/-- The elements that are added to a node. -/
def addedTo (a : Assembly σ ε) (i : Nat) : List (Element σ ε) :=
  (a.additions.filter (·.1 == i)).flatMap (·.2)

/-- What is declared in the node with a number: its own elements, and then those that are added. -/
def members (a : Assembly σ ε) (i : Nat) : List (Element σ ε) :=
  Element.membersAll ((a.blocks[i]?).getD [] ++ a.addedTo i)

/-- The declaration with more elements that are added. -/
def addAll (a : Assembly σ ε) (additions : List (Nat × List (Element σ ε))) : Assembly σ ε :=
  { a with additions := a.additions ++ additions }

end Assembly

/-- The declaration with the numbers of the nodes that merges add elements to. -/
def Builder.assembly (b : Builder σ ε) : Assembly σ ε where
  elements := b.elements
  additions :=
    match Draft.addElements 0 ⟨none, none, []⟩ Draft.start b.elements with
    | .error _ => []
    | .ok d => d.additionsAll 0 b.merges

namespace Element

theorem membersAll_append (es fs : List (Element σ ε)) :
    membersAll (es ++ fs) = membersAll es ++ membersAll fs := by
  induction es with
  | nil => rfl
  | cons e es ih => rw [List.cons_append, membersAll, membersAll, ih, List.append_assoc]

/-- What is declared in each of the nodes, before anything is added. -/
def rowsOf (ds : List (NodeDecl σ ε × List (Element σ ε))) : List (List (Element σ ε)) :=
  ds.map fun node => membersAll node.2

@[simp]
theorem rowsOf_append (ds ds' : List (NodeDecl σ ε × List (Element σ ε))) :
    rowsOf (ds ++ ds') = rowsOf ds ++ rowsOf ds' := List.map_append

@[simp]
theorem rowsOf_cons (d : NodeDecl σ ε × List (Element σ ε))
    (ds : List (NodeDecl σ ε × List (Element σ ε))) :
    rowsOf (d :: ds) = membersAll d.2 :: rowsOf ds := List.map_cons

end Element

namespace Listing

open Element (members membersAll nodesAll rowsOf rowsOf_append rowsOf_cons)

variable {l m : Listing σ ε} {ds ds' : List (NodeDecl σ ε × List (Element σ ε))}

/-! ### Entries and members -/

/-- The entry lists the member with its name. The nodes are declared one by one as they are
listed. -/
inductive Lists (l : Listing σ ε) (ds : List (NodeDecl σ ε × List (Element σ ε))) :
    Entry σ ε → String × Element σ ε → Prop
  | node {k : Nat} {e : Entry σ ε} {decl : NodeDecl σ ε} {inherited : Inherited σ}
      {elements : List (Element σ ε)} (entry : l.nodes[k]? = some e)
      (item : e.item = .node decl inherited) (declared : ds[k]? = some (decl, elements)) :
      Lists l ds e (e.name, .node decl elements)
  | link {e : Entry σ ε} {decl : AliasDecl} (item : e.item = .link decl) :
      Lists l ds e (e.name, .link decl)

theorem Lists.mono (hl : l <+: m) (hds : ds <+: ds') {e : Entry σ ε} {x : String × Element σ ε}
    (h : l.Lists ds e x) : m.Lists ds' e x := by
  cases h with
  | node entry item declared =>
    exact .node (getElem?_mono (hl.filter _) entry) item (getElem?_mono hds declared)
  | link item => exact .link item

theorem Lists.unnamed_eq {e : Entry σ ε} {x : String × Element σ ε} (h : l.Lists ds e x) :
    x.2.unnamed = if e.item.name?.isNone then 1 else 0 := by
  cases h with
  | node _ item _ => rw [item, Element.unnamed]; rfl
  | link item => rw [item, Element.unnamed]; rfl

/-- As many names are made up for the entries of a node as for its members. -/
theorem countP_eq_unnamedAll {entries : Listing σ ε} {k : Nat} {row : List (Element σ ε)}
    (h : List.Forall₂ (l.Lists ds) entries (Element.named k row)) :
    entries.countP (·.item.name?.isNone) = Element.unnamedAll row := by
  induction row generalizing entries k with
  | nil =>
    rw [Element.named, List.forall₂_nil_right_iff] at h
    rw [h, List.countP_nil, Element.unnamedAll]
  | cons e row ih =>
    rw [Element.named] at h
    cases h with
    | cons hfirst hrest =>
      have hunnamed := hfirst.unnamed_eq
      rw [List.countP_cons, ih hrest, Element.unnamedAll, hunnamed, Nat.add_comm]

/-! ### What is declared in each node -/

/-- The entries of each node list what is declared in the node with that number. -/
structure Records (l : Listing σ ε) (ds : List (NodeDecl σ ε × List (Element σ ε)))
    (rows : List (List (Element σ ε))) : Prop where
  length : ds.length = l.nodes.length
  rows_length : rows.length = l.places.length
  row : ∀ {i : Nat} {place : List String} {row : List (Element σ ε)}, l.places[i]? = some place →
    rows[i]? = some row → List.Forall₂ (l.Lists ds) (l.under place) (Element.named 0 row)

variable {rows : List (List (Element σ ε))} {p : Nat} {place : List String}

/-- An entry that is added lists one more member. -/
theorem Records.concat (h : l.Records ds rows) (hp : l.places[p]? = some place)
    (hnodup : l.places.Nodup) {item : Item σ ε} {e : Element σ ε} (hname : e.name? = item.name?)
    (hds : ds <+: ds')
    (hlists : (l.add place item).Lists ds' ⟨place, l.chosenName place item.name?, item⟩
      (l.chosenName place item.name?, e))
    {i : Nat} {other : List String} {row : List (Element σ ε)} (hi : l.places[i]? = some other)
    (hrow : (rows.modify p (· ++ [e]))[i]? = some row) :
    List.Forall₂ ((l.add place item).Lists ds') ((l.add place item).under other)
      (Element.named 0 row) := by
  rw [List.getElem?_modify, Option.map_eq_map, Option.map_eq_some_iff] at hrow
  obtain ⟨before, hbefore, rfl⟩ := hrow
  have hold := h.row hi hbefore
  have hmono := hold.imp fun _ _ => Lists.mono (prefix_add l place item) hds
  by_cases hip : p = i
  · subst hip
    obtain rfl : place = other := Option.some.inj (hp.symm.trans hi)
    have hcount : l.unnamed place = Element.unnamedAll before := countP_eq_unnamedAll hold
    rw [if_pos rfl, Element.named_concat, Nat.zero_add, ← hcount, hname, add,
      under_concat_self l ⟨place, l.chosenName place item.name?, item⟩]
    exact List.rel_append hmono (.cons hlists .nil)
  · have hne : place ≠ other := by
      rintro rfl
      have hlt := (List.getElem?_eq_some_iff.mp hp).1
      exact hip ((List.getElem?_inj hlt hnodup).mp (hp.trans hi.symm))
    rw [if_neg hip, add, under_concat_ne l hne]
    exact hmono

theorem Records.addLink (h : l.Records ds rows) (hp : l.places[p]? = some place)
    (hd : l.Distinct) (decl : AliasDecl) :
    (l.add place (.link decl)).Records ds (rows.modify p (· ++ [.link decl])) := by
  have hnodes : (l.add place (.link decl)).nodes = l.nodes := by
    rw [add, nodes_append]
    exact List.append_nil _
  have hplaces : (l.add place (.link decl)).places = l.places := by rw [places, places, hnodes]
  refine ⟨hnodes ▸ h.length, ?_, fun hi hrow => ?_⟩
  · rw [List.length_modify, h.rows_length, hplaces]
  · rw [hplaces] at hi
    exact h.concat hp (nodup_places_of_nodup hd) rfl List.prefix_rfl (.link rfl) hi hrow

theorem nodes_add_node (l : Listing σ ε) (place : List String) (decl : NodeDecl σ ε)
    (inherited : Inherited σ) : (l.add place (.node decl inherited)).nodes =
      l.nodes ++ [⟨place, l.chosenName place decl.name, .node decl inherited⟩] := by
  rw [add, nodes_append]
  rfl

theorem places_add_node (l : Listing σ ε) (place : List String) (decl : NodeDecl σ ε)
    (inherited : Inherited σ) : (l.add place (.node decl inherited)).places =
      l.places ++ [place ++ [l.chosenName place decl.name]] := by
  rw [add, places_append]
  rfl

theorem getElem?_places_add_node (l : Listing σ ε) (place : List String) (decl : NodeDecl σ ε)
    (inherited : Inherited σ) :
    (l.add place (.node decl inherited)).places[l.places.length]? =
      some (place ++ [l.chosenName place decl.name]) := by
  rw [places_add_node, List.getElem?_concat_length]

/-- Two lists that are as long as each other have their last elements at one position. -/
theorem getElem?_concat_cases {α β : Type} {as : List α} {bs : List β}
    (hlength : as.length = bs.length) {a x : α} {b y : β} {i : Nat}
    (hx : (as ++ [a])[i]? = some x) (hy : (bs ++ [b])[i]? = some y) :
    (as[i]? = some x ∧ bs[i]? = some y) ∨ (x = a ∧ y = b) := by
  rcases Nat.lt_or_ge i as.length with hlt | hle
  · rw [List.getElem?_append_left hlt] at hx
    rw [List.getElem?_append_left (hlength ▸ hlt)] at hy
    exact .inl ⟨hx, hy⟩
  · rw [List.getElem?_append_right hle, List.getElem?_singleton] at hx
    rw [List.getElem?_append_right (hlength ▸ hle), ← hlength, List.getElem?_singleton] at hy
    split at hx
    · next hzero =>
      rw [if_pos hzero] at hy
      exact .inr ⟨(Option.some.inj hx).symm, (Option.some.inj hy).symm⟩
    · cases hx

theorem Records.addNode (h : l.Records ds rows) (hc : l.Closed) (hp : l.places[p]? = some place)
    {decl : NodeDecl σ ε} {inherited : Inherited σ}
    (hd : (l.add place (.node decl inherited)).Distinct) (elements : List (Element σ ε)) :
    (l.add place (.node decl inherited)).Records (ds ++ [(decl, elements)])
      (rows.modify p (· ++ [.node decl elements]) ++ [[]]) := by
  have hlists : (l.add place (.node decl inherited)).Lists (ds ++ [(decl, elements)])
      ⟨place, l.chosenName place decl.name, .node decl inherited⟩
      (l.chosenName place decl.name, .node decl elements) := by
    refine .node (k := l.nodes.length) ?_ rfl ?_
    · rw [nodes_add_node, List.getElem?_concat_length]
    · rw [← h.length, List.getElem?_concat_length]
  refine ⟨?_, ?_, fun {i} other row hi hrow => ?_⟩
  · rw [nodes_add_node, List.length_append, List.length_append, h.length]
    rfl
  · rw [places_add_node, List.length_append, List.length_append, List.length_modify, h.rows_length]
    rfl
  · rw [places_add_node] at hi
    have hlength : l.places.length = (rows.modify p (· ++ [.node decl elements])).length := by
      rw [List.length_modify, h.rows_length]
    rcases getElem?_concat_cases hlength hi hrow with ⟨hi, hrow⟩ | ⟨rfl, rfl⟩
    · exact h.concat hp (nodup_places_of_nodup (hd.shorter (prefix_add _ _ _))) rfl
        (List.prefix_append _ _) hlists hi hrow
    · -- nothing is declared yet in the new node
      exact (under_add_eq_nil hc hd).symm ▸ .nil

theorem modify_append {α : Type} {f : α → α} {i : Nat} {as : List α} (h : i < as.length)
    (bs : List α) : (as ++ bs).modify i f = as.modify i f ++ bs := by
  induction as generalizing i with
  | nil => cases h
  | cons a as ih =>
    cases i with
    | zero => rfl
    | succ i => exact congrArg (a :: ·) (ih (Nat.lt_of_succ_lt_succ h))

theorem modify_concat {α : Type} (f : α → α) (as : List α) (a : α) :
    (as ++ [a]).modify as.length f = as ++ [f a] := by
  induction as with
  | nil => rfl
  | cons b as ih => exact congrArg (b :: ·) ih

mutual

/-- An element that is added to a node is one more member of it, if it is no group, and brings what
is declared in the nodes of the element. -/
theorem Records.addElement (e : Element σ ε) {l : Listing σ ε}
    {ds : List (NodeDecl σ ε × List (Element σ ε))} {rows : List (List (Element σ ε))} {p : Nat}
    {place : List String} (h : l.Records ds rows) (hc : l.Closed) (hp : l.places[p]? = some place)
    (inherited : Inherited σ) (hd : (addElement place inherited l e).Distinct) :
    (addElement place inherited l e).Records (ds ++ e.nodes)
      (rows.modify p (· ++ e.members) ++ rowsOf e.nodes) := by
  cases e with
  | node decl elements =>
    rw [Listing.addElement] at hd ⊢
    have hadd := h.addNode hc hp (hd.shorter (prefix_addElements _ _ _ elements)) elements
    have hlast := getElem?_places_add_node l place decl inherited
    have hrest := Records.addElements elements hadd
      (closed_add hc (List.mem_of_getElem? hp) _) hlast inherited hd
    have hlength : (rows.modify p (· ++ [.node decl elements])).length = l.places.length := by
      rw [List.length_modify, h.rows_length]
    rw [← hlength, modify_concat, List.nil_append, List.append_assoc, List.append_assoc] at hrest
    rw [Element.nodes, members, rowsOf_cons]
    exact hrest
  | link decl =>
    rw [Listing.addElement] at hd ⊢
    rw [Element.nodes, members, List.append_nil, rowsOf, List.map_nil, List.append_nil]
    exact h.addLink hp (hd.shorter (prefix_add _ _ _)) decl
  | group decl elements =>
    rw [Listing.addElement] at hd ⊢
    rw [Element.nodes, members]
    exact Records.addElements elements h hc hp _ hd

theorem Records.addElements (es : List (Element σ ε)) {l : Listing σ ε}
    {ds : List (NodeDecl σ ε × List (Element σ ε))} {rows : List (List (Element σ ε))} {p : Nat}
    {place : List String} (h : l.Records ds rows) (hc : l.Closed) (hp : l.places[p]? = some place)
    (inherited : Inherited σ) (hd : (addElements place inherited l es).Distinct) :
    (addElements place inherited l es).Records (ds ++ nodesAll es)
      (rows.modify p (· ++ membersAll es) ++ rowsOf (nodesAll es)) := by
  cases es with
  | nil =>
    have hsame : rows.modify p (· ++ []) = rows := by
      simp only [List.append_nil]
      exact List.modify_id p rows
    rw [Listing.addElements, nodesAll, membersAll, List.append_nil, hsame, rowsOf, List.map_nil,
      List.append_nil]
    exact h
  | cons e es =>
    rw [Listing.addElements] at hd ⊢
    have hfirst := Records.addElement e h hc hp inherited
      (hd.shorter (prefix_addElements _ _ _ es))
    have hrest := Records.addElements es hfirst
      (closed_addElement hc (List.mem_of_getElem? hp) inherited e)
      (places_mono (prefix_addElement _ _ _ e) hp) inherited hd
    have hlt : p < (rows.modify p (· ++ e.members)).length := by
      rw [List.length_modify, h.rows_length]
      exact (List.getElem?_eq_some_iff.mp hp).1
    rw [modify_append hlt, List.modify_modify_eq, List.append_assoc, List.append_assoc,
      ← rowsOf_append] at hrest
    rw [nodesAll, membersAll]
    simp only [← List.append_assoc] at hrest ⊢
    exact hrest

end

end Listing

/-! ### Merges -/

namespace Assembly

open Element (membersAll nodesAll rowsOf)

variable {a : Assembly σ ε} {i : Nat}

/-- What is declared in each node, that of the root first. -/
def rows (a : Assembly σ ε) : List (List (Element σ ε)) :=
  a.blocks.mapIdx fun i es => membersAll (es ++ a.addedTo i)

theorem length_rows : a.rows.length = a.blocks.length := List.length_mapIdx

theorem getElem?_rows (h : i < a.blocks.length) : a.rows[i]? = some (a.members i) := by
  rw [rows, List.getElem?_mapIdx, members, List.getElem?_eq_getElem h]
  rfl

/-- What is declared in each node if nothing is added. -/
theorem rows_of_nil (es : List (Element σ ε)) :
    (⟨es, []⟩ : Assembly σ ε).rows = membersAll es :: rowsOf (nodesAll es) := by
  have hnodes : (⟨es, []⟩ : Assembly σ ε).nodes = nodesAll es := List.append_nil _
  have hadded (i : Nat) : (⟨es, []⟩ : Assembly σ ε).addedTo i = [] := rfl
  rw [rows, blocks, hnodes, List.mapIdx_cons, hadded, List.append_nil, rowsOf]
  refine congrArg (membersAll es :: ·) (List.ext_getElem? fun j => ?_)
  rw [List.getElem?_mapIdx, List.getElem?_map, List.getElem?_map, Option.map_map]
  simp only [hadded, List.append_nil]
  rfl

theorem addAll_nil (a : Assembly σ ε) : a.addAll [] = a := by
  rw [addAll, List.append_nil]

theorem addAll_addAll (a : Assembly σ ε) (xs ys : List (Nat × List (Element σ ε))) :
    (a.addAll xs).addAll ys = a.addAll (xs ++ ys) := by
  rw [addAll, addAll, addAll, List.append_assoc]

theorem nodes_addAll_singleton (es : List (Element σ ε)) :
    (a.addAll [(i, es)]).nodes = a.nodes ++ nodesAll es := by
  rw [nodes, addAll, List.flatMap_append, List.flatMap_singleton, ← List.append_assoc]
  rfl

theorem blocks_addAll_singleton (es : List (Element σ ε)) :
    (a.addAll [(i, es)]).blocks = a.blocks ++ (nodesAll es).map (·.2) := by
  rw [blocks, nodes_addAll_singleton, List.map_append]
  rfl

theorem addedTo_addAll_singleton (es : List (Element σ ε)) (j : Nat) :
    (a.addAll [(i, es)]).addedTo j = a.addedTo j ++ if i = j then es else [] := by
  rw [addedTo, addAll, List.filter_append, List.flatMap_append, addedTo, List.append_right_inj]
  by_cases h : i = j
  · simp [h]
  · simp [h]

/-- Nothing is added to a node that is not there. -/
theorem addedTo_eq_nil (h : ∀ added ∈ a.additions, added.1 < i) : a.addedTo i = [] := by
  have hnone : a.additions.filter (·.1 == i) = [] := by
    refine List.filter_eq_nil_iff.mpr fun added hadded heq => ?_
    have hlt := h added hadded
    rw [beq_iff_eq.mp heq] at hlt
    exact Nat.lt_irrefl i hlt
  rw [addedTo, hnone, List.flatMap_nil]

/-- Elements that are added to a node are more members of it, and bring what is declared in their
nodes. -/
theorem rows_addAll_singleton (hi : i < a.blocks.length)
    (h : ∀ added ∈ a.additions, added.1 < a.blocks.length) (es : List (Element σ ε)) :
    (a.addAll [(i, es)]).rows =
      a.rows.modify i (· ++ membersAll es) ++ rowsOf (nodesAll es) := by
  rw [rows, blocks_addAll_singleton, List.mapIdx_append]
  congr 1
  · refine List.ext_getElem? fun j => ?_
    rw [List.getElem?_mapIdx, List.getElem?_modify, rows, List.getElem?_mapIdx, Option.map_eq_map,
      Option.map_map]
    congr 1
    funext block
    rw [addedTo_addAll_singleton]
    by_cases hij : i = j <;> simp [hij, Element.membersAll_append]
  · refine List.ext_getElem? fun j => ?_
    rw [List.getElem?_mapIdx, rowsOf, List.getElem?_map, List.getElem?_map, Option.map_map]
    congr 1
    funext block
    have hne : i ≠ j + a.blocks.length := by omega
    have hnil : a.addedTo (j + a.blocks.length) = [] :=
      addedTo_eq_nil fun added hadded => Nat.lt_of_lt_of_le (h added hadded) (Nat.le_add_left _ _)
    simp [addedTo_addAll_singleton, hne, hnil]

end Assembly

namespace Listing

/-- The entries list what the declaration with numbers declares, and it adds elements to nodes
only. -/
structure Assembles (l : Listing σ ε) (a : Assembly σ ε) : Prop where
  records : l.Records a.nodes a.rows
  inRange : ∀ added ∈ a.additions, added.1 < a.blocks.length

variable {l : Listing σ ε} {a : Assembly σ ε} {p : Nat} {place : List String}

theorem Assembles.length_blocks (h : l.Assembles a) : a.blocks.length = l.places.length :=
  Assembly.length_rows.symm.trans h.records.rows_length

theorem Assembles.addElements (h : l.Assembles a) (hc : l.Closed) (hp : l.places[p]? = some place)
    (es : List (Element σ ε)) (hd : (addElements place ⟨none, none, []⟩ l es).Distinct) :
    (addElements place ⟨none, none, []⟩ l es).Assembles (a.addAll [(p, es)]) where
  records := by
    have hlt : p < a.blocks.length :=
      h.length_blocks ▸ (List.getElem?_eq_some_iff.mp hp).1
    rw [Assembly.nodes_addAll_singleton, Assembly.rows_addAll_singleton hlt h.inRange]
    exact h.records.addElements es hc hp _ hd
  inRange := by
    have hlt : p < a.blocks.length :=
      h.length_blocks ▸ (List.getElem?_eq_some_iff.mp hp).1
    rw [Assembly.blocks_addAll_singleton, List.length_append, Assembly.addAll,
      List.forall_mem_append, List.forall_mem_singleton]
    exact ⟨fun added hadded => Nat.lt_add_right _ (h.inRange added hadded), Nat.lt_add_right _ hlt⟩

mutual

theorem Assembles.addMerge (m : Merge σ ε) {d d' : Draft σ ε} {l : Listing σ ε}
    {a : Assembly σ ε} {base : Nat} {place : List String} (h : l.Assembles a) (hd : d.Shows l)
    (hi : l.places[base]? = some place) (hok : Draft.addMerge base d m = .ok d') :
    (addMerge place l m).Assembles (a.addAll (d.additions base m)) := by
  cases m with
  | into target elements merges =>
    have heq := hd.mergePlace?_eq hi target
    rw [Draft.addMerge] at hok
    rw [Listing.addMerge]
    split at hok
    · cases hok
    · next id hid =>
      obtain ⟨d₁, hadd, hrest⟩ := bind_ok_iff.mp hok
      rw [hid, Option.map_some, eq_comm, Option.map_eq_some_iff] at heq
      obtain ⟨found, hplace, hfound⟩ := heq
      have hshows := (hd.addElements elements hfound.symm ⟨none, none, []⟩).shows hadd
      have hadded := h.addElements hd.clean.parents hfound.symm elements hshows.clean.distinct
      have hall := Assembles.addMerges merges hadded hshows
        (places_mono (prefix_addElements _ _ _ elements) hfound.symm) hrest
      rw [Assembly.addAll_addAll, List.singleton_append] at hall
      rw [hplace, Draft.additions_into merges hid hadd]
      exact hall

theorem Assembles.addMerges (ms : List (Merge σ ε)) {d d' : Draft σ ε} {l : Listing σ ε}
    {a : Assembly σ ε} {base : Nat} {place : List String} (h : l.Assembles a) (hd : d.Shows l)
    (hi : l.places[base]? = some place) (hok : Draft.addMerges base d ms = .ok d') :
    (addMerges place l ms).Assembles (a.addAll (d.additionsAll base ms)) := by
  cases ms with
  | nil =>
    rw [Listing.addMerges, Draft.additionsAll, Assembly.addAll_nil]
    exact h
  | cons m ms =>
    rw [Draft.addMerges] at hok
    obtain ⟨d₁, hfirst, hrest⟩ := bind_ok_iff.mp hok
    have hall := Assembles.addMerges ms (Assembles.addMerge m h hd hi hfirst)
      ((hd.addMerge m hi).shows hfirst) (places_mono (prefix_addMerge _ _ m) hi) hrest
    rw [Assembly.addAll_addAll] at hall
    rw [Listing.addMerges, Draft.additionsAll, hfirst]
    exact hall

end

end Listing

/-- What a grammar that is built lists is what is declared in each node. -/
theorem Builder.assembles_of_build {b : Builder σ ε} {g : Grammar σ ε} (h : b.build = .ok g) :
    b.listing.Assembles b.assembly := by
  obtain ⟨d, hd, -⟩ := bind_ok_iff.mp (b.build_eq ▸ h)
  obtain ⟨d₀, helements, hmerges⟩ := bind_ok_iff.mp hd
  have hshows := (Draft.start_shows.addElements b.elements Listing.root_place _).shows helements
  have hrecords : Listing.Records ([] : Listing σ ε) [] [[]] := by
    refine ⟨rfl, rfl, fun {i} place row _ hrow => ?_⟩
    obtain rfl : row = [] := List.mem_singleton.mp (List.mem_of_getElem? hrow)
    exact .nil
  have hall := hrecords.addElements b.elements (List.forall_mem_nil _) Listing.root_place
    ⟨none, none, []⟩ hshows.clean.distinct
  have hbase : (Listing.addElements [] ⟨none, none, []⟩ [] b.elements).Assembles
      ⟨b.elements, []⟩ := by
    refine ⟨?_, List.forall_mem_nil _⟩
    rw [Assembly.rows_of_nil, Assembly.nodes, List.flatMap_nil, List.append_nil]
    exact hall
  have hfinal := hbase.addMerges b.merges hshows Listing.root_place hmerges
  rw [assembly, helements]
  exact hfinal

end CommandGrammar
