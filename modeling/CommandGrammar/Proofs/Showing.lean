import CommandGrammar.Proofs.Listing
import Mathlib.Data.List.Nodup

/-! What an outline shows of a listing. The nodes of a grammar have the numbers that they have in
the list of places, so a number and a place tell the same, and looking for a node by its label or
by the names on the way to it is looking for its place. -/

namespace CommandGrammar

variable {σ ε : Type}

namespace Entry

theorem place_ne_nil (e : Entry σ ε) : e.place ≠ [] := List.concat_ne_nil e.name e.parent

theorem place_inj {e f : Entry σ ε} : e.place = f.place ↔ e.parent = f.parent ∧ e.name = f.name :=
  List.append_singleton_inj

theorem item_of_isNode {e : Entry σ ε} (h : e.isNode = true) :
    ∃ decl inherited, e.item = .node decl inherited := by
  unfold isNode at h
  split at h
  · next decl inherited item => exact ⟨decl, inherited, item⟩
  · cases h

theorem item_of_pending? {e : Entry σ ε} {a : PendingAlias} (h : e.pending? = some a) :
    ∃ decl, e.item = .link decl ∧ a = ⟨Place.path e.place, decl.target⟩ := by
  unfold pending? at h
  split at h
  · cases h
  · next decl item => exact ⟨decl, item, (Option.some.inj h).symm⟩

theorem name_eq_of_place {e : Entry σ ε} : e.place.getLast?.getD "" = e.name := by
  rw [place, List.getLast?_concat, Option.getD_some]

end Entry

namespace Listing

/-- The aliases that have to be resolved. -/
def pending (l : Listing σ ε) : List PendingAlias := l.filterMap (·.pending?)

/-- The numbers are those of the nodes at the places. -/
def Numbers (l : Listing σ ε) (ids : List Nat) (places : List (List String)) : Prop :=
  ids.map (l.places[·]?) = places.map some

/-! ### Lists with nothing wrong -/

/-- Nothing is wrong with the entries, one by one and beside each other. -/
structure Clean [PatternDialect] (l : Listing σ ε) : Prop where
  parents : ∀ e ∈ l, e.parent ∈ l.places
  given : ∀ e ∈ l, ∀ name ∈ e.item.name?, IsName name
  names : ∀ e ∈ l, ∀ name ∈ e.place, IsName name
  distinct : (l.map (·.place)).Nodup
  labels : (l.labels.map (·.1)).Nodup
  patterns : ∀ e ∈ l, e.HasPattern

theorem root_place {l : Listing σ ε} : l.places[0]? = some [] := rfl

theorem mem_places {l : Listing σ ε} {place : List String} :
    place ∈ l.places ↔ place = [] ∨ ∃ e ∈ l.nodes, e.place = place := by
  rw [places, List.mem_cons, List.mem_map]

theorem mem_under {l : Listing σ ε} {place : List String} {e : Entry σ ε} :
    e ∈ l.under place ↔ e ∈ l ∧ e.parent = place := by
  rw [under, List.mem_filter, beq_iff_eq]

theorem mem_nodes {l : Listing σ ε} {e : Entry σ ε} : e ∈ l.nodes ↔ e ∈ l ∧ e.isNode = true :=
  List.mem_filter

/-- The children of a node are the nodes one name further. -/
theorem concat_mem_places {l : Listing σ ε} {place : List String} {name : String} :
    place ++ [name] ∈ l.places ↔ ∃ e ∈ (l.under place).nodes, e.name = name := by
  rw [mem_places, or_iff_right (List.concat_ne_nil name place)]
  constructor
  · rintro ⟨e, he, hplace⟩
    obtain ⟨hparent, hname⟩ := List.append_singleton_inj.mp hplace
    rw [mem_nodes] at he
    exact ⟨e, mem_nodes.mpr ⟨mem_under.mpr ⟨he.1, hparent⟩, he.2⟩, hname⟩
  · rintro ⟨e, he, rfl⟩
    obtain ⟨he, hnode⟩ := mem_nodes.mp he
    obtain ⟨hmem, rfl⟩ := mem_under.mp he
    exact ⟨e, mem_nodes.mpr ⟨hmem, hnode⟩, rfl⟩

theorem nodup_places_of_nodup {l : Listing σ ε} (h : (l.map (·.place)).Nodup) : l.places.Nodup := by
  refine List.nodup_cons.mpr ⟨?_, h.sublist (List.filter_sublist.map _)⟩
  rintro hnil
  obtain ⟨e, -, he⟩ := List.mem_map.mp hnil
  exact e.place_ne_nil he

/-! ### Numbers -/

namespace Numbers

variable {l : Listing σ ε} {ids : List Nat}

theorem exists_place {places : List (List String)} (h : l.Numbers ids places) {id : Nat}
    (hid : id ∈ ids) : ∃ place ∈ places, l.places[id]? = some place := by
  have hmem : l.places[id]? ∈ places.map some := h ▸ List.mem_map_of_mem hid
  obtain ⟨place, hplace, heq⟩ := List.mem_map.mp hmem
  exact ⟨place, hplace, heq.symm⟩

theorem lt_length {places : List (List String)} (h : l.Numbers ids places) :
    ∀ id ∈ ids, id < l.places.length := by
  intro id hid
  obtain ⟨place, -, hplace⟩ := h.exists_place hid
  exact (List.getElem?_eq_some_iff.mp hplace).1

theorem nodup {places : List (List String)} (h : l.Numbers ids places)
    (hplaces : places.Nodup) : ids.Nodup := by
  have hnodup : (places.map some).Nodup := hplaces.map fun _ _ => Option.some.inj
  rw [← h] at hnodup
  exact hnodup.of_map _

theorem exists_entry {entries : Listing σ ε} (h : l.Numbers ids (entries.map (·.place)))
    {id : Nat} (hid : id ∈ ids) : ∃ e ∈ entries, l.places[id]? = some e.place := by
  obtain ⟨place, hplace, hid⟩ := h.exists_place hid
  obtain ⟨e, he, rfl⟩ := List.mem_map.mp hplace
  exact ⟨e, he, hid⟩

theorem exists_number {entries : Listing σ ε} (h : l.Numbers ids (entries.map (·.place)))
    {e : Entry σ ε} (he : e ∈ entries) : ∃ id ∈ ids, l.places[id]? = some e.place := by
  have hmem : some e.place ∈ ids.map (l.places[·]?) :=
    h ▸ List.mem_map_of_mem (List.mem_map_of_mem he)
  exact List.mem_map.mp hmem

end Numbers

/-! ### What follows from there being nothing wrong -/

namespace Clean

variable [PatternDialect] {l : Listing σ ε}

theorem isName (h : l.Clean) {place : List String} (hplace : place ∈ l.places) :
    ∀ name ∈ place, IsName name := by
  rcases mem_places.mp hplace with rfl | ⟨e, he, rfl⟩
  · exact nofun
  · exact h.names e (mem_nodes.mp he).1

theorem nodup_places (h : l.Clean) : l.places.Nodup := nodup_places_of_nodup h.distinct

/-- Every node has one number. -/
theorem number_inj (h : l.Clean) {i j : Nat} {place : List String} (hi : l.places[i]? = some place)
    (hj : l.places[j]? = some place) : i = j :=
  (List.getElem?_inj (List.getElem?_eq_some_iff.mp hi).1 h.nodup_places).mp (hi.trans hj.symm)

/-- A node stands below nodes only. -/
theorem mem_places_of_append (h : l.Clean) {front rest : List String}
    (hplace : front ++ rest ∈ l.places) : front ∈ l.places := by
  induction rest using List.reverseRecOn with
  | nil => rwa [List.append_nil] at hplace
  | append_singleton rest name ih =>
    rw [← List.append_assoc, concat_mem_places] at hplace
    obtain ⟨e, he, -⟩ := hplace
    obtain ⟨he, hparent⟩ := mem_under.mp (mem_nodes.mp he).1
    exact ih (hparent ▸ h.parents e he)

/-- Only in a node is something declared. -/
theorem under_eq_nil (h : l.Clean) {place : List String} (hplace : place ∉ l.places) :
    l.under place = [] :=
  List.filter_eq_nil_iff.mpr fun e he heq => hplace (beq_iff_eq.mp heq ▸ h.parents e he)

/-- No two entries of a node have one name. -/
theorem nodup_names (h : l.Clean) (place : List String) :
    ((l.under place).map (·.name)).Nodup := by
  have hunder : ((l.under place).map (·.place)).Nodup :=
    h.distinct.sublist (List.filter_sublist.map _)
  have hplaces : (l.under place).map (·.place) =
      ((l.under place).map (·.name)).map (place ++ [·]) := by
    rw [List.map_map]
    refine List.map_congr_left fun e he => ?_
    rw [Function.comp, ← (mem_under.mp he).2]
    rfl
  rw [hplaces] at hunder
  exact hunder.of_map _

/-- An entry can be added in a node, under a name and with a label that are free. -/
theorem concat (h : l.Clean) {e : Entry σ ε} (parent : e.parent ∈ l.places)
    (given : ∀ name ∈ e.item.name?, IsName name) (name : IsName e.name)
    (free : e.name ∉ (l.under e.parent).map (·.name))
    (label : ∀ label ∈ e.label?, label ∉ l.labels.map (·.1)) (pattern : e.HasPattern) :
    (l ++ [e] : Listing σ ε).Clean where
  parents := by
    rw [List.forall_mem_append, List.forall_mem_singleton, places_append]
    exact ⟨fun f hf => List.mem_append_left _ (h.parents f hf), List.mem_append_left _ parent⟩
  given := List.forall_mem_append.mpr ⟨h.given, List.forall_mem_singleton.mpr given⟩
  names := by
    rw [List.forall_mem_append, List.forall_mem_singleton, Entry.place, List.forall_mem_append,
      List.forall_mem_singleton]
    exact ⟨h.names, h.isName parent, name⟩
  distinct := by
    rw [List.map_append, List.nodup_append]
    refine ⟨h.distinct, List.nodup_singleton _, ?_⟩
    rintro place hplace _ hmem rfl
    obtain rfl := List.mem_singleton.mp hmem
    obtain ⟨f, hf, heq⟩ := List.mem_map.mp hplace
    obtain ⟨hparent, hname⟩ := Entry.place_inj.mp heq
    exact free (hname ▸ List.mem_map_of_mem (mem_under.mpr ⟨hf, hparent⟩))
  labels := by
    rw [labels_append, List.map_append, List.nodup_append]
    refine ⟨h.labels, ?_, ?_⟩
    · unfold Listing.labels
      cases hl : e.label? <;> simp [hl]
    · rintro k hk _ hmem rfl
      refine label k ?_ hk
      simpa [Listing.labels] using hmem
  patterns := List.forall_mem_append.mpr ⟨h.patterns, List.forall_mem_singleton.mpr pattern⟩

/-- The node at a place is an action if the entry that stands there declares one. -/
theorem isAction_place (h : l.Clean) {e : Entry σ ε} (he : e ∈ l) :
    l.isAction e.place = e.isAction := by
  rw [Bool.eq_iff_iff, isAction, List.any_eq_true]
  constructor
  · rintro ⟨f, hf, hand⟩
    rw [Bool.and_eq_true, beq_iff_eq] at hand
    exact List.inj_on_of_nodup_map h.distinct hf he hand.1 ▸ hand.2
  · exact fun ha => ⟨e, he, by rw [ha, beq_self_eq_true, Bool.and_true]⟩

end Clean

end Listing

/-! ### Looking up in two lists -/

theorem lookup_map {α β γ : Type} [BEq α] (f : β → γ) (key : α) (l : List (α × β)) :
    (l.map fun a => (a.1, f a.2)).lookup key = (l.lookup key).map f := by
  induction l with
  | nil => rfl
  | cons a l ih =>
    rw [List.map_cons, List.lookup_cons, List.lookup_cons, ih]
    split <;> rfl

/-- The order of the entries does not matter if no key stands twice. -/
theorem lookup_reverse {α β : Type} [BEq α] [LawfulBEq α] {l : List (α × β)}
    (h : (l.map (·.1)).Nodup) (key : α) : l.reverse.lookup key = l.lookup key := by
  induction l with
  | nil => rfl
  | cons a l ih =>
    rw [List.map_cons, List.nodup_cons] at h
    rw [List.reverse_cons, List.lookup_append, ih h.2, List.lookup_cons]
    by_cases hk : key = a.1
    · subst hk
      have hnone : l.lookup a.1 = none := by
        refine List.lookup_eq_none_iff.mpr fun b hb => bne_iff_ne.mpr fun heq => ?_
        exact h.1 (heq ▸ List.mem_map_of_mem hb)
      rw [hnone, Option.none_or, List.lookup_cons, beq_self_eq_true]
    · have hne : (key == a.1) = false := beq_eq_false_iff_ne.mpr hk
      rw [List.lookup_cons, hne]
      exact Option.or_none

/-! ### Outlines -/

/-- The site is that of the node at the place. -/
structure Site.Shows (s : Site) (l : Listing σ ε) (place : List String) : Prop where
  name : s.name = place.getLast?.getD ""
  path : s.path = Place.path place
  children : l.Numbers s.children ((l.under place).nodes.map (·.place))

/-- The outline is that of the nodes that are listed. -/
structure Outline.Shows [PatternDialect] (o : Outline) (l : Listing σ ε) : Prop where
  clean : l.Clean
  size : o.sites.size = l.places.length
  site : ∀ {i : Nat} {s : Site} {place : List String}, o.site? i = some s →
    l.places[i]? = some place → s.Shows l place
  labels : (o.labels.map fun a => (a.1, l.places[a.2]?)) =
    l.labels.reverse.map fun a => (a.1, some a.2)

namespace Outline.Shows

variable [PatternDialect] {o : Outline} {l : Listing σ ε}

theorem exists_site (h : o.Shows l) {i : Nat} {place : List String}
    (hi : l.places[i]? = some place) : ∃ s, o.site? i = some s ∧ s.Shows l place := by
  have hlt : i < o.sites.size := h.size ▸ (List.getElem?_eq_some_iff.mp hi).1
  exact ⟨_, Array.getElem?_eq_getElem hlt, h.site (Array.getElem?_eq_getElem hlt) hi⟩

theorem path_eq (h : o.Shows l) {i : Nat} {place : List String} (hi : l.places[i]? = some place) :
    o.path i = Place.path place := by
  obtain ⟨s, hs, hshows⟩ := h.exists_site hi
  rw [Outline.path, hs, Option.elim_some, hshows.path]

theorem exists_of_mem_labels (h : o.Shows l) {a : String × Nat} (ha : a ∈ o.labels) :
    ∃ place, l.places[a.2]? = some place := by
  have hmem : (a.1, l.places[a.2]?) ∈ l.labels.reverse.map fun a => (a.1, some a.2) :=
    h.labels ▸ List.mem_map_of_mem ha
  obtain ⟨b, -, hb⟩ := List.mem_map.mp hmem
  exact ⟨b.2, (Prod.mk.inj hb).2.symm⟩

theorem label_lt (h : o.Shows l) : ∀ a ∈ o.labels, a.2 < l.places.length := by
  intro a ha
  obtain ⟨place, hplace⟩ := h.exists_of_mem_labels ha
  exact (List.getElem?_eq_some_iff.mp hplace).1

/-- The child with a name stands one name further. -/
theorem child?_eq_some_iff (h : o.Shows l) {i j : Nat} {place : List String} {name : String}
    (hi : l.places[i]? = some place) :
    o.child? i name = some j ↔ l.places[j]? = some (place ++ [name]) := by
  obtain ⟨s, hs, hshows⟩ := h.exists_site hi
  let named (child : Nat) : Bool := (o.site? child).any (·.name == name)
  have hchild : o.child? i name = s.children.find? named := by
    rw [child?, hs]
    rfl
  -- a child has the name of its entry
  have hnamed {k : Nat} {e : Entry σ ε} (hk : l.places[k]? = some e.place) :
      named k = true ↔ e.name = name := by
    obtain ⟨t, ht, htshows⟩ := h.exists_site hk
    simp only [named, ht, Option.any_some, beq_iff_eq, htshows.name, Entry.name_eq_of_place]
  have hfound {k : Nat} (hk : s.children.find? named = some k) :
      l.places[k]? = some (place ++ [name]) := by
    obtain ⟨e, he, hplace⟩ := hshows.children.exists_entry (List.mem_of_find?_eq_some hk)
    obtain ⟨-, rfl⟩ := Listing.mem_under.mp (Listing.mem_nodes.mp he).1
    rw [hplace, ← (hnamed hplace).mp (List.find?_some hk)]
    rfl
  rw [hchild]
  refine ⟨hfound, fun hj => ?_⟩
  obtain ⟨e, he, rfl⟩ := Listing.concat_mem_places.mp (List.mem_of_getElem? hj)
  obtain ⟨k, hk, hplace⟩ := hshows.children.exists_number he
  obtain ⟨m, hm⟩ := Option.isSome_iff_exists.mp
    (List.find?_isSome.mpr ⟨k, hk, (hnamed hplace).mpr rfl⟩)
  rw [hm, h.clean.number_inj (hfound hm) hj]

/-- Walking along names leads to the place behind them. -/
theorem walk?_eq_some_iff (h : o.Shows l) {names : List String} {i j : Nat} {place : List String}
    (hi : l.places[i]? = some place) :
    o.walk? i names = some j ↔ l.places[j]? = some (place ++ names) := by
  induction names generalizing i place with
  | nil =>
    rw [List.append_nil]
    constructor
    · rintro hij
      exact Option.some.inj hij ▸ hi
    · exact fun hj => congrArg some (h.clean.number_inj hi hj)
  | cons name names ih =>
    have hwalk : o.walk? i (name :: names) = (o.child? i name).bind (o.walk? · names) :=
      List.foldlM_cons
    have hplace : place ++ name :: names = place ++ [name] ++ names := by
      rw [List.append_assoc, List.singleton_append]
    rw [hwalk, Option.bind_eq_some_iff, hplace]
    constructor
    · rintro ⟨k, hk, hj⟩
      exact (ih ((h.child?_eq_some_iff hi).mp hk)).mp hj
    · intro hj
      have hmem := h.clean.mem_places_of_append (List.mem_of_getElem? hj)
      obtain ⟨k, hk⟩ := List.mem_iff_getElem?.mp hmem
      exact ⟨k, (h.child?_eq_some_iff hi).mpr hk, (ih hk).mpr hj⟩

theorem walk?_root (h : o.Shows l) {names : List String} {j : Nat} :
    o.walk? 0 names = some j ↔ l.places[j]? = some names :=
  h.walk?_eq_some_iff Listing.root_place

/-- A label leads to the place of its node. -/
theorem labelled?_eq (h : o.Shows l) (label : String) :
    (o.labelled? label).map (l.places[·]?) = (l.labelled? label).map some := by
  rw [labelled?, ← lookup_map, h.labels, lookup_map, lookup_reverse h.clean.labels]
  rfl

theorem labelled?_of_place (h : o.Shows l) {label : String} {place : List String}
    (hlabel : l.labelled? label = some place) :
    ∃ i, o.labelled? label = some i ∧ l.places[i]? = some place := by
  have heq := h.labelled?_eq label
  rw [hlabel] at heq
  exact Option.map_eq_some_iff.mp heq

theorem labelled?_eq_none (h : o.Shows l) {label : String} (hlabel : l.labelled? label = none) :
    o.labelled? label = none := by
  have heq := h.labelled?_eq label
  rw [hlabel] at heq
  exact Option.map_eq_none_iff.mp heq

/-- A node is found where its place is. -/
theorem locate?_eq (h : o.Shows l) {i : Nat} {place : List String}
    (hi : l.places[i]? = some place) (target : String) :
    (o.locate? i target).map (l.places[·]?) = (l.locate? place target).map some := by
  unfold Outline.locate? Listing.locate?
  cases hlabel : l.labelled? target with
  | some labelled =>
    obtain ⟨j, hj, hplace⟩ := h.labelled?_of_place hlabel
    rw [hj]
    exact congrArg some hplace
  | none =>
    rw [h.labelled?_eq_none hlabel]
    dsimp only
    split
    · next hmem =>
      obtain ⟨j, hj⟩ := List.mem_iff_getElem?.mp hmem
      rw [(h.walk?_eq_some_iff hi).mpr hj]
      exact congrArg some hj
    · next hmem =>
      rw [Option.map_none, Option.map_eq_none_iff, Option.eq_none_iff_forall_ne_some]
      exact fun j hj => hmem (List.mem_of_getElem? ((h.walk?_eq_some_iff hi).mp hj))

end Outline.Shows

end CommandGrammar
