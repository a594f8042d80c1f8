import CommandGrammar.Proofs.Declared

/-! Where an alias leads. The edges of a node are those that the entries in it stand for, one entry
behind the other. An alias whose target is no pattern stands for one edge, to the node that the
target denotes, as long as the names on the way to that node are no patterns either. -/

namespace CommandGrammar

variable {σ ε : Type}

/-! ### Names on the way -/

namespace Place

theorem mem_enter {place : List String} {part name : String} (h : name ∈ enter place part) :
    name ∈ place ∨ name = part := by
  unfold enter at h
  split at h
  · exact .inl h
  · split at h
    · exact .inl (List.dropLast_subset _ h)
    · simpa using h

/-- A name at the end of a way was there before or is a part of the path. -/
theorem mem_foldl_enter {ps : List String} {place : List String} {name : String}
    (h : name ∈ ps.foldl enter place) : name ∈ place ∨ name ∈ ps := by
  induction ps generalizing place with
  | nil => exact .inl h
  | cons part ps ih =>
    rcases ih h with hmem | hmem
    · exact (mem_enter hmem).imp_right (List.mem_cons.mpr ∘ .inl)
    · exact .inr (List.mem_cons_of_mem _ hmem)

theorem subset_intercalate {α : Type} (sep : List α) {piece : List α} {pieces : List (List α)}
    (h : piece ∈ pieces) : piece ⊆ sep.intercalate pieces := by
  induction pieces with
  | nil => cases h
  | cons first pieces ih =>
    cases pieces with
    | nil =>
      obtain rfl := List.mem_singleton.mp h
      simp
    | cons second pieces =>
      rw [List.intercalate_cons_cons]
      rcases List.mem_cons.mp h with rfl | h
      · exact fun c hc => List.mem_append_left _ (List.mem_append_left _ hc)
      · exact fun c hc => List.mem_append_right _ (ih h hc)

theorem subset_of_mem_parts {part path : String} (h : part ∈ parts path) :
    part.toList ⊆ path.toList := by
  obtain ⟨cs, hcs, rfl⟩ := List.mem_map.mp h
  rw [String.toList_ofList]
  have hpath : ['/'].intercalate (path.toList.splitOn '/') = path.toList :=
    List.intercalate_splitOn '/'
  exact hpath ▸ subset_intercalate ['/'] hcs

end Place

namespace PendingAlias

theorem isGlob_of_subset {name text : String} (h : name.toList ⊆ text.toList)
    (hname : isGlob name = true) : isGlob text = true := by
  obtain ⟨c, hc, hglob⟩ := List.any_eq_true.mp hname
  exact List.any_eq_true.mpr ⟨c, h hc, hglob⟩

theorem subset_splitFirst (target : String) : (splitFirst target).2.toList ⊆ target.toList := by
  rw [splitFirst, String.toList_ofList]
  exact List.drop_subset _ _

end PendingAlias

namespace Listing

variable {l : Listing σ ε} {names : List String}

/-- Where a target without patterns denotes one, this is a name of the place from which the target
is followed. -/
theorem mem_origin_of_isGlob {place : List String} {target name : String}
    (plain : PendingAlias.isGlob target = false) (hname : name ∈ l.denoted place target)
    (hglob : PendingAlias.isGlob name = true) : name ∈ (l.origin place target).1 := by
  have hrest : (l.origin place target).2.toList ⊆ target.toList := by
    unfold origin
    split
    · exact List.Subset.refl _
    · split
      · exact PendingAlias.subset_splitFirst target
      · exact List.Subset.refl _
  refine (Place.mem_foldl_enter hname).resolve_right fun hpart => ?_
  have hsub : name.toList ⊆ target.toList := fun c hc =>
    hrest (Place.subset_of_mem_parts hpart hc)
  rw [PendingAlias.isGlob_of_subset hsub hglob] at plain
  cases plain

/-! ### Names that mean themselves -/

/-- The last of the names stands for itself: it is no pattern, or it is one that of the nodes beside
each other matches the one with this very name. -/
def MeansItself (l : Listing σ ε) (names : List String) : Prop :=
  ∀ last ∈ names.getLast?, PendingAlias.isGlob last = true →
    ∃ glob, Glob.read last = .ok glob ∧ names ∈ l.places ∧
      ∀ e ∈ (l.under names.dropLast).nodes,
        (e.isAction = false ∧ glob.accepts e.name = true) ↔ e.name = last

theorem mem_places_of_mem_targets (hres : l.Resolves names) {place : List String}
    (h : place ∈ l.targets names) : place ∈ l.places := by
  cases hlast : names.getLast? with
  | none =>
    rw [targets, hlast] at h
    exact List.mem_singleton.mp h ▸ mem_places.mpr (.inl rfl)
  | some last =>
    by_cases hglob : PendingAlias.isGlob last = true
    · obtain ⟨⟨glob, hread⟩, -⟩ := (resolves_iff_of_isGlob hlast hglob).mp hres
      rw [targets_of_isGlob l hlast hglob hread] at h
      obtain ⟨e, he, rfl⟩ := List.mem_map.mp h
      obtain ⟨he, hnode⟩ := mem_nodes.mp (List.mem_filter.mp he).1
      exact mem_places.mpr (.inr ⟨e, mem_nodes.mpr ⟨(mem_under.mp he).1, hnode⟩, rfl⟩)
    · rw [targets_of_not_isGlob l hlast hglob] at h
      exact List.mem_singleton.mp h ▸ (resolves_iff_of_not_isGlob hlast hglob).mp hres

theorem eq_singleton_of_nodup {α : Type} {l : List α} {a : α} (hnodup : l.Nodup)
    (hall : ∀ b ∈ l, b = a) (hmem : a ∈ l) : l = [a] := by
  match l with
  | [] => cases hmem
  | [b] => rw [hall b List.mem_cons_self]
  | b :: c :: l =>
    have hb := hall b List.mem_cons_self
    have hc := hall c (List.mem_cons_of_mem _ List.mem_cons_self)
    simp [hb, hc] at hnodup

/-- Of the nodes at a place, a test selects the one with a name if it holds of that node only. -/
theorem selects_iff (h : l.Clean) {front : List String} {last : String} (test : Entry σ ε → Bool) :
    ((l.under front).nodes.filter test).map (·.place) = [front ++ [last]] ∧
        front ++ [last] ∈ l.places ↔
      front ++ [last] ∈ l.places ∧
        ∀ e ∈ (l.under front).nodes, test e = true ↔ e.name = last := by
  have hplace : ∀ e ∈ (l.under front).nodes, e.place = front ++ [last] ↔ e.name = last := by
    intro e he
    obtain ⟨-, rfl⟩ := mem_under.mp (mem_nodes.mp he).1
    rw [Entry.place, List.append_right_inj, List.singleton_inj]
  have hmem {e : Entry σ ε} (he : e ∈ (l.under front).nodes) : e ∈ l :=
    (mem_under.mp (mem_nodes.mp he).1).1
  constructor
  · rintro ⟨heq, hfound⟩
    refine ⟨hfound, fun e he => ⟨fun htest => ?_, fun hname => ?_⟩⟩
    · have hin := List.mem_map_of_mem (f := (·.place)) (List.mem_filter.mpr ⟨he, htest⟩)
      rw [heq, List.mem_singleton] at hin
      exact (hplace e he).mp hin
    · have hin := heq ▸ List.mem_singleton.mpr ((hplace e he).mpr hname)
      obtain ⟨f, hf, hfe⟩ := List.mem_map.mp hin
      obtain ⟨hf, htest⟩ := List.mem_filter.mp hf
      exact List.inj_on_of_nodup_map h.distinct (hmem hf) (hmem he) hfe ▸ htest
  · rintro ⟨hfound, hall⟩
    refine ⟨eq_singleton_of_nodup ?_ ?_ ?_, hfound⟩
    · refine h.distinct.sublist (List.Sublist.map _ ?_)
      exact List.filter_sublist.trans (List.filter_sublist.trans List.filter_sublist)
    · intro place hin
      obtain ⟨e, he, rfl⟩ := List.mem_map.mp hin
      obtain ⟨he, htest⟩ := List.mem_filter.mp he
      exact (hplace e he).mpr ((hall e he).mp htest)
    · obtain ⟨e, he, hname⟩ := concat_mem_places.mp hfound
      exact (hplace e he).mpr hname ▸
        List.mem_map_of_mem (List.mem_filter.mpr ⟨he, (hall e he).mpr hname⟩)

/-- The names lead to their own place alone if the last of them stands for itself. -/
theorem targets_eq_singleton_iff (h : l.Clean) (hres : l.Resolves names) :
    l.targets names = [names] ∧ names ∈ l.places ↔ l.MeansItself names := by
  unfold MeansItself
  cases hlast : names.getLast? with
  | none =>
    obtain rfl := List.getLast?_eq_none_iff.mp hlast
    exact ⟨fun _ => nofun, fun _ => ⟨rfl, mem_places.mpr (.inl rfl)⟩⟩
  | some last =>
    by_cases hglob : PendingAlias.isGlob last = true
    · obtain ⟨⟨glob, hread⟩, -⟩ := (resolves_iff_of_isGlob hlast hglob).mp hres
      rw [targets_of_isGlob l hlast hglob hread]
      obtain ⟨front, rfl⟩ := List.getLast?_eq_some_iff.mp hlast
      rw [List.dropLast_concat, selects_iff h]
      simp only [Option.mem_some_iff, Bool.and_eq_true, Bool.not_eq_true']
      constructor
      · rintro hsel _ rfl -
        exact ⟨glob, hread, hsel⟩
      · intro hmeans
        obtain ⟨glob', hread', hsel⟩ := hmeans last rfl hglob
        cases hread.symm.trans hread'
        exact hsel
    · rw [targets_of_not_isGlob l hlast hglob]
      refine ⟨fun _ _ hmem hlastglob => ?_,
        fun _ => ⟨rfl, (resolves_iff_of_not_isGlob hlast hglob).mp hres⟩⟩
      exact absurd (Option.mem_some.mp hmem ▸ hlastglob) hglob

end Listing

/-! ### Edges -/

theorem Outline.Shows.eq_filterMap_walk? {o : Outline} {l : Listing σ ε} (h : o.Shows l)
    {ids : List Nat} {places : List (List String)} (hids : l.Numbers ids places) :
    ids = places.filterMap (o.walk? 0) := by
  have hwalk : ∀ id ∈ ids, ((l.places[id]?).bind (o.walk? 0)) = some id := by
    intro id hid
    obtain ⟨place, -, hplace⟩ := hids.exists_place hid
    rw [hplace, Option.bind_some, h.walk?_root.mpr hplace]
  calc ids = ids.filterMap some := (List.filterMap_some).symm
    _ = ids.filterMap fun id => (l.places[id]?).bind (o.walk? 0) :=
      (List.filterMap_congr hwalk).symm
    _ = (ids.map (l.places[·]?)).filterMap (·.bind (o.walk? 0)) := by
      rw [List.filterMap_map]
      rfl
    _ = places.filterMap (o.walk? 0) := by
      rw [hids, List.filterMap_map]
      rfl

theorem Outline.Shows.numbers_walk? {o : Outline} {l : Listing σ ε} (h : o.Shows l)
    {places : List (List String)} (hplaces : ∀ place ∈ places, place ∈ l.places) :
    l.Numbers (places.filterMap (o.walk? 0)) places := by
  induction places with
  | nil => rfl
  | cons place places ih =>
    rw [List.forall_mem_cons] at hplaces
    obtain ⟨i, hi⟩ := List.mem_iff_getElem?.mp hplaces.1
    rw [List.filterMap_cons_some (h.walk?_root.mpr hi), Listing.Numbers, List.map_cons, hi,
      ih hplaces.2, List.map_cons]

namespace Grammar

/-- The nodes that may follow through an entry. -/
def entered (g : Grammar σ ε) (l : Listing σ ε) (e : Entry σ ε) : List Nat :=
  (l.leads e).filterMap (g.outline.walk? 0)

/-- The entry stands for one edge, to the node to which the names lead from the root. -/
def LeadsTo (g : Grammar σ ε) (l : Listing σ ε) (e : Entry σ ε) (names : List String) : Prop :=
  ∃ t, g.outline.walk? 0 names = some t ∧ g.entered l e = [t]

namespace Shows

variable {g : Grammar σ ε} {l : Listing σ ε}

/-- The edges of a node are those that its entries stand for. -/
theorem edges_eq (h : g.Shows l) {i : Nat} {n : Node σ ε} {place : List String}
    (hn : g.node? i = some n) (hi : l.places[i]? = some place) :
    n.edges = (l.under place).flatMap (g.entered l) := by
  rw [h.outline.eq_filterMap_walk? (h.edges hn hi), List.filterMap_flatMap]
  rfl

theorem leadsTo_iff (h : g.Shows l) {e : Entry σ ε} {decl : AliasDecl}
    (item : e.item = .link decl) (hres : l.Resolves (l.denoted e.place decl.target)) :
    g.LeadsTo l e (l.denoted e.place decl.target) ↔
      l.MeansItself (l.denoted e.place decl.target) := by
  have hentered : g.entered l e =
      (l.targets (l.denoted e.place decl.target)).filterMap (g.outline.walk? 0) := by
    rw [entered, Listing.leads, item]
  rw [← Listing.targets_eq_singleton_iff h.clean hres]
  constructor
  · rintro ⟨t, hwalk, heq⟩
    have ht := h.outline.walk?_root.mp hwalk
    have hnumbers := h.outline.numbers_walk? fun _ => Listing.mem_places_of_mem_targets hres
    rw [← hentered, heq, Listing.Numbers, List.map_singleton, ht, ← List.map_singleton] at hnumbers
    exact ⟨(List.map_inj_right fun _ _ => Option.some.inj).mp hnumbers.symm,
      List.mem_of_getElem? ht⟩
  · rintro ⟨htargets, hmem⟩
    obtain ⟨t, ht⟩ := List.mem_iff_getElem?.mp hmem
    have hwalk := h.outline.walk?_root.mpr ht
    exact ⟨t, hwalk, by rw [hentered, htargets, List.filterMap_cons_some hwalk, List.filterMap_nil]⟩

end Shows

end Grammar

/-- In a grammar that is built, the edges of a node are those that its entries stand for, in their
order. An alias whose target is no pattern stands for one edge, to the node that the target denotes,
exactly if the last name on the way there stands for itself, and this is so if no name of the place
from which the target is followed is a pattern. -/
theorem Builder.leadsTo_iff_meansItself {b : Builder σ ε} {g : Grammar σ ε} (h : b.build = .ok g)
    {place : List String} {before after : Listing σ ε} {e : Entry σ ε} {decl : AliasDecl}
    (hunder : b.listing.under place = before ++ e :: after) (item : e.item = .link decl)
    (plain : PendingAlias.isGlob decl.target = false) :
    (∃ i n, g.outline.walk? 0 place = some i ∧ g.node? i = some n ∧
        n.edges = before.flatMap (g.entered b.listing) ++ g.entered b.listing e ++
          after.flatMap (g.entered b.listing)) ∧
      (g.LeadsTo b.listing e (b.listing.denoted e.place decl.target) ↔
        b.listing.MeansItself (b.listing.denoted e.place decl.target)) ∧
      ((∀ name ∈ (b.listing.origin e.place decl.target).1, PendingAlias.isGlob name = false) →
        g.LeadsTo b.listing e (b.listing.denoted e.place decl.target)) := by
  have hg := b.shows_of_build h
  have hmem : e ∈ b.listing.under place := hunder ▸ List.mem_append_right _ List.mem_cons_self
  obtain ⟨he, rfl⟩ := Listing.mem_under.mp hmem
  have hres := (Builder.wellDeclared_of_build h).aliases e he decl item
  have hiff := hg.leadsTo_iff item hres
  refine ⟨?_, hiff, fun horigin => hiff.mpr fun last hlast hglob => ?_⟩
  · obtain ⟨i, hi⟩ := List.mem_iff_getElem?.mp (hg.clean.parents e he)
    obtain ⟨n, hn⟩ := hg.exists_node hi
    refine ⟨i, n, hg.outline.walk?_root.mpr hi, hn, ?_⟩
    rw [hg.edges_eq hn hi, hunder, List.flatMap_append, List.flatMap_cons, List.append_assoc]
  · have hname := Listing.mem_origin_of_isGlob plain (List.mem_of_getLast? hlast) hglob
    rw [horigin last hname] at hglob
    cases hglob

namespace Sample

/-- A node that may follow itself, and one beside it. -/
def loop (name : String) : Builder Unit String where
  elements := [
    .node { body := .literal, name := some name } [.link { target := ".." }],
    .node { body := .literal, name := some "ab" } []]
  merges := []

/-- The alias in the first node. -/
def back (name : String) : Entry Unit String := ⟨[name], "@0", .link { target := ".." }⟩

theorem leadsTo_loop : ∃ g, (loop "aa").build = .ok g ∧ (g.node? 1).map (·.edges) = some [1] ∧
    (loop "aa").listing.denoted (back "aa").place ".." = ["aa"] ∧
    g.LeadsTo (loop "aa").listing (back "aa") ["aa"] := by
  obtain ⟨g, hg, hedges⟩ := (loop "aa").exists_build
    (f := fun g => (g.node? 1).map (·.edges)) (v := some [1]) (by decide +kernel)
  have hunder : (loop "aa").listing.under ["aa"] = [] ++ back "aa" :: [] := rfl
  have hdenoted : (loop "aa").listing.denoted (back "aa").place ".." = ["aa"] := by decide +kernel
  have item : (back "aa").item = .link { target := ".." } := rfl
  obtain ⟨-, -, hleads⟩ := Builder.leadsTo_iff_meansItself hg hunder item (by decide)
  exact ⟨g, hg, hedges, hdenoted, hdenoted ▸ hleads (by decide +kernel)⟩

/-- A name that is a pattern takes the alias to other nodes too. -/
theorem loop_pattern : ∃ g, (loop "a*").build = .ok g ∧
    (loop "a*").listing.under ["a*"] = [back "a*"] ∧ PendingAlias.isGlob ".." = false ∧
    (loop "a*").listing.denoted (back "a*").place ".." = ["a*"] ∧
    g.outline.walk? 0 ["a*"] = some 1 ∧ g.outline.walk? 0 ["ab"] = some 2 ∧
    (g.node? 1).map (·.edges) = some [1, 2] ∧
    ¬g.LeadsTo (loop "a*").listing (back "a*") ["a*"] := by
  obtain ⟨g, hg, hval⟩ := (loop "a*").exists_build
    (f := fun g => (g.outline.walk? 0 ["a*"], g.outline.walk? 0 ["ab"],
      (g.node? 1).map (·.edges)))
    (v := (some 1, some 2, some [1, 2])) (by decide +kernel)
  obtain ⟨hstar, hval⟩ := Prod.mk.inj hval
  obtain ⟨hother, hedges⟩ := Prod.mk.inj hval
  have hunder : (loop "a*").listing.under ["a*"] = [back "a*"] := rfl
  refine ⟨g, hg, hunder, by decide, by decide +kernel, hstar, hother, hedges, ?_⟩
  rintro ⟨t, -, ht⟩
  obtain ⟨n, hn, hedges⟩ := Option.map_eq_some_iff.mp hedges
  have hshows := (loop "a*").shows_of_build hg
  rw [hshows.edges_eq hn (hshows.outline.walk?_root.mp hstar), hunder, List.flatMap_singleton, ht]
    at hedges
  cases hedges

end Sample

end CommandGrammar
