import CommandGrammar.Proofs.Adding

/-! How a grammar is finished. Each alias is resolved to the nodes at the places that its target
leads to, so that the edges of a node are those that the entries in it stand for, in their
order. -/

namespace CommandGrammar

variable {σ ε : Type}

namespace Listing

/-- The places that names from the root lead to. If the last of them is a pattern, these are the
places of the nodes with such names that are no actions. -/
def targets (l : Listing σ ε) (names : List String) : List (List String) :=
  match names.getLast? with
  | some last =>
    if PendingAlias.isGlob last then
      match Glob.read last with
      | .ok glob => ((l.under names.dropLast).nodes.filter fun e =>
          !e.isAction && glob.accepts e.name).map (·.place)
      | .error _ => []
    else [names]
  | none => [[]]

theorem targets_of_isGlob (l : Listing σ ε) {names : List String} {last : String} {glob : Glob}
    (hlast : names.getLast? = some last) (hglob : PendingAlias.isGlob last = true)
    (hread : Glob.read last = .ok glob) :
    l.targets names = ((l.under names.dropLast).nodes.filter fun e =>
      !e.isAction && glob.accepts e.name).map (·.place) := by
  rw [targets, hlast]
  dsimp only
  rw [if_pos hglob, hread]

theorem targets_of_not_isGlob (l : Listing σ ε) {names : List String} {last : String}
    (hlast : names.getLast? = some last) (hglob : ¬PendingAlias.isGlob last = true) :
    l.targets names = [names] := by
  rw [targets, hlast]
  dsimp only
  rw [if_neg hglob]

/-- The places that may follow through an entry: that of a node itself, or those that the target of
an alias leads to. -/
def leads (l : Listing σ ε) (e : Entry σ ε) : List (List String) :=
  match e.item with
  | .node _ _ => [e.place]
  | .link decl => l.targets (l.denoted e.place decl.target)

end Listing

/-! ### Resolving one alias -/

namespace PendingAlias

variable [PatternDialect] {o : Outline} {l : Listing σ ε} {place : List String} {target : String}

/-- The names of an alias are those that it denotes. -/
theorem normalize_absolute (h : o.Shows l) (hplace : ∀ name ∈ place, IsName name) :
    normalize (absolute o ⟨Place.path place, target⟩) = l.denoted place target := by
  unfold absolute Listing.denoted Listing.origin
  rw [Place.normalize_eq]
  dsimp only
  split
  · rfl
  · cases hlabel : l.labelled? (splitFirst target).1 with
    | some labelled =>
      obtain ⟨i, hi, hlabelled⟩ := h.labelled?_of_place hlabel
      rw [hi]
      dsimp only
      rw [h.path_eq hlabelled]
      exact Place.follow_path_slash (h.clean.isName (List.mem_of_getElem? hlabelled)) _
    | none =>
      rw [h.labelled?_eq_none hlabel]
      exact Place.follow_path_slash hplace target

/-- The children that match a pattern are at the places of the nodes that match it. -/
theorem numbers_filter (h : o.Shows l) {isAction : Nat → Bool}
    (haction : ∀ {i : Nat} {place : List String}, l.places[i]? = some place →
      isAction i = l.isAction place)
    (glob : Glob) {ids : List Nat} {entries : Listing σ ε} (hentries : ∀ e ∈ entries, e ∈ l)
    (hids : l.Numbers ids (entries.map (·.place))) :
    l.Numbers
      (ids.filter fun id => !isAction id && (o.site? id).any fun site => glob.accepts site.name)
      ((entries.filter fun e => !e.isAction && glob.accepts e.name).map (·.place)) := by
  -- both tests look at the place only
  let accepted (place? : Option (List String)) : Bool :=
    place?.any fun place => !l.isAction place && glob.accepts (place.getLast?.getD "")
  have hid : ∀ id ∈ ids, (!isAction id && (o.site? id).any fun site => glob.accepts site.name) =
      (accepted ∘ (l.places[·]?)) id := by
    intro id hid
    obtain ⟨e, -, he⟩ := hids.exists_entry hid
    obtain ⟨s, hs, hshows⟩ := h.exists_site he
    simp only [accepted, Function.comp, he, hs, Option.any_some, haction he, hshows.name]
  have hentry : ∀ e ∈ entries, (!e.isAction && glob.accepts e.name) =
      ((accepted ∘ some) ∘ (·.place)) e := by
    intro e he
    simp only [accepted, Function.comp, Option.any_some, h.clean.isAction_place (hentries e he),
      Entry.name_eq_of_place]
  rw [Listing.Numbers, List.filter_congr hid, List.filter_congr hentry, ← List.filter_map,
    ← List.filter_map, ← List.filter_map]
  exact congrArg _ hids

/-- How resolving an alias at a place ends: with the nodes at the places that its target leads to,
or with an error that tells why it leads nowhere. -/
inductive Resolved (l : Listing σ ε) (place : List String) (target : String) :
    Except GrammarError (List Nat) → Prop
  | ok {ids : List Nat} (resolves : l.Resolves (l.denoted place target))
      (numbers : l.Numbers ids (l.targets (l.denoted place target))) :
      Resolved l place target (.ok ids)
  | missing (fails : ¬l.Resolves (l.denoted place target)) :
      Resolved l place target (.error (.unresolvedAlias (Place.path place)
        ("/" ++ "/".intercalate (l.denoted place target))))
  | unreadable {last : String} {error : GlobError}
      (last_eq : (l.denoted place target).getLast? = some last) (isGlob : isGlob last = true)
      (unreadable : Glob.read last = .error error) :
      Resolved l place target (.error (.invalidGlob target error))

theorem resolved (h : o.Shows l) {isAction : Nat → Bool}
    (haction : ∀ {i : Nat} {place : List String}, l.places[i]? = some place →
      isAction i = l.isAction place)
    (hplace : ∀ name ∈ place, IsName name) :
    Resolved l place target ((⟨Place.path place, target⟩ : PendingAlias).resolve o isAction) := by
  unfold resolve
  rw [normalize_absolute h hplace]
  dsimp only
  split
  · next last hlast =>
    split
    · next hglob =>
      have hiff := Listing.resolves_iff_of_isGlob (l := l) hlast hglob
      split
      · next error herror => exact .unreadable hlast hglob herror
      · next glob hread =>
        split
        · next hnone =>
          refine .missing fun hres => ?_
          obtain ⟨i, hi⟩ := List.mem_iff_getElem?.mp (hiff.mp hres).2
          obtain ⟨s, hs, -⟩ := h.exists_site hi
          rw [h.walk?_root.mpr hi, Option.bind_some, hs] at hnone
          cases hnone
        · next s hs =>
          obtain ⟨i, hwalk, hs⟩ := Option.bind_eq_some_iff.mp hs
          have hi := h.walk?_root.mp hwalk
          refine .ok (hiff.mpr ⟨⟨glob, hread⟩, List.mem_of_getElem? hi⟩) ?_
          rw [Listing.targets_of_isGlob l hlast hglob hread]
          exact numbers_filter h haction glob
            (fun e he => (Listing.mem_under.mp (Listing.mem_nodes.mp he).1).1)
            (h.site hs hi).children
    · next hglob =>
      have hiff := Listing.resolves_iff_of_not_isGlob (l := l) hlast hglob
      split
      · next i hwalk =>
        have hi := h.walk?_root.mp hwalk
        refine .ok (hiff.mpr (List.mem_of_getElem? hi)) ?_
        rw [Listing.targets_of_not_isGlob l hlast hglob, Listing.Numbers, List.map_singleton, hi,
          List.map_singleton]
      · next hnone =>
        refine .missing fun hres => ?_
        obtain ⟨i, hi⟩ := List.mem_iff_getElem?.mp (hiff.mp hres)
        rw [h.walk?_root.mpr hi] at hnone
        cases hnone
  · next hlast =>
    -- no name is left: the target is the root
    refine .ok ?_ ?_
    · rw [Listing.Resolves, hlast]
      trivial
    · rw [Listing.targets, hlast]
      rfl

end PendingAlias

/-! ### Resolving all aliases -/

theorem mapM_ok {α β ε : Type} {f : α → Except ε β} {l : List α} {r : List β}
    (h : l.mapM f = .ok r) : List.Forall₂ (fun a b => f a = .ok b) l r := by
  induction l generalizing r with
  | nil =>
    cases h
    exact .nil
  | cons a l ih =>
    rw [List.mapM_cons] at h
    obtain ⟨b, hb, h⟩ := bind_ok_iff.mp h
    obtain ⟨bs, hbs, h⟩ := bind_ok_iff.mp h
    cases h
    exact .cons hb (ih hbs)

theorem mapM_error {α β ε : Type} {f : α → Except ε β} {l : List α} {e : ε}
    (h : l.mapM f = .error e) : ∃ a ∈ l, f a = .error e := by
  induction l with
  | nil => cases h
  | cons a l ih =>
    rw [List.mapM_cons] at h
    rcases bind_error_iff.mp h with h | ⟨b, -, h⟩
    · exact ⟨a, List.mem_cons_self, h⟩
    rcases bind_error_iff.mp h with h | ⟨bs, -, h⟩
    · obtain ⟨a', ha', h⟩ := ih h
      exact ⟨a', List.mem_cons_of_mem _ ha', h⟩
    · cases h

theorem getElem?_of_forall₂ {α β : Type} {R : α → β → Prop} {as : List α} {bs : List β}
    (h : List.Forall₂ R as bs) {i : Nat} {a : α} (hi : as[i]? = some a) :
    ∃ b, bs[i]? = some b ∧ R a b := by
  induction h generalizing i with
  | nil => cases hi
  | cons hab _ ih =>
    cases i with
    | zero =>
      cases hi
      exact ⟨_, rfl, hab⟩
    | succ i => exact ih hi

theorem flatMap_congr_of_forall₂ {α β γ : Type} {R : α → β → Prop} {as : List α} {bs : List β}
    {F : α → List γ} {G : β → List γ} (h : List.Forall₂ R as bs)
    (hFG : ∀ a, ∀ b ∈ bs, R a b → F a = G b) : as.flatMap F = bs.flatMap G := by
  induction h with
  | nil => rfl
  | cons hab _ ih =>
    rw [List.flatMap_cons, List.flatMap_cons, hFG _ _ List.mem_cons_self hab,
      ih fun a b hb => hFG a b (List.mem_cons_of_mem _ hb)]

/-! ### The finished grammar -/

/-- The grammar is that of the entries. -/
structure Grammar.Shows [PatternDialect] (g : Grammar σ ε) (l : Listing σ ε) : Prop where
  clean : l.Clean
  size : g.nodes.size = l.places.length
  made : ∀ {i : Nat} {n : Node σ ε}, g.node? i = some n → l.Makes i n
  children : ∀ {i : Nat} {n : Node σ ε} {place : List String}, g.node? i = some n →
    l.places[i]? = some place → l.Numbers n.children ((l.under place).nodes.map (·.place))
  edges : ∀ {i : Nat} {n : Node σ ε} {place : List String}, g.node? i = some n →
    l.places[i]? = some place → l.Numbers n.edges ((l.under place).flatMap l.leads)
  labels : (g.labels.map fun a => (a.1, l.places[a.2]?)) =
    l.labels.reverse.map fun a => (a.1, some a.2)

namespace Draft.Shows

variable [PatternDialect] {d : Draft σ ε} {l : Listing σ ε}

/-- An alias that has to be resolved is that of an entry. -/
theorem exists_link (h : d.Shows l) {a : PendingAlias} (ha : a ∈ d.aliases.toList) :
    ∃ e ∈ l, ∃ decl, e.item = .link decl ∧ a = ⟨Place.path e.place, decl.target⟩ := by
  rw [h.aliases, Listing.pending, List.mem_filterMap] at ha
  obtain ⟨e, he, pending⟩ := ha
  exact ⟨e, he, Entry.item_of_pending? pending⟩

theorem resolved (h : d.Shows l) {e : Entry σ ε} (he : e ∈ l) (target : String) :
    PendingAlias.Resolved l e.place target
      ((⟨Place.path e.place, target⟩ : PendingAlias).resolve d.outline d.isAction) :=
  PendingAlias.resolved h.outline h.isAction_eq (h.clean.names e he)

/-- The edges of a node are at the places that its entries lead to. -/
theorem numbers_edges (h : d.Shows l) {resolved : Array (List Nat)}
    (hresolved : List.Forall₂
      (fun a ids => PendingAlias.resolve d.outline d.isAction a = .ok ids) d.aliases.toList
      resolved.toList)
    {slots : List Slot} {place : List String}
    (hslots : List.Forall₂ l.Stands slots (l.under place)) :
    l.Numbers (edges resolved slots) ((l.under place).flatMap l.leads) := by
  rw [Listing.Numbers, edges, List.map_flatMap, List.map_flatMap]
  refine flatMap_congr_of_forall₂ hslots fun slot e hmem hstands => ?_
  have he := (Listing.mem_under.mp hmem).1
  cases hstands with
  | child isNode number =>
    obtain ⟨_, _, item⟩ := Entry.item_of_isNode isNode
    rw [Listing.leads, item, List.map_singleton, number]
    rfl
  | @linked index _ a pending number =>
    obtain ⟨decl, item, rfl⟩ := Entry.item_of_pending? pending
    obtain ⟨ids, hids, hok⟩ := getElem?_of_forall₂ hresolved (h.aliases ▸ number)
    rw [Array.getElem?_toList] at hids
    have hends := h.resolved he decl.target
    rw [hok] at hends
    rw [Listing.leads, item]
    dsimp only
    rw [hids]
    cases hends with
    | ok resolves numbers => exact numbers

/-- Finishing a draft ends with the grammar of the entries, and the target of each alias leads
somewhere, or with the error for a target that does not. -/
theorem finish_ok (h : d.Shows l) {g : Grammar σ ε} (hg : d.finish = .ok g) :
    g.Shows l ∧ ∀ e ∈ l, ∀ decl, e.item = .link decl →
      l.Resolves (l.denoted e.place decl.target) := by
  obtain ⟨resolved, hmap, hg⟩ := bind_ok_iff.mp hg
  cases hg
  have hforall : List.Forall₂
      (fun a ids => PendingAlias.resolve d.outline d.isAction a = .ok ids) d.aliases.toList
      resolved.toList := by
    refine mapM_ok ?_
    rw [← Array.toList_mapM, hmap]
    rfl
  have hnode {i : Nat} {n : Node σ ε}
      (hn : (⟨d.nodes.map fun n => { n.node with edges := Draft.edges resolved n.slots },
        d.labels⟩ : Grammar σ ε).node? i = some n) :
      ∃ m, d.nodes[i]? = some m ∧ n = { m.node with edges := Draft.edges resolved m.slots } := by
    rw [Grammar.node?, Array.getElem?_map, Option.map_eq_some_iff] at hn
    obtain ⟨m, hm, rfl⟩ := hn
    exact ⟨m, hm, rfl⟩
  refine ⟨{
    clean := h.clean
    size := by rw [Array.size_map, h.size]
    made := ?made
    children := ?children
    edges := ?edges
    labels := h.labels }, ?resolves⟩
  case made =>
    intro i n hn
    obtain ⟨m, hm, rfl⟩ := hnode hn
    exact (h.made hm).withEdges _ _
  case children =>
    intro i n place hn hi
    obtain ⟨m, hm, rfl⟩ := hnode hn
    exact (h.below hm hi).children
  case edges =>
    intro i n place hn hi
    obtain ⟨m, hm, rfl⟩ := hnode hn
    exact h.numbers_edges hforall (h.below hm hi).slots
  case resolves =>
    intro e he decl item
    have hpending : (⟨Place.path e.place, decl.target⟩ : PendingAlias) ∈ d.aliases.toList := by
      rw [h.aliases, Listing.pending, List.mem_filterMap]
      exact ⟨e, he, by rw [Entry.pending?, item]⟩
    obtain ⟨index, hindex⟩ := List.mem_iff_getElem?.mp hpending
    obtain ⟨ids, -, hok⟩ := getElem?_of_forall₂ hforall hindex
    have hends := h.resolved he decl.target
    rw [hok] at hends
    cases hends with
    | ok resolves numbers => exact resolves

theorem finish_error (h : d.Shows l) {error : GrammarError} (herror : d.finish = .error error) :
    ∃ e ∈ l, ∃ decl, e.item = .link decl ∧
      PendingAlias.Resolved l e.place decl.target (.error error) := by
  rcases bind_error_iff.mp herror with hmap | ⟨_, -, herror⟩
  · obtain ⟨a, ha, hresolve⟩ : ∃ a ∈ d.aliases.toList,
        PendingAlias.resolve d.outline d.isAction a = .error error := by
      refine mapM_error ?_
      rw [← Array.toList_mapM, hmap]
      rfl
    obtain ⟨e, he, decl, item, rfl⟩ := h.exists_link ha
    exact ⟨e, he, decl, item, hresolve ▸ h.resolved he decl.target⟩
  · cases herror

end Draft.Shows

namespace Builder

variable [PatternDialect] {b : Builder σ ε} {g : Grammar σ ε}

/-- A grammar that is built is that of the entries of its declaration. -/
theorem shows_of_build (h : b.build = .ok g) : g.Shows b.listing := by
  rw [build_eq] at h
  obtain ⟨d, hd, hfinish⟩ := bind_ok_iff.mp h
  have hanswers := Draft.answers_ofBuilder b
  rw [hd] at hanswers
  cases hanswers with
  | ok shows _ => exact (shows.finish_ok hfinish).1

end Builder

namespace Grammar.Shows

variable [PatternDialect] {g : Grammar σ ε} {l : Listing σ ε}

theorem outline (h : g.Shows l) : g.outline.Shows l where
  clean := h.clean
  size := by rw [Grammar.outline, Array.size_map, h.size]
  site := by
    intro i s place hs hi
    rw [Outline.site?, Grammar.outline, Array.getElem?_map, Option.map_eq_some_iff] at hs
    obtain ⟨n, hn, rfl⟩ := hs
    obtain ⟨hname, hpath⟩ := (h.made hn).name_path hi
    exact ⟨hname, hpath, h.children hn hi⟩
  labels := h.labels

/-- Every node stands at a place. -/
theorem exists_place (h : g.Shows l) {i : Nat} {n : Node σ ε} (hn : g.node? i = some n) :
    ∃ place, l.places[i]? = some place := by
  have hlt : i < l.places.length := h.size ▸ (Array.getElem?_eq_some_iff.mp hn).1
  exact ⟨_, List.getElem?_eq_getElem hlt⟩

theorem exists_node (h : g.Shows l) {i : Nat} {place : List String}
    (hi : l.places[i]? = some place) : ∃ n, g.node? i = some n := by
  have hlt : i < g.nodes.size := h.size ▸ (List.getElem?_eq_some_iff.mp hi).1
  exact ⟨_, Array.getElem?_eq_getElem hlt⟩

end Grammar.Shows

end CommandGrammar
