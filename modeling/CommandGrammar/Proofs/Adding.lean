import CommandGrammar.Proofs.Drafting

/-! How additions end. The elements and merges of a declaration are added one after another. If all
of them can be, the draft shows what is listed, and if one of them cannot, the error tells what is
wrong with the list, or which target of a merge was not found. -/

namespace CommandGrammar

variable {σ ε : Type} [PatternDialect]

namespace Draft

open Listing

variable {d : Draft σ ε} {l : Listing σ ε} {parent : Nat} {place : List String}

/-! ### One addition -/

namespace Shows

/-- A name that was claimed is a name, and free. -/
theorem claimed (h : d.Shows l) (hi : l.places[parent]? = some place) {name : Option String}
    (valid : name.any (!isValidName ·) = false)
    (free : (d.nodes[parent]?).any (·.names.contains (d.chosenName parent name)) = false) :
    (∀ given ∈ name, IsName given) ∧ IsName (l.chosenName place name) ∧
      l.chosenName place name ∉ (l.under place).map (·.name) := by
  rw [h.contains_eq hi, h.chosenName_eq hi, decide_eq_false_iff_not] at free
  cases name with
  | none => exact ⟨nofun, isName_unnamed _, free⟩
  | some given =>
    have hgiven : IsName given := isName_iff.mp (by simpa using valid)
    exact ⟨fun _ h => by cases h; exact hgiven, hgiven, free⟩

/-- A name that cannot be claimed clashes. -/
theorem clash_of_claimName (h : d.Shows l) (hi : l.places[parent]? = some place)
    {item : Item σ ε} {error : GrammarError}
    (herror : d.claimName parent item.name? = .error error) :
    (l.add place item).Clash error := by
  rcases claimName_error herror with ⟨given, hgiven, invalid, rfl⟩ | ⟨taken, rfl⟩
  · refine ⟨_, List.mem_concat_self, (h.path_eq hi).symm, hgiven, fun hname => ?_⟩
    rw [isName_iff.mpr hname] at invalid
    cases invalid
  · rw [h.contains_eq hi, decide_eq_true_iff, h.chosenName_eq hi] at taken
    refine ⟨place, (h.path_eq hi).symm, ?_⟩
    have hcount := List.count_pos_iff.mpr taken
    rw [h.chosenName_eq hi, add,
      under_concat_self l ⟨place, l.chosenName place item.name?, item⟩, List.map_append,
      List.count_append]
    simpa using hcount

/-- A label is free if no node that is listed has it. -/
theorem label_not_mem (h : d.Shows l) {label : String} (free : d.labels.lookup label = none) :
    label ∉ l.labels.map (·.1) := by
  have heq := h.outline.labelled?_eq label
  rw [Outline.labelled?, Draft.outline, free, Option.map_none, eq_comm, Option.map_eq_none_iff,
    labelled?, List.lookup_eq_none_iff] at heq
  rintro hmem
  obtain ⟨a, ha, rfl⟩ := List.mem_map.mp hmem
  simpa using heq a ha

/-- A label that cannot be claimed clashes. -/
theorem clash_of_claimLabel (h : d.Shows l) {e : Entry σ ε} {d' : Draft σ ε} {id : Nat}
    (hlabels : d'.labels = d.labels) (hpath : ∀ i, d'.path i = d.path i) {error : GrammarError}
    (herror : d'.claimLabel id e.label? = .error error) :
    (l ++ [e] : Listing σ ε).Clash error := by
  obtain ⟨label, existing, hlabel, hlookup, rfl⟩ := claimLabel_error herror
  have heq := h.outline.labelled?_eq label
  rw [Outline.labelled?, Draft.outline, ← hlabels, hlookup, Option.map_some, eq_comm,
    Option.map_eq_some_iff] at heq
  obtain ⟨labelled, hlabelled, hplace⟩ := heq
  have hkey : label ∈ l.labels.map (·.1) := by
    by_contra hmem
    have hnone : l.labels.lookup label = none := List.lookup_eq_none_iff.mpr fun a ha =>
      bne_iff_ne.mpr fun hlabel => hmem (hlabel ▸ List.mem_map_of_mem ha)
    rw [labelled?, hnone] at hlabelled
    cases hlabelled
  refine ⟨?_, labelled, ?_, ?_⟩
  · have hcount := List.count_pos_iff.mpr hkey
    rw [labels_append, List.map_append, List.count_append]
    simpa [Listing.labels, hlabel] using hcount
  · rw [labelled?] at hlabelled
    rw [labelled?, labels_append, List.lookup_append, hlabelled, Option.some_or]
  · rw [hpath, h.path_eq hplace.symm]

/-- What cannot be added as a node clashes. -/
theorem clash_of_addNode (h : d.Shows l) (hi : l.places[parent]? = some place)
    {decl : NodeDecl σ ε} {inherited : Inherited σ} {error : GrammarError}
    (herror : d.addNode parent decl inherited = .error error) :
    (l.add place (.node decl inherited)).Clash error := by
  rcases bind_error_iff.mp herror with hname | ⟨⟨chosen, d₁⟩, hname, herror⟩
  · exact h.clash_of_claimName hi hname
  obtain ⟨-, -, rfl, rfl⟩ := claimName_ok hname
  rcases bind_error_iff.mp herror with hpattern | ⟨pattern, -, herror⟩
  · obtain rfl := compilePattern_error hpattern
    refine ⟨_, List.mem_concat_self, ?_, fun hreads => ?_⟩
    · rw [path_withName, h.path_eq hi, h.chosenName_eq hi,
        Place.childPath_path (h.clean.isName (List.mem_of_getElem? hi))]
      rfl
    · obtain ⟨pattern, hok⟩ := (hasPattern_iff rfl _).mp hreads
      rw [h.chosenName_eq hi] at hpattern
      exact nomatch hok.symm.trans hpattern
  rcases bind_error_iff.mp herror with hlabel | ⟨d₂, -, herror⟩
  · have hlabels : (d.withName parent decl.name).labels = d.labels := rfl
    exact h.clash_of_claimLabel (e := ⟨place, l.chosenName place decl.name, .node decl inherited⟩)
      hlabels (path_withName d parent decl.name) hlabel
  · cases herror

/-- What cannot be added as an alias clashes. -/
theorem clash_of_addAlias (h : d.Shows l) (hi : l.places[parent]? = some place)
    {decl : AliasDecl} {error : GrammarError} (herror : d.addAlias parent decl = .error error) :
    (l.add place (.link decl)).Clash error := by
  rcases bind_error_iff.mp herror with hname | ⟨_, -, herror⟩
  · exact h.clash_of_claimName hi hname
  · cases herror

end Shows

/-! ### How a run ends -/

/-- The run ends with a draft of the entries, and every target was found, or it ends with an error
that tells what is wrong with an entry or which target was not found. -/
inductive Answers (l : Listing σ ε) (searches : List (Search σ ε)) :
    Except GrammarError (Draft σ ε) → Prop
  | ok {d : Draft σ ε} (shows : d.Shows l) (found : ∀ s ∈ searches, s.Succeeds) :
      Answers l searches (.ok d)
  | clash {error : GrammarError} (clash : l.Clash error) : Answers l searches (.error error)
  | missed {s : Search σ ε} (mem : s ∈ searches) (fails : ¬s.Succeeds) :
      Answers l searches (.error (.mergeTarget s.target))

theorem Answers.bind {m : Listing σ ε} {ss ts : List (Search σ ε)}
    {r : Except GrammarError (Draft σ ε)} {f : Draft σ ε → Except GrammarError (Draft σ ε)}
    (h : Answers l ss r) (hm : l <+: m) (hf : ∀ d, d.Shows l → Answers m ts (f d)) :
    Answers m (ss ++ ts) (r >>= f) := by
  cases h with
  | @ok d shows found =>
    have hrest := hf d shows
    change Answers m (ss ++ ts) (f d)
    generalize f d = r at hrest ⊢
    cases hrest with
    | ok shows found' => exact .ok shows (List.forall_mem_append.mpr ⟨found, found'⟩)
    | clash clash => exact .clash clash
    | missed mem fails => exact .missed (List.mem_append_right _ mem) fails
  | clash clash => exact .clash (clash.mono hm)
  | missed mem fails => exact .missed (List.mem_append_left _ mem) fails

theorem Answers.cons {ss : List (Search σ ε)} {r : Except GrammarError (Draft σ ε)}
    (h : Answers l ss r) {s : Search σ ε} (hs : s.Succeeds) : Answers l (s :: ss) r := by
  cases h with
  | ok shows found => exact .ok shows (List.forall_mem_cons.mpr ⟨hs, found⟩)
  | clash clash => exact .clash clash
  | missed mem fails => exact .missed (List.mem_cons_of_mem _ mem) fails

namespace Shows

theorem addNode (h : d.Shows l) (hi : l.places[parent]? = some place) (decl : NodeDecl σ ε)
    (inherited : Inherited σ) :
    Answers (l.add place (.node decl inherited)) [] (d.addNode parent decl inherited) := by
  cases hr : d.addNode parent decl inherited with
  | error error => exact .clash (h.clash_of_addNode hi hr)
  | ok d' =>
    obtain ⟨pattern, compiled, valid, free, label, rfl⟩ := addNode_ok hr
    obtain ⟨given, name, free⟩ := h.claimed hi valid free
    rw [h.chosenName_eq hi, h.path_eq hi,
      Place.childPath_path (h.clean.isName (List.mem_of_getElem? hi))] at compiled
    let e : Entry σ ε := ⟨place, l.chosenName place decl.name, .node decl inherited⟩
    have hclean : (l ++ [e] : Listing σ ε).Clean :=
      h.clean.concat (List.mem_of_getElem? hi) given name free
        (fun k hk => h.label_not_mem (label k hk)) ((hasPattern_iff rfl _).mpr ⟨pattern, compiled⟩)
    exact .ok (h.withNode (e := e) hi rfl (h.chosenName_eq hi decl.name) hclean compiled) nofun

theorem addAlias (h : d.Shows l) (hi : l.places[parent]? = some place) (decl : AliasDecl) :
    Answers (l.add place (.link decl)) [] (d.addAlias parent decl) := by
  cases hr : d.addAlias parent decl with
  | error error => exact .clash (h.clash_of_addAlias hi hr)
  | ok d' =>
    obtain ⟨valid, free, rfl⟩ := addAlias_ok hr
    obtain ⟨given, name, free⟩ := h.claimed hi valid free
    let e : Entry σ ε := ⟨place, l.chosenName place decl.name, .link decl⟩
    have hclean : (l ++ [e] : Listing σ ε).Clean :=
      h.clean.concat (List.mem_of_getElem? hi) given name free nofun trivial
    exact .ok (h.withAlias (e := e) hi rfl (h.chosenName_eq hi decl.name) hclean) nofun

/-- The new node has the next number. -/
theorem number_add (h : d.Shows l) (place : List String) (decl : NodeDecl σ ε)
    (inherited : Inherited σ) :
    (l.add place (.node decl inherited)).places[d.nodes.size]? =
      some (place ++ [l.chosenName place decl.name]) := by
  rw [add, places_append, h.size]
  exact List.getElem?_concat_length

/-! ### Elements and merges -/

mutual

theorem addElement (e : Element σ ε) {d : Draft σ ε} {l : Listing σ ε} {parent : Nat}
    {place : List String} (h : d.Shows l) (hi : l.places[parent]? = some place)
    (inherited : Inherited σ) :
    Answers (l.addElement place inherited e) [] (Draft.addElement parent inherited d e) := by
  cases e with
  | node decl elements =>
    rw [Draft.addElement, Listing.addElement]
    exact (h.addNode hi decl inherited).bind (prefix_addElements _ _ _ _) fun d' h' =>
      h'.addElements elements (h.number_add place decl inherited) inherited
  | link decl =>
    rw [Draft.addElement, Listing.addElement]
    exact h.addAlias hi decl
  | group decl elements =>
    rw [Draft.addElement, Listing.addElement]
    exact h.addElements elements hi _

theorem addElements (es : List (Element σ ε)) {d : Draft σ ε} {l : Listing σ ε} {parent : Nat}
    {place : List String} (h : d.Shows l) (hi : l.places[parent]? = some place)
    (inherited : Inherited σ) :
    Answers (l.addElements place inherited es) [] (Draft.addElements parent inherited d es) := by
  cases es with
  | nil =>
    rw [Draft.addElements, Listing.addElements]
    exact .ok h nofun
  | cons e es =>
    rw [Draft.addElements, Listing.addElements]
    exact (h.addElement e hi inherited).bind (prefix_addElements _ _ _ _) fun d' h' =>
      h'.addElements es (places_mono (prefix_addElement _ _ _ _) hi) inherited

end

/-- The target of a merge is found where the list has its place. -/
theorem mergePlace?_eq (h : d.Shows l) (hi : l.places[parent]? = some place) (target : String) :
    ((d.outline.locate? parent target).filter (!d.isAction ·)).map (l.places[·]?) =
      (l.mergePlace? place target).map some := by
  have heq := h.outline.locate?_eq hi target
  rw [mergePlace?]
  cases hplace : l.locate? place target with
  | none =>
    rw [hplace, Option.map_none, Option.map_eq_none_iff] at heq
    rw [heq]
    rfl
  | some found =>
    rw [hplace, Option.map_some, Option.map_eq_some_iff] at heq
    obtain ⟨id, hid, hfound⟩ := heq
    rw [hid, Option.filter_some, Option.filter_some, h.isAction_eq hfound]
    split
    · exact congrArg some hfound
    · rfl

mutual

theorem addMerge (m : Merge σ ε) {d : Draft σ ε} {l : Listing σ ε} {base : Nat}
    {place : List String} (h : d.Shows l) (hi : l.places[base]? = some place) :
    Answers (l.addMerge place m) (Listing.searches place l m) (Draft.addMerge base d m) := by
  cases m with
  | into target elements merges =>
    have heq := h.mergePlace?_eq hi target
    rw [Draft.addMerge, Listing.addMerge, Listing.searches]
    cases hplace : l.mergePlace? place target with
    | none =>
      rw [hplace, Option.map_none, Option.map_eq_none_iff] at heq
      have hfails : ¬(⟨l, place, target⟩ : Search σ ε).Succeeds := by simp [Search.Succeeds, hplace]
      rw [heq]
      exact .missed List.mem_cons_self hfails
    | some found =>
      rw [hplace, Option.map_some, Option.map_eq_some_iff] at heq
      obtain ⟨id, hid, hfound⟩ := heq
      have hs : (⟨l, place, target⟩ : Search σ ε).Succeeds := Option.isSome_of_eq_some hplace
      have hrest := (h.addElements elements hfound ⟨none, none, []⟩).bind
        (prefix_addMerges found _ merges) fun d' h' =>
          h'.addMerges merges (places_mono (prefix_addElements _ _ _ elements) hfound)
      rw [hid]
      exact hrest.cons hs

theorem addMerges (ms : List (Merge σ ε)) {d : Draft σ ε} {l : Listing σ ε} {base : Nat}
    {place : List String} (h : d.Shows l) (hi : l.places[base]? = some place) :
    Answers (l.addMerges place ms) (Listing.searchesAll place l ms)
      (Draft.addMerges base d ms) := by
  cases ms with
  | nil =>
    rw [Draft.addMerges, Listing.addMerges, Listing.searchesAll]
    exact .ok h nofun
  | cons m ms =>
    rw [Draft.addMerges, Listing.addMerges, Listing.searchesAll]
    exact (h.addMerge m hi).bind (prefix_addMerges _ _ ms) fun d' h' =>
      h'.addMerges ms (places_mono (prefix_addMerge _ _ m) hi)

end

end Shows

/-! ### The whole declaration -/

theorem start_shows : (start : Draft σ ε).Shows [] where
  clean := ⟨List.forall_mem_nil _, List.forall_mem_nil _, List.forall_mem_nil _, List.nodup_nil,
    List.nodup_nil, List.forall_mem_nil _⟩
  size := rfl
  made := by
    intro i n hn
    obtain ⟨rfl, rfl⟩ := eq_of_start hn
    exact .root [] []
  below := by
    intro i n place hn _
    obtain ⟨rfl, rfl⟩ := eq_of_start hn
    exact ⟨rfl, .nil, rfl, rfl⟩
  labels := rfl
  aliases := rfl

/-- The draft of a declaration, before the aliases are resolved. -/
def ofBuilder (b : Builder σ ε) : Except GrammarError (Draft σ ε) := do
  let d ← addElements 0 ⟨none, none, []⟩ start b.elements
  addMerges 0 d b.merges

theorem answers_ofBuilder (b : Builder σ ε) : Answers b.listing b.searches (ofBuilder b) :=
  (start_shows.addElements b.elements root_place _).bind (prefix_addMerges _ _ b.merges)
    fun _ h => h.addMerges b.merges root_place

end Draft

theorem Builder.build_eq (b : Builder σ ε) : b.build = Draft.ofBuilder b >>= Draft.finish := by
  rw [build, Draft.ofBuilder, bind_assoc]

end CommandGrammar
