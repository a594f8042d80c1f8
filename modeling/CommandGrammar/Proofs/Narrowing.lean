import CommandGrammar.Proofs.Beginning
import CommandGrammar.Proofs.Trail

/-! Typing more of a word. What is offered for a longer beginning of a word is what was offered for
the shorter one and still starts as typed: names, fixed words and the kinds all look for words that
start as typed, whether a word is accepted does not depend on what was typed of it, and the tokens
in front lead to the same places. Only a kind that looks at files splits what is typed, and offers
something else for a longer beginning. -/

namespace CommandGrammar

variable {σ ε : Type}

/-! ### Words that start as typed -/

theorem Text.prefix_rdropWhile_iff {p : Char → Bool} {typed : List Char}
    (h : ∀ c ∈ typed, p c = false) (cs : List Char) : typed <+: cs.rdropWhile p ↔ typed <+: cs := by
  induction cs using List.reverseRecOn with
  | nil => rfl
  | append_singleton cs c ih =>
    by_cases hc : p c = true
    · rw [List.rdropWhile_concat_pos _ _ _ hc, ih, List.prefix_concat_iff]
      refine ⟨.inr, fun hor => hor.resolve_left ?_⟩
      rintro rfl
      rw [h c (List.mem_append_right _ (List.mem_singleton_self c))] at hc
      cases hc
    · rw [List.rdropWhile_concat_neg _ _ _ hc]

/-- A space behind a word does not matter to a beginning without one. -/
theorem Text.startsWith_append_space {typed : String} (h : ∀ c ∈ typed.toList, isBlank c = false)
    (w : String) : (w ++ " ").startsWith typed = w.startsWith typed := by
  have hspace : typed.toList ≠ w.toList ++ [' '] := by
    intro heq
    have hblank := h ' ' (heq ▸ List.mem_append_right _ (List.mem_singleton_self ' '))
    exact absurd hblank (by decide)
  rw [Bool.eq_iff_iff, String.startsWith_string_iff, String.startsWith_string_iff,
    String.toList_append]
  change typed.toList <+: w.toList ++ [' '] ↔ _
  rw [List.prefix_concat_iff]
  exact ⟨fun hor => hor.resolve_left hspace, .inr⟩

theorem Candidate.startsWith_ofWord {typed : String}
    (h : ∀ c ∈ typed.toList, Text.isBlank c = false) (w : String) :
    (ofWord w).startsWith typed = w.startsWith typed := by
  have hspace : ∀ c ∈ typed.toList, (c == ' ') = false := by
    intro c hc
    rw [beq_eq_false_iff_ne]
    rintro rfl
    exact absurd (h _ hc) (by decide)
  change (String.ofList (w.toList.rdropWhile (· == ' ')) ++ " ").startsWith typed = _
  rw [Text.startsWith_append_space h, Bool.eq_iff_iff, String.startsWith_string_iff,
    String.startsWith_string_iff, String.toList_ofList]
  exact Text.prefix_rdropWhile_iff hspace _

/-- What starts with all that is typed starts with its beginning. -/
theorem Text.startsWith_of_append {w f rest : String} (h : w.startsWith (f ++ rest) = true) :
    w.startsWith f = true := by
  rw [String.startsWith_string_iff] at h ⊢
  rw [String.toList_append] at h
  exact (List.prefix_append _ _).trans h

/-- For a longer beginning of a word that is offered which was offered for the shorter one and
still starts as typed. -/
def Narrows (offer : String → List String) : Prop :=
  ∀ f rest, Text.Bare (f ++ rest) →
    offer (f ++ rest) = (offer f).filter (·.startsWith (f ++ rest))

/-- Words that are looked for by their beginning, and shown in another form that starts in the same
way, get fewer. -/
theorem narrows_map {words : List String} {shown : String → String} {kept : String → Bool}
    (h : ∀ typed : String, (∀ c ∈ typed.toList, Text.isBlank c = false) →
      ∀ w, (shown w).startsWith typed = w.startsWith typed) :
    Narrows fun typed => (words.filter fun w => kept w && w.startsWith typed).map shown := by
  intro f rest hw
  dsimp only
  rw [List.filter_map, List.filter_filter]
  congr 1
  refine List.filter_congr fun w _ => ?_
  rw [Function.comp_apply, h _ hw.not_blank]
  cases hlong : w.startsWith (f ++ rest) with
  | false => rw [Bool.and_false, Bool.false_and]
  | true => rw [Text.startsWith_of_append hlong, Bool.true_and]

theorem Candidate.narrows_ofWords (words : List String) : Narrows (ofWords words) :=
  narrows_map fun _ htyped w => startsWith_ofWord htyped w

/-! ### Kinds -/

namespace Kind

/-- The kinds that look at nothing but the token. -/
inductive Standard : Kind → Prop where
  | text : Standard text
  | word : Standard word
  | quoted : Standard quoted
  | integer : Standard integer
  | float : Standard float
  | boolean : Standard boolean
  | keyword : Standard keyword
  | keyValue (separator : String) : Standard (keyValue separator)
  | base64 : Standard base64
  | address : Standard address
  | network : Standard network
  | hostName (parts : Nat) (ending : Option String) : Standard (hostName parts ending)
  | host : Standard host
  | mailAddress : Standard mailAddress
  | uri : Standard uri
  | distinguishedName : Standard distinguishedName
  | time : Standard time
  | relativeTime : Standard relativeTime
  | timeZone : Standard timeZone

theorem narrows_boolean : Narrows boolean.candidates := by
  change Narrows fun typed =>
    (["true", "false"].filter fun w => true && w.startsWith typed).map (· ++ " ")
  exact narrows_map fun _ htyped => Text.startsWith_append_space htyped

theorem Standard.narrows {k : Kind} (h : k.Standard) : Narrows k.candidates := by
  cases h with
  | boolean => exact narrows_boolean
  | timeZone => exact Candidate.narrows_ofWords _
  | _ => exact fun _ _ _ => rfl

end Kind

/-! ### Nodes -/

/-- The variables of the grammar have standard kinds. -/
def Grammar.Standard (g : Grammar σ ε) : Prop :=
  ∀ i n k, g.node? i = some n → n.body = .var k → k.Standard

namespace Node

variable {n : Node σ ε}

theorem narrows_candidatesFor (hs : n.isStateless = true) (hk : ∀ k, n.body = .var k → k.Standard)
    (c : Context σ) : Narrows (n.candidatesFor c) := by
  intro f rest hw
  unfold candidatesFor
  cases hsource : n.candidates with
  | some source =>
    cases source with
    | fixed words => exact Candidate.narrows_ofWords words f rest hw
    | dynamic offer => simp [isStateless, hsource] at hs
  | none =>
    cases hbody : n.body with
    | var k => exact (hk k hbody).narrows f rest hw
    | _ => rfl

/-- Whether the node accepts a word does not depend on what was typed of it. -/
theorem narrows_nodeCandidates (hs : n.isStateless = true)
    (hk : ∀ k, n.body = .var k → k.Standard) (c : Context σ) :
    Narrows fun typed => Grammar.nodeCandidates c typed n := by
  intro f rest hw
  dsimp only
  unfold Grammar.nodeCandidates
  split
  · have hname := Text.startsWith_append_space hw.not_blank n.name
    by_cases hlong : n.name.startsWith (f ++ rest) = true
    · rw [if_pos hlong, if_pos (Text.startsWith_of_append hlong), List.filter_singleton, hname,
        hlong]
      rfl
    · rw [if_neg hlong]
      split
      · rw [List.filter_singleton, hname, eq_false_of_ne_true hlong]
        rfl
      · rfl
  · rw [narrows_candidatesFor hs hk c f rest hw, List.filter_filter, List.filter_filter]
    exact List.filter_congr fun w _ => Bool.and_comm _ _

theorem nodeCandidates_withLine (hs : n.isStateless = true) (c : Context σ) (l : Line)
    (typed : String) :
    Grammar.nodeCandidates (c.withLine l) typed n = Grammar.nodeCandidates c typed n := by
  unfold Grammar.nodeCandidates
  rw [Grammar.candidatesFor_eq hs (c.withLine l) c]

end Node

namespace Grammar

variable {g : Grammar σ ε}

/-! ### Contexts -/

/-- A context offers less for a longer beginning of a word. -/
theorem narrows_contextCandidates (hg : g.Numbered) (hs : g.isStateless = true)
    (hk : g.Standard) (c : Context σ) : Narrows (g.contextCandidates c) := by
  intro f rest hw
  unfold contextCandidates
  rw [List.filter_flatMap]
  refine List.flatMap_congr fun n hn => ?_
  have hnode := node?_of_mem_following hg (List.mem_of_mem_filter hn)
  exact Node.narrows_nodeCandidates (isStateless_of_node? hs hnode) (hk _ n · hnode) c f rest hw

theorem contextCandidates_withLine (hg : g.Numbered) (hs : g.isStateless = true) (c : Context σ)
    (l : Line) (typed : String) :
    g.contextCandidates (c.withLine l) typed = g.contextCandidates c typed := by
  unfold contextCandidates
  have hasked : ((g.following c.position).filter fun n => !n.isAction && n.isOpen (c.withLine l)) =
      (g.following c.position).filter fun n => !n.isAction && n.isOpen c :=
    List.filter_congr fun n hn => by
      rw [n.isOpen_withLine (isStateless_of_node? hs (node?_of_mem_following hg hn))]
  rw [Context.position_withLine, hasked]
  refine List.flatMap_congr fun n hn => ?_
  have hnode := node?_of_mem_following hg (List.mem_of_mem_filter hn)
  exact Node.nodeCandidates_withLine (isStateless_of_node? hs hnode) c l typed

/-- What the contexts behind the complete tokens offer depends on the line through its tokens
alone. -/
theorem flatMap_contextCandidates_eq (hg : g.Numbered) (hs : g.isStateless = true) {l m : Line}
    (h : l.tokens = m.tokens) (user : Option σ) (typed : String) :
    (g.everyPosition (g.start l user)).flatMap (g.contextCandidates · typed) =
      (g.everyPosition (g.start m user)).flatMap (g.contextCandidates · typed) := by
  have hevery (l : Line) :
      g.everyPosition (g.start l user) = g.arrivalsWith l.tokens (g.start l user) :=
    everyPosition_eq g _
  have hstart : g.start l user = (g.start m user).withLine l := rfl
  rw [hevery, hevery, h, hstart, arrivalsWith_withLine hg hs, List.flatMap_map]
  exact List.flatMap_congr fun d _ => contextCandidates_withLine hg hs d l typed

/-! ### Lines -/

theorem filter_inOrder (texts : List String) (p : String → Bool) :
    (inOrder texts).filter p = inOrder (texts.filter p) := by
  refine eq_of_pairwise_lt ((pairwise_inOrder texts).filter p) (pairwise_inOrder _) fun x => ?_
  rw [List.mem_filter, mem_inOrder, mem_inOrder, List.mem_filter]

/-- The candidates are those of all contexts behind the ways that match the complete tokens. -/
theorem complete_eq_completeEvery (hg : g.Numbered) (input : String) (user : Option σ) :
    g.complete input user = g.completeEvery input user := by
  refine inOrder_congr fun w => ?_
  rw [← mem_inOrder, List.mem_flatMap]
  exact mem_complete_iff_every hg

end Grammar

/-- What holds of the kinds of all variables that are declared holds of those of the grammar. -/
theorem Builder.forall_kind_of_build {b : Builder σ ε} {g : Grammar σ ε} (h : b.build = .ok g)
    {P : Kind → Prop} (hb : ∀ e ∈ b.listing, ∀ decl inherited k, e.item = .node decl inherited →
      decl.body = .var k → P k) {i : Nat} {n : Node σ ε} {k : Kind} (hn : g.node? i = some n)
    (hk : n.body = .var k) : P k := by
  have hg := Builder.shows_of_build h
  rcases eq_or_ne i 0 with rfl | hi
  · cases hg.made hn with
    | root => cases hk
  · obtain ⟨e, he, hplace, decl, inherited, item⟩ := (hg.made hn).exists_entry hi
    obtain ⟨_, _, _, _, -, rfl⟩ := (hg.made hn).eq_of_entry hg.clean he hplace item
    exact hb e he decl inherited k item hk

open Grammar in
/-- In a stateless grammar whose variables have standard kinds, typing more of a word leaves of the
candidates those that start as typed. -/
theorem complete_narrows {b : Builder σ ε} {g : Grammar σ ε} (h : b.build = .ok g)
    (hs : g.isStateless = true) (hk : g.Standard) {p : String}
    (hp : (Line.read p).splitTrailing.2 = "") {f rest : String} (hw : Text.Bare (f ++ rest))
    (user : Option σ) :
    g.complete (p ++ (f ++ rest)) user =
      (g.complete (p ++ f) user).filter (·.startsWith (f ++ rest)) := by
  have hg := b.numbered_of_build h
  have hlong := Line.splitTrailing_append_bare hp hw
  have hshort := Line.splitTrailing_append_bare hp hw.of_append
  rw [complete_eq_completeEvery hg, complete_eq_completeEvery hg, completeEvery, completeEvery,
    filter_inOrder, List.filter_flatMap, typingStart, typingStart, hlong, hshort]
  rw [flatMap_contextCandidates_eq (l := ⟨p ++ (f ++ rest), (Line.read p).tokens⟩)
    (m := ⟨p ++ f, (Line.read p).tokens⟩) hg hs rfl]
  congr 1
  exact List.flatMap_congr fun c _ => narrows_contextCandidates hg hs hk c f rest hw

namespace Sample

/-- The command `set` takes yes or no, a time zone, one of two levels, or `traffic`. -/
def settings : Builder Unit String where
  elements := [
    .node { body := .literal, name := some "set" } [
      .node { body := .var .boolean, name := some "flag" } [],
      .node { body := .var .timeZone, name := some "zone" } [],
      .node
        { body := .var .text
          name := some "level"
          candidates := some (.fixed ["trace", "info"]) } [],
      .node { body := .literal, name := some "traffic" } []]]
  merges := []

theorem settings_standard {g : Grammar Unit String} (h : settings.build = .ok g) : g.Standard := by
  intro i n k hn hk
  refine Builder.forall_kind_of_build h (fun e he decl inherited k item hk => ?_) hn hk
  change e ∈ [_, _, _, _, _] at he
  simp only [List.mem_cons, List.not_mem_nil, or_false] at he
  rcases he with rfl | rfl | rfl | rfl | rfl <;> cases item <;> cases hk
  · exact .boolean
  · exact .timeZone
  · exact .text

end Sample

theorem complete_narrows_settings :
    ∃ g, Sample.settings.build = .ok g ∧ g.isStateless = true ∧ g.Standard ∧
      (Line.read "set ").splitTrailing.2 = "" ∧ Text.Bare ("tr" ++ "a") ∧
      "true " ∈ g.complete ("set " ++ "tr") none ∧
      "trace " ∈ g.complete ("set " ++ ("tr" ++ "a")) none ∧
      g.complete ("set " ++ ("tr" ++ "a")) none =
        (g.complete ("set " ++ "tr") none).filter (·.startsWith ("tr" ++ "a")) := by
  obtain ⟨g, hg, hval⟩ := Sample.settings.exists_build
    (f := fun g =>
      (g.isStateless,
        ["trace ", "true "].all ((g.everyPosition (g.typingStart "set tr" none)).flatMap
          (g.contextCandidates · (Line.read "set tr").splitTrailing.2)).contains))
    (v := (true, true)) (by decide +kernel)
  obtain ⟨hs, hoffered⟩ := Prod.mk.inj hval
  have hmem : ∀ w ∈ ["trace ", "true "], w ∈ g.complete ("set " ++ "tr") none := by
    intro w hw
    rw [Grammar.complete_eq_completeEvery (Builder.numbered_of_build hg), Grammar.completeEvery,
      Grammar.mem_inOrder]
    exact List.contains_iff_mem.mp (List.all_eq_true.mp hoffered w hw)
  have hquote : ∀ c ∈ ("tr" ++ "a").toList.head?, Text.isQuote c = false := by
    rintro c ⟨⟩
    decide
  have hw : Text.Bare ("tr" ++ "a") := ⟨Text.not_blank_of_all (by decide +kernel), hquote⟩
  have hp : (Line.read "set ").splitTrailing.2 = "" := by decide +kernel
  have hk := Sample.settings_standard hg
  have hnarrow := complete_narrows hg hs hk hp hw none
  refine ⟨g, hg, hs, hk, hp, hw, hmem _ (by decide), ?_, hnarrow⟩
  rw [hnarrow, List.mem_filter]
  exact ⟨hmem _ (by decide), by decide +kernel⟩

end CommandGrammar
