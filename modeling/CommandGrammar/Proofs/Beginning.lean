import CommandGrammar.Proofs.Offered

/-! Whether what would match is offered. A word behind the tokens of a line may be matched by a node
that is named by it, or that has it among its fixed words. Then every beginning of the word, the
empty one and the word itself included, is completed by it: the beginning is split off as the token
that is being typed, and the node is asked in a context in which the word may be entered. -/

namespace CommandGrammar

variable {σ ε : Type}

/-! ### Words behind a line -/

/-- The text has no white space and does not start with a quote. -/
structure Text.Bare (text : String) : Prop where
  not_blank : ∀ c ∈ text.toList, isBlank c = false
  not_quote : ∀ c ∈ text.toList.head?, isQuote c = false

/-- The beginning of a word without white space and quotes is such a word. -/
theorem Text.Bare.of_append {f rest : String} (h : Bare (f ++ rest)) : Bare f := by
  obtain ⟨hblank, hquote⟩ := h
  rw [String.toList_append] at hblank hquote
  refine ⟨fun c hc => hblank c (List.mem_append_left _ hc), fun c hc => hquote c ?_⟩
  rw [List.head?_append, Option.mem_def.mp hc]
  rfl

namespace Line

/-- A word is read as one token. -/
theorem tokens_of_bare {w : String} (hw : Text.Bare w) (hne : w ≠ "") :
    (read w).tokens = [⟨w, 0⟩] := by
  have hchars : w.toList ≠ [] := mt String.toList_eq_nil_iff.mp hne
  have hlexeme : Lexeme w.toList "".toList := .of_bare hchars hw.not_quote hw.not_blank nofun
  have htokens := tokens_of_lexeme hlexeme
  rw [String.append_empty] at htokens
  exact htokens

/-- A word typed behind a line on which nothing is being typed is one more token. -/
theorem tokens_append_bare {p w : String} (hp : (read p).splitTrailing.2 = "") (hw : Text.Bare w)
    (hne : w ≠ "") : (read (p ++ w)).tokens = (read p).tokens ++ [⟨w, p.utf8ByteSize⟩] := by
  rw [tokens_append hp, tokens_of_bare hw hne, List.map_singleton, Token.shift, Nat.zero_add]

/-- The beginning of a word is split off as the token that is being typed. -/
theorem splitTrailing_append_bare {p f : String} (hp : (read p).splitTrailing.2 = "")
    (hf : Text.Bare f) : (read (p ++ f)).splitTrailing = (⟨p ++ f, (read p).tokens⟩, f) := by
  by_cases hne : f = ""
  · subst hne
    rw [String.append_empty]
    exact Prod.ext (splitTrailing_eq_self hp) hp
  · have htokens := tokens_append_bare hp hf hne
    have hstop : Token.stop ⟨f, p.utf8ByteSize⟩ = (read (p ++ f)).input.utf8ByteSize :=
      String.utf8ByteSize_append.symm
    unfold splitTrailing
    rw [htokens, List.getLast?_concat]
    dsimp only
    rw [if_pos hstop, List.dropLast_concat]
    rfl

end Line

/-! ### Nodes that have a word to offer -/

/-- A word without white space is completed by itself and a space. -/
theorem Candidate.ofWord_bare {w : String} (hw : Text.Bare w) : ofWord w = w ++ " " := by
  have hkeep : w.toList.rdropWhile (· == ' ') = w.toList := by
    rw [List.rdropWhile_eq_self_iff]
    intro hne hlast
    have hspace : w.toList.getLast hne = ' ' := by simpa using hlast
    have hblank := hw.not_blank _ (List.getLast_mem hne)
    rw [hspace] at hblank
    exact absurd hblank (by decide)
  change String.ofList (w.toList.rdropWhile (· == ' ')) ++ " " = w ++ " "
  rw [hkeep, String.ofList_toList]

namespace Node

/-- The node is named by the word, and has no candidates in its place, or has it among its fixed
words. -/
def Words (n : Node σ ε) (w : String) : Prop :=
  (n.literal = true ∧ n.candidates = none ∧ n.name = w) ∨
    ∃ words, n.candidates = some (.fixed words) ∧ w ∈ words

/-- A node offers its word for every beginning of it, if the word may be entered. -/
theorem Words.mem_nodeCandidates {n : Node σ ε} {f rest : String} (h : n.Words (f ++ rest))
    (hw : Text.Bare (f ++ rest)) (hne : f ++ rest ≠ "") {c : Context σ}
    (henter : (n.enter? c (f ++ rest)).isSome = true) :
    f ++ rest ++ " " ∈ Grammar.nodeCandidates c f n := by
  have hstarts : (f ++ rest).startsWith f = true := by
    rw [String.startsWith_string_iff, String.toList_append]
    exact List.prefix_append _ _
  unfold Grammar.nodeCandidates
  rcases h with ⟨hl, hnone, hname⟩ | ⟨words, hfixed, hmem⟩
  · rw [hl, hnone, if_pos (by rfl), hname, if_pos hstarts]
    exact List.mem_singleton_self _
  · -- the word is accepted again when it is offered, because it may be entered
    obtain ⟨-, -, hfits, -, hvalue⟩ := isSome_enter?_iff.mp henter
    have haccepts : n.accepts (f ++ rest) = true := by rw [accepts_eq_and, hfits, hvalue]; rfl
    have htrim : Text.trimEnd (f ++ rest ++ " ") = f ++ rest :=
      Text.trimEnd_append_space fun c hc => hw.not_blank c (List.mem_of_mem_getLast? hc)
    rw [if_neg (by simp [hfixed]), List.mem_filter, htrim, haccepts, Bool.or_true]
    refine ⟨?_, rfl⟩
    simp only [candidatesFor, hfixed, CandidateSource.offer]
    refine List.mem_map.mpr ⟨f ++ rest, List.mem_filter.mpr ⟨hmem, ?_⟩, Candidate.ofWord_bare hw⟩
    rw [hstarts, Bool.and_true, Bool.not_eq_true', String.isEmpty_eq_false_iff]
    exact hne

end Node

/-! ### Lines -/

namespace Grammar

variable {g : Grammar σ ε}

/-- A way that matches all tokens of a line enters its last node with the last token, behind one of
the ways that match the tokens in front. -/
theorem exists_enter?_of_follow? (hg : g.Numbered) (hs : g.isStateless = true) {input : String}
    {l : Line} {t : Token} (htokens : (Line.read input).tokens = l.tokens ++ [t])
    {user : Option σ} {way : List Nat} {d : Context σ}
    (hway : g.follow? (g.start (.read input) user) way = some d)
    (hlength : way.length = (Line.read input).tokens.length) :
    ∃ e ∈ g.everyPosition (g.start l user), ∃ n ∈ g.following e.position,
      (n.enter? e t.text).isSome = true ∧ g.node? d.position = some n := by
  have hevery : g.everyPosition (g.start l user) = g.arrivalsWith l.tokens (g.start l user) :=
    everyPosition_eq g _
  have hstart : g.start (.read input) user = (g.start l user).withLine (.read input) := rfl
  have hpending : (g.start (.read input) user).pending = (Line.read input).tokens := List.drop_zero
  have hfull := (mem_fullWays hg).mpr ⟨hway, hpending ▸ hlength⟩
  have hd : d ∈ g.arrivalsWith (Line.read input).tokens (g.start (.read input) user) :=
    List.mem_map_of_mem (f := (·.2)) hfull
  rw [htokens, arrivalsWith_append, hstart, arrivalsWith_withLine hg hs, List.flatMap_map,
    List.mem_flatMap] at hd
  obtain ⟨e, he, hd⟩ := hd
  obtain ⟨n, hn, henter⟩ := mem_arrivalsWith_singleton.mp hd
  have hnode := node?_of_mem_following hg hn
  rw [n.enter?_withLine (isStateless_of_node? hs hnode)] at henter
  obtain ⟨e', he', rfl⟩ := Option.map_eq_some_iff.mp henter
  refine ⟨e, hevery ▸ he, n, hn, Option.isSome_of_eq_some he', ?_⟩
  obtain ⟨-, -, hstep⟩ := Node.enter?_eq_some.mp he'
  obtain ⟨-, -, value, -, rfl⟩ := Node.step?_eq_some.mp hstep
  exact hnode

end Grammar

open Grammar in
/-- If a way of a stateless grammar matches the tokens of a line and a word behind it, and its last
node has that word to offer, then every beginning of the word is completed by it. -/
theorem complete_beginning {b : Builder σ ε} {g : Grammar σ ε} (h : b.build = .ok g)
    (hs : g.isStateless = true) {p : String} (hp : (Line.read p).splitTrailing.2 = "")
    {f rest : String} (hw : Text.Bare (f ++ rest)) (hne : f ++ rest ≠ "") {user : Option σ}
    {way : List Nat} {d : Context σ} {n : Node σ ε}
    (hway : g.follow? (g.start (.read (p ++ (f ++ rest))) user) way = some d)
    (hlength : way.length = (Line.read (p ++ (f ++ rest))).tokens.length)
    (hn : g.node? d.position = some n) (hwords : n.Words (f ++ rest)) :
    (Line.read (p ++ (f ++ rest))).tokens =
        (Line.read p).tokens ++ [⟨f ++ rest, p.utf8ByteSize⟩] ∧
      f ++ rest ++ " " ∈ g.complete (p ++ f) user := by
  have hg := b.numbered_of_build h
  have htokens := Line.tokens_append_bare hp hw hne
  refine ⟨htokens, ?_⟩
  rw [mem_complete_iff_every hg, typingStart, Line.splitTrailing_append_bare hp hw.of_append]
  obtain ⟨e, he, m, hm, henter, hlast⟩ :=
    exists_enter?_of_follow? (l := ⟨p ++ f, (Line.read p).tokens⟩) hg hs htokens hway hlength
  obtain rfl := Option.some.inj (hn.symm.trans hlast)
  obtain ⟨haction, hopen, -⟩ := Node.isSome_enter?_iff.mp henter
  exact ⟨e, he, mem_contextCandidates_iff.mpr
    ⟨n, hm, haction, hopen, hwords.mem_nodeCandidates hw hne henter⟩⟩

theorem complete_tags_beginning :
    ∃ g, Sample.tags.build = .ok g ∧ (Line.read "tags a b ").splitTrailing.2 = "" ∧
      "end " ∈ g.complete ("tags a b " ++ "e") none := by
  obtain ⟨g, hg, hval⟩ := Sample.tags.exists_build
    (f := fun g =>
      (g.isStateless,
        ((g.follow? (g.start (.read ("tags a b " ++ ("e" ++ "nd"))) none) [0, 0, 1, 2]).bind
          fun d => g.node? d.position).map fun n => (n.literal, n.candidates.isNone, n.name)))
    (v := (true, some (true, true, "end"))) (by decide +kernel)
  obtain ⟨hs, hlast⟩ := Prod.mk.inj hval
  obtain ⟨n, hn, hlast⟩ := Option.map_eq_some_iff.mp hlast
  obtain ⟨d, hway, hn⟩ := Option.bind_eq_some_iff.mp hn
  obtain ⟨hliteral, hlast⟩ := Prod.mk.inj hlast
  obtain ⟨hnone, hname⟩ := Prod.mk.inj hlast
  have hp : (Line.read "tags a b ").splitTrailing.2 = "" := by decide +kernel
  have hquote : ∀ c ∈ ("e" ++ "nd").toList.head?, Text.isQuote c = false := by
    rintro c ⟨⟩
    decide
  have hw : Text.Bare ("e" ++ "nd") := ⟨Text.not_blank_of_all (by decide +kernel), hquote⟩
  refine ⟨g, hg, hp, ?_⟩
  exact (complete_beginning hg hs hp hw (by decide) hway (by decide +kernel) hn
    (.inl ⟨hliteral, Option.isNone_iff_eq_none.mp hnone, hname⟩)).2

end CommandGrammar
