import CommandGrammar.Proofs.Line
import CommandGrammar.Proofs.Search

/-! What matching a line gives. If there is a complete way, the line is matched along the first of
them, and running it runs the action behind that way and nothing else. If there is none, the line is
matched along the first of the longest ways. In a stateless grammar the memory of failed states
changes neither. -/

namespace CommandGrammar.Grammar

variable {σ ε : Type}

/-! ### Firsts of ordered lists -/

/-- In an ordered list, what does not stand in front of an element is that element or follows it. -/
theorem eq_or_rel_of_not_mem {α : Type} {R : α → α → Prop} {l l₁ l₂ : List α} {a x : α}
    (h : l.Pairwise R) (hl : l = l₁ ++ a :: l₂) (hx : x ∈ l) (hx₁ : x ∉ l₁) : x = a ∨ R a x := by
  subst hl
  rcases List.mem_append.mp hx with hx | hx
  · exact absurd hx hx₁
  · rcases List.mem_cons.mp hx with rfl | hx
    · exact .inl rfl
    · exact .inr ((List.pairwise_cons.mp (List.pairwise_append.mp h).2.1).1 x hx)

theorem append_lt_append {v w x y : List Nat} (hlen : v.length = w.length) (h : v < w) :
    v ++ x < w ++ y := by
  induction v generalizing w with
  | nil =>
    rw [List.eq_nil_of_length_eq_zero hlen.symm] at h
    exact absurd h (List.not_lt_nil _)
  | cons a v ih =>
    cases w with
    | nil => cases hlen
    | cons b w =>
      rw [List.cons_append, List.cons_append, List.cons_lt_cons_iff]
      rcases List.cons_lt_cons_iff.mp h with hab | ⟨rfl, hvw⟩
      · exact .inl hab
      · exact .inr ⟨rfl, ih (Nat.succ.inj hlen) hvw⟩

/-! ### Complete ways -/

/-- A complete way in front of all others. -/
structure FirstComplete (g : Grammar σ ε) (c : Context σ) (way : List Nat) (place : Nat)
    (d : Context σ) (n : Node σ ε) : Prop extends g.Completes c way place d n where
  first : ∀ way' place' d' n', g.Completes c way' place' d' n' →
    way ++ [place] = way' ++ [place'] ∨ way ++ [place] < way' ++ [place']

theorem finish?_eq_head? (g : Grammar σ ε) (d : Context σ) :
    g.finish? d = ((g.placed d.position).find? fun e => e.2.isAction && e.2.isOpen d).map
      fun e => d.finish e.2.id := by
  rw [finish?, ← map_snd_placed, List.find?_map, Option.map_map]
  rfl

theorem finish?_eq_none {g : Grammar σ ε} {d : Context σ} (h : g.finish? d = none) {place : Nat}
    {n : Node σ ε} (hn : g.edge? d.position place = some n) :
    ¬(n.isAction = true ∧ n.isOpen d = true) := by
  rw [finish?_eq_head?, Option.map_eq_none_iff, List.find?_eq_none] at h
  simpa using h (place, n) (mem_placed.mpr hn)

/-- A context is finished by the first open action behind its edges. -/
theorem exists_of_finish? {g : Grammar σ ε} {d r : Context σ} (h : g.finish? d = some r) :
    ∃ place n, g.edge? d.position place = some n ∧ n.isAction = true ∧ n.isOpen d = true ∧
      r = d.finish n.id ∧ ∀ place' n', g.edge? d.position place' = some n' → n'.isAction = true →
        n'.isOpen d = true → place ≤ place' := by
  rw [finish?_eq_head?] at h
  obtain ⟨⟨place, n⟩, hfind, rfl⟩ := Option.map_eq_some_iff.mp h
  obtain ⟨hp, l₁, l₂, hl, hbefore⟩ := List.find?_eq_some_iff_append.mp hfind
  rw [Bool.and_eq_true] at hp
  have hmem : (place, n) ∈ g.placed d.position := by simp [hl]
  refine ⟨place, n, mem_placed.mp hmem, hp.1, hp.2, rfl, fun place' n' hn' ha ho => ?_⟩
  have hnot : (place', n') ∉ l₁ := fun hin => by simpa [ha, ho] using hbefore _ hin
  rcases eq_or_rel_of_not_mem (g.pairwise_placed _) hl (mem_placed.mpr hn') hnot with he | hlt
  · exact (congrArg Prod.fst he).ge
  · exact Nat.le_of_lt hlt

theorem answerWith_eq_none_iff {g : Grammar σ ε} (hg : g.Numbered) {c : Context σ} :
    g.answerWith c.pending c = none ↔ ¬∃ way place d n, g.Completes c way place d n := by
  rw [answerWith, arrivalsWith, List.findSome?_map, List.findSome?_eq_none_iff]
  constructor
  · rintro h ⟨way, place, d, n, hw⟩
    have hd := h (way, d) ((mem_fullWays hg).mpr ⟨hw.follows, hw.length_eq⟩)
    exact finish?_eq_none hd hw.edge ⟨hw.isAction, hw.isOpen⟩
  · rintro h ⟨way, d⟩ hw
    obtain ⟨hfollow, hlen⟩ := (mem_fullWays hg).mp hw
    by_contra hne
    obtain ⟨r, hr⟩ := Option.ne_none_iff_exists'.mp hne
    obtain ⟨place, n, hn, ha, ho, -, -⟩ := exists_of_finish? hr
    exact h ⟨way, place, d, n, hfollow, hlen, hn, ha, ho⟩

/-- The answer of the search is given by the first complete way. -/
theorem exists_firstComplete {g : Grammar σ ε} (hg : g.Numbered) {c r : Context σ}
    (h : g.answerWith c.pending c = some r) :
    ∃ way place d n, g.FirstComplete c way place d n ∧ r = d.finish n.id := by
  rw [answerWith, arrivalsWith, List.findSome?_map] at h
  obtain ⟨l₁, ⟨way, d⟩, l₂, hl, hr, hbefore⟩ := List.findSome?_eq_some_iff.mp h
  have hl : g.fullWays c = l₁ ++ (way, d) :: l₂ := hl
  obtain ⟨place, n, hn, ha, ho, rfl, hleast⟩ := exists_of_finish? hr
  obtain ⟨hfollow, hlen⟩ := (mem_fullWays hg).mp (by simp [hl] : (way, d) ∈ g.fullWays c)
  refine ⟨way, place, d, n, ⟨⟨hfollow, hlen, hn, ha, ho⟩, ?_⟩, rfl⟩
  intro way' place' d' n' hw
  have hnot : (way', d') ∉ l₁ := fun hin =>
    finish?_eq_none (hbefore _ hin) hw.edge ⟨hw.isAction, hw.isOpen⟩
  have hmem := (mem_fullWays hg).mpr ⟨hw.follows, hw.length_eq⟩
  rcases eq_or_rel_of_not_mem (g.pairwise_fullWays c) hl hmem hnot with he | hlt
  · obtain ⟨rfl, rfl⟩ := Prod.mk.inj he
    have hle := hleast place' n' hw.edge hw.isAction hw.isOpen
    rcases Nat.eq_or_lt_of_le hle with rfl | hlt
    · exact .inl rfl
    · exact .inr (List.append_left_lt (List.cons_lt_cons_iff.mpr (.inl hlt)))
  · exact .inr (append_lt_append (hlen.trans hw.length_eq.symm) hlt)

/-! ### Longest ways -/

/-- A way that can be followed, in front of all others that are as long, where none is longer. -/
structure FirstLongest (g : Grammar σ ε) (c : Context σ) (way : List Nat) (d : Context σ) :
    Prop where
  follows : g.follow? c way = some d
  longest : ∀ way' d', g.follow? c way' = some d' → way'.length ≤ way.length
  first : ∀ way' d', g.follow? c way' = some d' → way'.length = way.length →
    way = way' ∨ way < way'

/-- The first of the longest contexts is met behind the first of the longest ways. -/
theorem exists_firstLongest {g : Grammar σ ε} (hg : g.Numbered) (c : Context σ) :
    ∃ way, g.FirstLongest c way ((g.metWith c.pending c).foldl longer c) := by
  obtain ⟨met, hmet⟩ := g.exists_metWith c.pending c
  obtain ⟨l₁, l₂, hl, h₁, h₂⟩ := foldl_longer met c
  rw [← hmet] at hl
  rw [hmet, List.foldl_cons, longer_eq_left le_rfl]
  generalize met.foldl longer c = d at hl h₁ h₂ ⊢
  obtain ⟨w₁, w, hways, rfl, hw⟩ := List.map_eq_append_iff.mp hl
  obtain ⟨⟨way, e⟩, w₂, rfl, rfl, rfl⟩ := List.map_eq_cons_iff.mp hw
  have hsize {way' : List Nat} {d' : Context σ} (h : g.follow? c way' = some d') :
      d'.consumed = c.consumed + way'.length := (history_of_follow? hg h).1
  have hfollow : g.follow? c way = some e := (mem_ways hg).mp (by simp [ways, hways])
  have hle {way' : List Nat} {d' : Context σ} (h : g.follow? c way' = some d') :
      d'.consumed ≤ e.consumed := by
    have hmem := (mem_ways hg).mpr h
    rw [ways, hways, List.mem_append, List.mem_cons] at hmem
    rcases hmem with hin | heq | hin
    · exact (h₁ d' (List.mem_map_of_mem hin)).le
    · exact (congrArg (·.2.consumed) heq).le
    · exact h₂ d' (List.mem_map_of_mem hin)
  refine ⟨way, hfollow, fun way' d' h => ?_, fun way' d' h hlen => ?_⟩
  · have := hle h
    rw [hsize h, hsize hfollow] at this
    omega
  · have hnot : (way', d') ∉ w₁ := fun hin => by
      have := h₁ _ (List.mem_map_of_mem hin)
      rw [hsize h, hsize hfollow, hlen] at this
      exact lt_irrefl _ this
    rcases eq_or_rel_of_not_mem (g.pairwise_ways c) hways ((mem_ways hg).mpr h) hnot with he | hlt
    · exact .inl (congrArg Prod.fst he).symm
    · exact .inr hlt

/-! ### Lines -/

theorem Records.finish {g : Grammar σ ε} {l : Line} {user : Option σ} {way : List Nat}
    {c : Context σ} (h : g.Records l user way c) (action : Nat) :
    g.Records l user way (c.finish action) :=
  ⟨h.outline, h.line, h.user, h.consumed, h.history, h.position, h.traversed, h.vars⟩

/-- A line is matched along the first complete way, or else along the first of the longest. -/
theorem check_cases {g : Grammar σ ε} (hg : g.Numbered) (input : String) (user : Option σ) :
    (∃ way place d n, g.FirstComplete (g.start (.read input) user) way place d n ∧
      g.check input user = d.finish n.id) ∨
    ((¬∃ way place d n, g.Completes (g.start (.read input) user) way place d n) ∧
      ∃ way, g.FirstLongest (g.start (.read input) user) way (g.check input user)) := by
  change (∃ way place d n, _ ∧ g.matchPending (g.start (.read input) user) = _) ∨
    (_ ∧ ∃ way, g.FirstLongest _ way (g.matchPending (g.start (.read input) user)))
  rw [matchPending_eq hg (g.onLine_start (.read input) user)]
  cases hans : g.answerWith (g.start (.read input) user).pending (g.start (.read input) user) with
  | some r => exact .inl (exists_firstComplete hg hans)
  | none => exact .inr ⟨(answerWith_eq_none_iff hg).mp hans, exists_firstLongest hg _⟩

theorem parse_of_not_isComplete {g : Grammar σ ε} {input : String} {user : Option σ}
    (h : (g.check input user).isComplete = false) :
    g.parse input user = (g.check input user, ⟨[], .ok ()⟩) := by
  simp [parse, h]

/-- Running a line that reaches an action answers what one run of the action answers. -/
theorem parse_of_action {g : Grammar σ ε} {input : String} {user : Option σ} {n : Node σ ε}
    {run : Action σ ε} (ha : (g.check input user).action = some n.id)
    (hn : g.node? n.id = some n) (hr : n.body = .action run) :
    g.parse input user = (g.check input user, ⟨(run (g.check input user)).effects,
      (run (g.check input user)).result.mapError .refused⟩) := by
  have hc : (g.check input user).isComplete = true := by simp [Context.isComplete, ha]
  simp only [parse, hc, ↓reduceIte, execute, ha, Option.bind_some, hn, hr]

end CommandGrammar.Grammar

namespace CommandGrammar

variable {σ ε : Type}

/-- A line reaches an action if and only if there is a complete way. It is then matched along the
first complete way, the context records that way, and running the line runs the action behind it
once, in that context, and no other. Without a complete way running the line does nothing. -/
theorem check_first_complete_way {b : Builder σ ε} {g : Grammar σ ε} (h : b.build = .ok g)
    (input : String) (user : Option σ) :
    ((g.check input user).isComplete = true ↔
      ∃ way place d n, g.Completes (g.start (.read input) user) way place d n) ∧
    ((g.check input user).isComplete = true →
      ∃ way place d n run, g.FirstComplete (g.start (.read input) user) way place d n ∧
        g.Records (.read input) user way (g.check input user) ∧
        (g.check input user).action = some n.id ∧ g.node? n.id = some n ∧ n.body = .action run ∧
        g.parse input user = (g.check input user, ⟨(run (g.check input user)).effects,
          (run (g.check input user)).result.mapError .refused⟩)) ∧
    ((g.check input user).isComplete = false →
      g.parse input user = (g.check input user, ⟨[], .ok ()⟩)) := by
  have hg := b.numbered_of_build h
  refine ⟨?_, ?_, Grammar.parse_of_not_isComplete⟩
  · rcases Grammar.check_cases hg input user with ⟨way, place, d, n, hw, hc⟩ | ⟨hno, way, hw⟩
    · rw [hc]
      exact ⟨fun _ => ⟨way, place, d, n, hw.toCompletes⟩, fun _ => rfl⟩
    · have ha := (Grammar.records_of_follow? hg hw.follows).2.2
      exact ⟨fun hc => by simp [Context.isComplete, ha] at hc, fun hex => absurd hex hno⟩
  · intro hcomplete
    rcases Grammar.check_cases hg input user with ⟨way, place, d, n, hw, hc⟩ | ⟨-, way, hw⟩
    · have hn := (Grammar.node?_of_edge? hg hw.edge).2
      have hrec := (Grammar.records_of_follow? hg hw.follows).1.finish n.id
      have ha : (g.check input user).action = some n.id := by rw [hc]; rfl
      obtain ⟨run, hr⟩ : ∃ run, n.body = .action run := by
        have := hw.isAction
        unfold Node.isAction at this
        split at this
        · next run hbody => exact ⟨run, hbody⟩
        · cases this
      exact ⟨way, place, d, n, run, hw, hc ▸ hrec, ha, hn, hr, Grammar.parse_of_action ha hn hr⟩
    · have ha := (Grammar.records_of_follow? hg hw.follows).2.2
      simp [Context.isComplete, ha] at hcomplete

theorem check_tags_end :
    ∃ g, Sample.tags.build = .ok g ∧ (g.check "tags a b c end" none).isComplete = true ∧
      ∃ way place d n run,
        g.FirstComplete (g.start (.read "tags a b c end") none) way place d n ∧
        g.Records (.read "tags a b c end") none way (g.check "tags a b c end" none) ∧
        (g.check "tags a b c end" none).action = some n.id ∧ g.node? n.id = some n ∧
        n.body = .action run ∧
        g.parse "tags a b c end" none = (g.check "tags a b c end" none,
          ⟨(run (g.check "tags a b c end" none)).effects,
            (run (g.check "tags a b c end" none)).result.mapError .refused⟩) := by
  obtain ⟨g, hg, hanswer⟩ := Sample.tags.exists_build
    (f := fun g =>
      let c := g.start (.read "tags a b c end") none
      (g.answerWith c.pending c).isSome) (v := true) (by decide +kernel)
  obtain ⟨hiff, hfirst, -⟩ := check_first_complete_way hg "tags a b c end" none
  have hcomplete := hiff.mpr <| by
    by_contra hno
    dsimp only at hanswer
    rw [(Grammar.answerWith_eq_none_iff (Sample.tags.numbered_of_build hg)).mpr hno] at hanswer
    cases hanswer
  exact ⟨g, hg, hcomplete, hfirst hcomplete⟩

/-- A line without a complete way is matched along the first of the longest ways. What remains of
it is what follows from the start of the first token that this way does not match. -/
theorem check_first_longest_way {b : Builder σ ε} {g : Grammar σ ε} (h : b.build = .ok g)
    (input : String) (user : Option σ)
    (hno : ¬∃ way place d n, g.Completes (g.start (.read input) user) way place d n) :
    (g.check input user).action = none ∧
    ∃ way, g.FirstLongest (g.start (.read input) user) way (g.check input user) ∧
      g.Records (.read input) user way (g.check input user) ∧
      (∀ t, (Line.read input).tokens[way.length]? = some t →
        ∃ before behind, input = before ++ (g.check input user).remaining ∧
          before.utf8ByteSize = t.start ∧ (g.check input user).remaining = t.text ++ behind) ∧
      ((Line.read input).tokens[way.length]? = none → (g.check input user).remaining = "") := by
  have hg := b.numbered_of_build h
  rcases Grammar.check_cases hg input user with ⟨way, place, d, n, hw, -⟩ | ⟨-, way, hw⟩
  · exact absurd ⟨way, place, d, n, hw.toCompletes⟩ hno
  · obtain ⟨hrec, -, ha⟩ := Grammar.records_of_follow? hg hw.follows
    have hrem : (g.check input user).remaining = (Line.read input).remaining way.length := by
      rw [Context.remaining, hrec.line, hrec.consumed]
    refine ⟨ha, way, hw, hrec, fun t ht => ?_, fun ht => ?_⟩
    · obtain ⟨happend, hsize, rest, hrest⟩ := Line.cut_of_token ht
      rw [hrem]
      exact ⟨_, rest, happend.symm, hsize, hrest⟩
    · rw [hrem]
      exact (Line.cut_of_end ht).2

theorem check_tags_too_long :
    ∃ g, Sample.tags.build = .ok g ∧
      (¬∃ way place d n, g.Completes (g.start (.read "tags a b c d e") none) way place d n) ∧
      (g.check "tags a b c d e" none).action = none ∧
      ∃ way, g.FirstLongest (g.start (.read "tags a b c d e") none) way
          (g.check "tags a b c d e" none) ∧
        g.Records (.read "tags a b c d e") none way (g.check "tags a b c d e" none) ∧
        (∀ t, (Line.read "tags a b c d e").tokens[way.length]? = some t →
          ∃ before behind, "tags a b c d e" = before ++ (g.check "tags a b c d e" none).remaining ∧
            before.utf8ByteSize = t.start ∧
            (g.check "tags a b c d e" none).remaining = t.text ++ behind) ∧
        ((Line.read "tags a b c d e").tokens[way.length]? = none →
          (g.check "tags a b c d e" none).remaining = "") := by
  obtain ⟨g, hg, hanswer⟩ := Sample.tags.exists_build
    (f := fun g =>
      let c := g.start (.read "tags a b c d e") none
      (g.answerWith c.pending c).isNone) (v := true) (by decide +kernel)
  have hno := (Grammar.answerWith_eq_none_iff (Sample.tags.numbered_of_build hg)).mp
    (Option.isNone_iff_eq_none.mp hanswer)
  exact ⟨g, hg, hno, check_first_longest_way hg "tags a b c d e" none hno⟩

/-- The memory of failed states, which the search of a stateless grammar keeps, changes nothing
about the context in which a line is left. -/
theorem check_eq_seekPending {b : Builder σ ε} {g : Grammar σ ε} (h : b.build = .ok g)
    (input : String) (user : Option σ) :
    g.check input user = g.seekPending (g.start (.read input) user) := by
  have hg := b.numbered_of_build h
  have hc := g.onLine_start (.read input) user
  exact (Grammar.matchPending_eq hg hc).trans (Grammar.seekPending_eq hg hc).symm

theorem check_tags_remaining :
    ∃ g, Sample.tags.build = .ok g ∧ g.isStateless = true ∧
      g.check "tags a b c d e" none = g.seekPending (g.start (.read "tags a b c d e") none) ∧
      (g.check "tags a b c d e" none).remaining = "e" := by
  obtain ⟨g, hg, hval⟩ := Sample.tags.exists_build
    (f := fun g =>
      (g.isStateless, (g.seekPending (g.start (.read "tags a b c d e") none)).remaining))
    (v := (true, "e")) (by decide +kernel)
  obtain ⟨hs, hrem⟩ := Prod.mk.inj hval
  have hcheck := check_eq_seekPending hg "tags a b c d e" none
  exact ⟨g, hg, hs, hcheck, by rw [hcheck, hrem]⟩

end CommandGrammar
