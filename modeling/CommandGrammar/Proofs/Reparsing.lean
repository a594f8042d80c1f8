import CommandGrammar.Proofs.LongerLine
import CommandGrammar.Proofs.Rereading

/-! Matching again what was parsed. A line that is cut where its match ends has exactly the tokens
that were matched, and a stateless grammar can follow the same ways along them as before. So the
first of the longest ways stays the first of the longest, unless an action can now be reached. -/

namespace CommandGrammar

variable {σ ε : Type}

namespace Grammar

variable {g : Grammar σ ε}

/-! ### The same way on another line -/

/-- Whether an edge can be taken depends on the line through the next token only. -/
theorem take?_withLine (hg : g.Numbered) (hs : g.isStateless = true) {c : Context σ} {l : Line}
    (hnext : (c.withLine l).pending.head? = c.pending.head?) (place : Nat) :
    g.take? (c.withLine l) place = (g.take? c place).map (·.withLine l) := by
  unfold take?
  rw [Context.position_withLine, hnext]
  cases hedge : g.edge? c.position place with
  | none => rfl
  | some n =>
    have hstateless := isStateless_of_node? hs (node?_of_edge? hg hedge).2
    cases c.pending.head? with
    | none => rfl
    | some token =>
      simp only [Option.bind_eq_bind, Option.bind_some, Node.isOpen_withLine hstateless,
        Node.step?_withLine hstateless]
      split <;> rfl

/-- A way that matches none but the tokens in front of a cut can be followed on the line that is
cut. -/
theorem follow?_withLine (hg : g.Numbered) (hs : g.isStateless = true) {l : Line} {matched : Nat}
    {way : List Nat} {c : Context σ} (htokens : l.tokens = c.line.tokens.take matched)
    (hle : c.consumed + way.length ≤ matched) :
    g.follow? (c.withLine l) way = (g.follow? c way).map (·.withLine l) := by
  induction way generalizing c with
  | nil => rfl
  | cons place way ih =>
    rw [List.length_cons] at hle
    have hnext : (c.withLine l).pending.head? = c.pending.head? := by
      rw [Context.pending, Context.pending, List.head?_drop, List.head?_drop]
      change l.tokens[c.consumed]? = _
      rw [htokens, List.getElem?_take_of_lt (by omega)]
    rw [follow?, follow?, take?_withLine hg hs hnext]
    cases htake : g.take? c place with
    | none => rfl
    | some d =>
      obtain ⟨n, token, value, -, -, -, rfl⟩ := exists_advance_of_take? htake
      have hconsumed : (c.advance n.toSite value).consumed = c.consumed + 1 := rfl
      simp only [Option.map_some, Option.bind_some]
      exact ih htokens (by omega)

/-- On a line that is cut the ways are those that match none but the tokens in front of the cut. -/
theorem follow?_take_iff (hg : g.Numbered) (hs : g.isStateless = true) {l cut : Line}
    {matched : Nat} (htokens : cut.tokens = l.tokens.take matched) (user : Option σ)
    {way : List Nat} {d : Context σ} :
    g.follow? (g.start cut user) way = some d ↔
      way.length ≤ matched ∧
        ∃ e, g.follow? (g.start l user) way = some e ∧ d = e.withLine cut := by
  have hcut : g.start cut user = (g.start l user).withLine cut := rfl
  have hfollow (hle : way.length ≤ matched) :
      g.follow? (g.start cut user) way = (g.follow? (g.start l user) way).map (·.withLine cut) := by
    have hconsumed : (g.start l user).consumed = 0 := rfl
    rw [hcut]
    exact follow?_withLine hg hs htokens (by omega)
  constructor
  · intro h
    have hle : way.length ≤ matched := by
      have hlength : way.length ≤ cut.tokens.length := length_le_of_follow? h
      rw [htokens, List.length_take] at hlength
      omega
    rw [hfollow hle, Option.map_eq_some_iff] at h
    obtain ⟨e, he, rfl⟩ := h
    exact ⟨hle, e, he, rfl⟩
  · rintro ⟨hle, e, he, rfl⟩
    rw [hfollow hle, he, Option.map_some]

/-! ### The first of the longest ways -/

theorem FirstLongest.unique {c d e : Context σ} {way other : List Nat}
    (h : g.FirstLongest c way d) (h' : g.FirstLongest c other e) : way = other ∧ d = e := by
  have hlength : way.length = other.length :=
    Nat.le_antisymm (h'.longest _ _ h.follows) (h.longest _ _ h'.follows)
  obtain rfl : way = other := by
    rcases h.first _ _ h'.follows hlength.symm with heq | hlt
    · exact heq
    · rcases h'.first _ _ h.follows hlength with heq | hgt
      · exact heq.symm
      · exact absurd hgt (List.not_lt.mpr (List.le_of_lt hlt))
  refine ⟨rfl, ?_⟩
  have hsame := h.follows.symm.trans h'.follows
  exact Option.some.inj hsame

/-- The first of the longest ways is still the first of the longest if the line is cut behind
it. -/
theorem FirstLongest.take (hg : g.Numbered) (hs : g.isStateless = true) {l cut : Line}
    {user : Option σ} {way : List Nat} {d : Context σ} (h : g.FirstLongest (g.start l user) way d)
    (htokens : cut.tokens = l.tokens.take way.length) :
    g.FirstLongest (g.start cut user) way (d.withLine cut) where
  follows := (follow?_take_iff hg hs htokens user).mpr ⟨le_rfl, d, h.follows, rfl⟩
  longest other e he := ((follow?_take_iff hg hs htokens user).mp he).1
  first other e he hlength := by
    obtain ⟨-, f, hf, -⟩ := (follow?_take_iff hg hs htokens user).mp he
    exact h.first other f hf hlength

/-! ### Lines -/

/-- A line is matched along some way. -/
theorem exists_way_of_check (hg : g.Numbered) (input : String) (user : Option σ) :
    ∃ way d, g.follow? (g.start (.read input) user) way = some d ∧
      g.Records (.read input) user way (g.check input user) := by
  rcases check_cases hg input user with ⟨way, place, d, n, hw, hc⟩ | ⟨-, way, hw⟩
  · have hrec := (records_of_follow? hg hw.follows).1
    exact ⟨way, d, hw.follows, hc ▸ hrec.finish n.id⟩
  · exact ⟨way, _, hw.follows, (records_of_follow? hg hw.follows).1⟩

/-- Where a line is matched to its last token, nothing of it remains. -/
theorem cut_of_consumed (hg : g.Numbered) (input : String) (user : Option σ)
    (h : (g.check input user).consumed = (Line.read input).tokens.length) :
    (g.check input user).parsed = input ∧ (g.check input user).remaining = "" := by
  obtain ⟨way, d, -, hrec⟩ := exists_way_of_check hg input user
  have hend : (Line.read input).tokens[(g.check input user).consumed]? = none := by
    rw [h, List.getElem?_eq_none_iff]
  have hcut := Line.cut_of_end hend
  rwa [← hrec.line] at hcut

/-- A line that reaches an action is matched to its last token. -/
theorem consumed_of_action_ne_none (hg : g.Numbered) {input : String} {user : Option σ}
    (h : (g.check input user).action ≠ none) :
    (g.check input user).consumed = (Line.read input).tokens.length := by
  rcases check_cases hg input user with ⟨way, place, e, n, hw, hc⟩ | ⟨-, way, hw⟩
  · rw [hc]
    exact (records_of_follow? hg hw.follows).1.consumed.trans hw.length_eq
  · exact absurd (records_of_follow? hg hw.follows).2.2 h

/-- What was parsed of a line has the tokens that were matched, and all of them are matched
again. -/
theorem consumed_check_parsed (hg : g.Numbered) (hs : g.isStateless = true) (input : String)
    (user : Option σ) :
    (Line.read (g.check input user).parsed).tokens =
        (Line.read input).tokens.take (g.check input user).consumed ∧
      (g.check (g.check input user).parsed user).consumed = (g.check input user).consumed ∧
      (g.check input user).consumed =
        (Line.read (g.check input user).parsed).tokens.length := by
  obtain ⟨way, d, hway, hrec⟩ := exists_way_of_check hg input user
  have htokens : (Line.read (g.check input user).parsed).tokens =
      (Line.read input).tokens.take way.length := by
    rw [Context.parsed, hrec.line, hrec.consumed, Line.tokens_parsed]
  have hle : way.length ≤ (Line.read input).tokens.length := length_le_of_follow? hway
  have hlength : way.length = (Line.read (g.check input user).parsed).tokens.length := by
    rw [htokens, List.length_take]
    omega
  have hfollow := (follow?_take_iff hg hs htokens user).mpr ⟨le_rfl, d, hway, rfl⟩
  have hall := (consumed_check_eq_iff hg (g.check input user).parsed user).mpr
    ⟨_, mem_everyPosition_of_follow? hg hfollow hlength⟩
  rw [hrec.consumed]
  exact ⟨htokens, hall.trans hlength.symm, hlength⟩

/-- If neither the line nor what was parsed of it reaches an action, they are matched along the same
way. -/
theorem check_parsed_of_action_eq_none (hg : g.Numbered) (hs : g.isStateless = true)
    {input : String} {user : Option σ} (hc : (g.check input user).action = none)
    (hd : (g.check (g.check input user).parsed user).action = none) :
    g.check (g.check input user).parsed user =
      (g.check input user).withLine (.read (g.check input user).parsed) := by
  have hlongest {line : String} (h : (g.check line user).action = none) :
      ∃ way, g.FirstLongest (g.start (.read line) user) way (g.check line user) := by
    rcases check_cases hg line user with ⟨way, place, d, n, -, hcheck⟩ | ⟨-, hw⟩
    · rw [hcheck] at h
      cases h
    · exact hw
  obtain ⟨way, hw⟩ := hlongest hc
  obtain ⟨other, hother⟩ := hlongest hd
  have hconsumed := (records_of_follow? hg hw.follows).1.consumed
  have htokens := (consumed_check_parsed hg hs input user).1
  rw [hconsumed] at htokens
  exact (hother.unique (hw.take hg hs htokens)).2

end Grammar

/-- What was parsed of a line is matched to its end, with as many tokens as before. It is matched as
before, unless it reaches an action and the whole line did not. -/
theorem check_parsed {b : Builder σ ε} {g : Grammar σ ε} (h : b.build = .ok g)
    (hs : g.isStateless = true) (input : String) (user : Option σ) {c d : Context σ}
    (hc : c = g.check input user) (hd : d = g.check c.parsed user) :
    d.remaining = "" ∧ d.consumed = c.consumed ∧
      (d.action = none ∨ c.action.isSome = true →
        d.history = c.history ∧ d.position = c.position ∧ d.vars = c.vars ∧
          d.action = c.action) := by
  have hg := b.numbered_of_build h
  subst hc
  obtain ⟨-, hconsumed, hlength⟩ := Grammar.consumed_check_parsed hg hs input user
  have hend : d.remaining = "" := by
    rw [hd]
    exact (Grammar.cut_of_consumed hg _ user (hconsumed.trans hlength)).2
  have hsize : d.consumed = (g.check input user).consumed := by
    rw [hd]
    exact hconsumed
  refine ⟨hend, hsize, fun hsame => ?_⟩
  by_cases hcomplete : (g.check input user).action = none
  · have hnone : d.action = none := by simpa [hcomplete] using hsame
    have heq := Grammar.check_parsed_of_action_eq_none hg hs hcomplete (by rw [← hd]; exact hnone)
    rw [hd, heq]
    simp
  · -- nothing is cut off a line that reaches an action
    have hall := Grammar.consumed_of_action_ne_none hg hcomplete
    rw [hd, (Grammar.cut_of_consumed hg input user hall).1]
    exact ⟨rfl, rfl, rfl, rfl⟩

theorem check_tags_parsed :
    ∃ g c d, Sample.tags.build = .ok g ∧ g.isStateless = true ∧
      c = g.check "tags a b c d e" none ∧ d = g.check c.parsed none ∧
      c.parsed = "tags a b c d " ∧ d.action = none ∧
      d.remaining = "" ∧ d.consumed = c.consumed ∧ d.history = c.history ∧
      d.position = c.position ∧ d.vars = c.vars ∧ d.action = c.action := by
  obtain ⟨g, hg, hval⟩ := Sample.tags.exists_build
    (f := fun g =>
      (g.isStateless, (g.seekPending (g.start (.read "tags a b c d e") none)).parsed,
        (g.seekPending (g.start (.read "tags a b c d ") none)).action))
    (v := (true, "tags a b c d ", none)) (by decide +kernel)
  obtain ⟨hs, hval⟩ := Prod.mk.inj hval
  obtain ⟨hparsed, haction⟩ := Prod.mk.inj hval
  have hseek (line : String) :
      g.check line none = g.seekPending (g.start (.read line) none) :=
    Grammar.matchPending_eq_seekPending (Sample.tags.numbered_of_build hg) (g.onLine_start _ none)
  rw [← hseek] at hparsed haction
  obtain ⟨hend, hconsumed, hsame⟩ := check_parsed hg hs "tags a b c d e" none rfl rfl
  rw [← hparsed] at haction
  obtain ⟨hhistory, hposition, hvars, hsame⟩ := hsame (.inl haction)
  exact ⟨g, _, _, hg, hs, rfl, rfl, hparsed, haction, hend, hconsumed, hhistory, hposition, hvars,
    hsame⟩

end CommandGrammar
