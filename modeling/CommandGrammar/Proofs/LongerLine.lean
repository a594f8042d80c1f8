import CommandGrammar.Proofs.Check
import CommandGrammar.Proofs.Completion

/-! Matching a line to which a token was added. In a stateless grammar the line plays no part in
what a token leads to, so the ways that match the tokens in front are those that match them in the
shorter line, and the whole line is matched if and only if a node behind one of them takes the
token. -/

namespace CommandGrammar

variable {σ ε : Type}

/-- The context on another line. -/
def Context.withLine (c : Context σ) (l : Line) : Context σ := { c with line := l }

namespace Context

@[simp] theorem history_withLine (c : Context σ) (l : Line) :
    (c.withLine l).history = c.history := rfl

@[simp] theorem position_withLine (c : Context σ) (l : Line) :
    (c.withLine l).position = c.position := rfl

@[simp] theorem vars_withLine (c : Context σ) (l : Line) : (c.withLine l).vars = c.vars := rfl

@[simp] theorem action_withLine (c : Context σ) (l : Line) :
    (c.withLine l).action = c.action := rfl

end Context

theorem Node.isOpen_withLine {n : Node σ ε} (hs : n.isStateless = true) (c : Context σ) (l : Line) :
    n.isOpen (c.withLine l) = n.isOpen c := by
  unfold isOpen
  rw [conditions_of_isStateless hs]
  rfl

theorem Node.step?_withLine {n : Node σ ε} (hs : n.isStateless = true) (c : Context σ) (l : Line)
    (text : String) : n.step? (c.withLine l) text = (n.step? c text).map (·.withLine l) := by
  have hoffered : n.isOffered (c.withLine l) text = n.isOffered c text := by
    unfold isOffered
    rw [Grammar.candidatesFor_eq hs (c.withLine l) c]
  rw [step?_eq, step?_eq, hoffered]
  split
  · cases n.value? text <;> rfl
  · rfl

theorem Node.enter?_withLine {n : Node σ ε} (hs : n.isStateless = true) (c : Context σ) (l : Line)
    (text : String) : n.enter? (c.withLine l) text = (n.enter? c text).map (·.withLine l) := by
  unfold enter?
  rw [isOpen_withLine hs, step?_withLine hs]
  split <;> rfl

namespace Grammar

/-! ### Tokens one after the other -/

theorem arrivalsWith_append (g : Grammar σ ε) (front rest : List Token) (c : Context σ) :
    g.arrivalsWith (front ++ rest) c = (g.arrivalsWith front c).flatMap (g.arrivalsWith rest) := by
  induction front generalizing c with
  | nil => rw [List.nil_append, arrivalsWith_nil, List.flatMap_singleton]
  | cons token front ih =>
    rw [List.cons_append, arrivalsWith_cons, arrivalsWith_cons, List.flatMap_assoc]
    exact List.flatMap_congr fun d _ => ih d

theorem mem_arrivalsWith_singleton {g : Grammar σ ε} {token : Token} {c d : Context σ} :
    d ∈ g.arrivalsWith [token] c ↔
      ∃ n ∈ g.following c.position, n.enter? c token.text = some d := by
  rw [arrivalsWith_cons]
  simp [arrivalsWith_nil]

variable {g : Grammar σ ε}

theorem arrivalsWith_withLine (hg : g.Numbered) (hs : g.isStateless = true) (tokens : List Token)
    (c : Context σ) (l : Line) :
    g.arrivalsWith tokens (c.withLine l) = (g.arrivalsWith tokens c).map (·.withLine l) := by
  induction tokens generalizing c with
  | nil => rfl
  | cons token tokens ih =>
    have hnext : (g.following c.position).filterMap (·.enter? (c.withLine l) token.text) =
        ((g.following c.position).filterMap (·.enter? c token.text)).map (·.withLine l) := by
      rw [List.map_filterMap]
      refine List.filterMap_congr fun n hn => ?_
      exact n.enter?_withLine (isStateless_of_node? hs (node?_of_mem_following hg hn)) c l _
    rw [arrivalsWith_cons, arrivalsWith_cons, List.map_flatMap]
    change ((g.following c.position).filterMap (·.enter? (c.withLine l) token.text)).flatMap _ = _
    rw [hnext, List.flatMap_map]
    exact List.flatMap_congr fun d _ => ih d

/-! ### Lines that are matched to the end -/

theorem length_le_of_follow? {c d : Context σ} {way : List Nat} (h : g.follow? c way = some d) :
    way.length ≤ c.pending.length := by
  induction way generalizing c with
  | nil => exact Nat.zero_le _
  | cons place way ih =>
    obtain ⟨e, he, h⟩ := follow?_cons_eq_some.mp h
    have hle := ih h
    obtain ⟨n, token, -, ht, -⟩ := take?_eq_some.mp he
    obtain ⟨tokens, hp⟩ := List.head?_eq_some_iff.mp ht
    rw [pending_of_take? he, hp, List.tail_cons] at hle
    rw [hp, List.length_cons, List.length_cons]
    exact Nat.succ_le_succ hle

theorem mem_everyPosition_of_follow? (hg : g.Numbered) {c d : Context σ} {way : List Nat}
    (h : g.follow? c way = some d) (hlen : way.length = c.pending.length) :
    d ∈ g.everyPosition c := by
  rw [everyPosition_eq]
  exact List.mem_map_of_mem (a := (way, d)) ((mem_fullWays hg).mpr ⟨h, hlen⟩)

/-- All tokens of a line are matched if and only if there is a way that matches them. -/
theorem consumed_check_eq_iff (hg : g.Numbered) (input : String) (user : Option σ) :
    (g.check input user).consumed = (Line.read input).tokens.length ↔
      ∃ d, d ∈ g.everyPosition (g.start (.read input) user) := by
  have hpending : (g.start (.read input) user).pending = (Line.read input).tokens := List.drop_zero
  rcases check_cases hg input user with ⟨way, place, d, n, hw, hc⟩ | ⟨-, way, hw⟩
  · have hconsumed := (records_of_follow? hg hw.follows).1.consumed
    have hlen : way.length = (Line.read input).tokens.length := hpending ▸ hw.length_eq
    rw [hc]
    exact ⟨fun _ => ⟨d, mem_everyPosition_of_follow? hg hw.follows hw.length_eq⟩,
      fun _ => hconsumed.trans hlen⟩
  · have hconsumed := (records_of_follow? hg hw.follows).1.consumed
    rw [hconsumed]
    constructor
    · exact fun hlen => ⟨_, mem_everyPosition_of_follow? hg hw.follows (hpending ▸ hlen)⟩
    · rintro ⟨d, hd⟩
      rw [everyPosition_eq] at hd
      obtain ⟨⟨way', d'⟩, hmem, -⟩ := List.mem_map.mp hd
      obtain ⟨hfollow, hlen⟩ := (mem_fullWays hg).mp hmem
      have hle := length_le_of_follow? hw.follows
      have hge := hw.longest way' d' hfollow
      rw [hpending] at hlen hle
      omega

/-- A line with one more token is matched to the end if and only if a node behind one of the ways
that match the tokens in front takes that token. -/
theorem consumed_check_concat_iff (hg : g.Numbered) (hs : g.isStateless = true) {input : String}
    {l : Line} {token : Token} (htokens : (Line.read input).tokens = l.tokens ++ [token])
    (user : Option σ) :
    (g.check input user).consumed = (Line.read input).tokens.length ↔
      ∃ d ∈ g.everyPosition (g.start l user), ∃ n ∈ g.following d.position,
        (n.enter? d token.text).isSome = true := by
  have hstart : g.start (.read input) user = (g.start l user).withLine (.read input) := rfl
  have hevery (l : Line) :
      g.everyPosition (g.start l user) = g.arrivalsWith l.tokens (g.start l user) :=
    everyPosition_eq g _
  rw [consumed_check_eq_iff hg, hevery, hevery, htokens, arrivalsWith_append, hstart,
    arrivalsWith_withLine hg hs]
  simp only [List.mem_flatMap, List.mem_map, mem_arrivalsWith_singleton]
  constructor
  · rintro ⟨e, _, ⟨d, hd, rfl⟩, n, hn, he⟩
    refine ⟨d, hd, n, hn, ?_⟩
    rw [n.enter?_withLine (isStateless_of_node? hs (node?_of_mem_following hg hn))] at he
    exact Option.isSome_map ▸ Option.isSome_of_eq_some he
  · rintro ⟨d, hd, n, hn, hsome⟩
    obtain ⟨e, he⟩ := Option.isSome_iff_exists.mp hsome
    refine ⟨e.withLine (.read input), _, ⟨d, hd, rfl⟩, n, hn, ?_⟩
    rw [n.enter?_withLine (isStateless_of_node? hs (node?_of_mem_following hg hn)), he]
    rfl

end Grammar

end CommandGrammar
