import CommandGrammar.Proofs.Agreement
import Mathlib.Data.List.Chain

/-! What every context tells. The fields of a context all tell of the same way: its history leads
from the root along edges, the counters count it and respect the limits, and every node of it took
its token in the context behind the nodes before it. This holds of every context that a line leads
to, and no callback is asked about any other. -/

namespace CommandGrammar

variable {σ ε : Type}

/-- The node may be entered with the text, as far as its pattern, its candidates, its kind and its
conditions are concerned. -/
structure Node.Takes (n : Node σ ε) (c : Context σ) (text : String) : Prop where
  fits : ∃ p, n.pattern = some p ∧ p.accepts text = true
  offered : n.matchCandidates = true → ∃ w ∈ n.candidatesFor c text, Text.trimEnd w = text
  parses : ∀ kind, n.body = .var kind → ∃ v, kind.parse text = .ok v
  conditions : ∀ holds ∈ n.conditions, holds c = true

theorem Node.takes_of_step? {n : Node σ ε} {c d : Context σ} {text : String}
    (ho : n.isOpen c = true) (h : n.step? c text = some d) : n.Takes c text := by
  obtain ⟨hfits, hoffered, value, hvalue, -⟩ := step?_eq_some.mp h
  refine ⟨?_, fun hm => ?_, fun kind hk => ?_, ?_⟩
  · simpa only [fits, Option.any_eq_true] using hfits
  · simpa [isOffered, hm] using hoffered
  · cases hp : kind.parse text with
    | ok v => exact ⟨v, rfl⟩
    | error e => simp [value?, hk, hp, Except.toOption] at hvalue
  · simp only [isOpen, Bool.and_eq_true, List.all_eq_true] at ho
    exact ho.2

theorem forall_getElem?_concat {α : Type} {P : Nat → α → Prop} {l : List α} {a : α}
    (hl : ∀ i x, l[i]? = some x → P i x) (ha : P l.length a) :
    ∀ i x, (l ++ [a])[i]? = some x → P i x := by
  intro i x hx
  rw [List.getElem?_append] at hx
  split at hx
  · exact hl i x hx
  · next hge =>
    rw [List.getElem?_singleton] at hx
    obtain ⟨h0, hax⟩ := Option.ite_none_right_eq_some.mp hx
    obtain rfl : i = l.length := by omega
    cases hax
    exact ha

namespace Grammar

/-! ### The context behind a history -/

/-- The context behind a node that is entered with the next token, whatever it asks for. -/
def reenter (g : Grammar σ ε) (c : Context σ) (id : Nat) : Context σ :=
  match g.node? id, c.pending.head? with
  | some n, some token => c.advance n.toSite ((n.value? token.text).getD none)
  | _, _ => c

theorem reenter_eq {g : Grammar σ ε} {c : Context σ} {n : Node σ ε} {token : Token}
    {value : Option Value} (hn : g.node? n.id = some n) (ht : c.pending.head? = some token)
    (hv : n.value? token.text = some value) : g.reenter c n.id = c.advance n.toSite value := by
  simp only [reenter, hn, ht, hv, Option.getD_some]

/-- The context behind the nodes, entered one after the other. -/
def replay (g : Grammar σ ε) (l : Line) (user : Option σ) (ids : List Nat) : Context σ :=
  ids.foldl g.reenter (g.start l user)

theorem replay_concat (g : Grammar σ ε) (l : Line) (user : Option σ) (ids : List Nat) (id : Nat) :
    g.replay l user (ids ++ [id]) = g.reenter (g.replay l user ids) id := by
  simp only [replay, List.foldl_append, List.foldl_cons, List.foldl_nil]

/-- What a context on a line tells. -/
structure Sound (g : Grammar σ ε) (l : Line) (user : Option σ) (c : Context σ) : Prop where
  behind : { c with action := none } = g.replay l user c.history
  consumed : c.consumed = c.history.length
  position : c.position = c.history.getLast?.getD 0
  /-- Every node is joined to the one before it, and the first to the root. -/
  linked : (0 :: c.history).IsChain fun a b => ∃ n, g.node? a = some n ∧ b ∈ n.edges
  inner : ∀ id ∈ c.history, id ≠ 0 ∧ ∃ n, g.node? id = some n ∧ n.isAction = false
  traversed : ∀ id, c.traversed id = c.history.count id
  limited : ∀ id n, g.node? id = some n → n.traversals ≠ 0 → c.traversed id ≤ n.traversals
  /-- Every node took its token in the context behind the nodes before it. -/
  taken : ∀ i id, c.history[i]? = some id → ∃ n token, g.node? id = some n ∧
    l.tokens[i]? = some token ∧ n.Takes (g.replay l user (c.history.take i)) token.text

section

variable {g : Grammar σ ε} {l : Line} {user : Option σ}

theorem sound_start (g : Grammar σ ε) (l : Line) (user : Option σ) :
    g.Sound l user (g.start l user) where
  behind := rfl
  consumed := rfl
  position := rfl
  linked := List.IsChain.singleton 0
  inner := nofun
  traversed _ := rfl
  limited _ _ _ _ := Nat.zero_le _
  taken := nofun

/-- A context without an action is the one behind its history. -/
theorem Sound.eq_replay {c : Context σ} (h : g.Sound l user c) (ha : c.action = none) :
    c = g.replay l user c.history := by
  rw [← h.behind, ← ha]

/-- An action ends a way without changing what the context tells. -/
theorem Sound.finish {c : Context σ} (h : g.Sound l user c) (action : Nat) :
    g.Sound l user (c.finish action) :=
  ⟨h.behind, h.consumed, h.position, h.linked, h.inner, h.traversed, h.limited, h.taken⟩

/-- A step keeps what a context tells. -/
theorem Sound.take? {b : Builder σ ε} (hb : b.build = .ok g) {c d : Context σ} {place : Nat}
    (hc : g.Sound l user c) (hon : g.OnLine l c) (ha : c.action = none)
    (h : g.take? c place = some d) : g.Sound l user d ∧ g.OnLine l d ∧ d.action = none := by
  have hg := b.numbered_of_build hb
  obtain ⟨n, token, hedge, htoken, hopen, hstep⟩ := take?_eq_some.mp h
  obtain ⟨hplace, hn⟩ := node?_of_edge? hg hedge
  have htakes := Node.takes_of_step? hopen hstep
  obtain ⟨-, -, value, hvalue, rfl⟩ := Node.step?_eq_some.mp hstep
  have hconsistent := hon.consistent.advance n.toSite value
  obtain ⟨p, hpattern, -⟩ := htakes.fits
  have hinner : n.isAction = false := by
    cases hact : n.isAction with
    | false => rfl
    | true => rw [hg.pattern_of_isAction hn hact] at hpattern; cases hpattern
  have hbehind := hc.eq_replay ha
  have htoken' : l.tokens[c.history.length]? = some token := by
    rw [← htoken, Context.pending, List.head?_drop, hon.line, hc.consumed]
  have hhistory : (c.advance n.toSite value).history = c.history ++ [n.id] := rfl
  refine ⟨⟨?_, hconsistent.consumed, hconsistent.position, ?_, ?_, hconsistent.traversed, ?_, ?_⟩,
    ⟨hconsistent, hon.outline, hon.line⟩, ha⟩
  · rw [hhistory, replay_concat, ← hbehind, reenter_eq hn htoken hvalue, ← ha]
    rfl
  · obtain ⟨m, hm, hmem⟩ := Option.bind_eq_some_iff.mp hplace
    rw [hhistory, ← List.cons_append, List.isChain_append]
    refine ⟨hc.linked, List.IsChain.singleton _, ?_⟩
    rw [List.getLast?_cons, ← hon.consistent.position]
    intro x hx y hy
    cases hx
    cases hy
    exact ⟨m, hm, List.mem_of_getElem? hmem⟩
  · rw [hhistory, List.forall_mem_append, List.forall_mem_singleton]
    refine ⟨hc.inner, fun hid => ?_, n, hn, hinner⟩
    rw [hid] at hn
    rw [b.pattern_of_root hb hn] at hpattern
    cases hpattern
  · intro id m hm ht
    rw [Context.traversed_advance]
    split
    · next hid =>
      subst hid
      cases hn.symm.trans hm
      exact Node.lt_of_isOpen hinner hopen ht
    · exact hc.limited id m hm ht
  · rw [hhistory]
    refine forall_getElem?_concat (fun i id hi => ?_) ⟨n, token, hn, htoken', ?_⟩
    · rw [List.take_append_of_le_length (List.getElem?_eq_some_iff.mp hi).1.le]
      exact hc.taken i id hi
    · rw [List.take_left, ← hbehind]
      exact htakes

/-- What a context behind a way tells. -/
theorem sound_of_follow? {b : Builder σ ε} (hb : b.build = .ok g) {way : List Nat} {d : Context σ}
    (h : g.follow? (g.start l user) way = some d) : g.Sound l user d := by
  have hkeep : g.Sound l user d ∧ g.OnLine l d ∧ d.action = none :=
    follow?_keeps (P := fun c => g.Sound l user c ∧ g.OnLine l c ∧ c.action = none)
      (fun hc he => hc.1.take? hb hc.2.1 hc.2.2 he)
      ⟨g.sound_start l user, g.onLine_start l user, rfl⟩ h
  exact hkeep.1

theorem sound_of_mem_metWith {b : Builder σ ε} (hb : b.build = .ok g) {d : Context σ}
    (h : d ∈ g.metWith (g.start l user).pending (g.start l user)) : g.Sound l user d := by
  obtain ⟨⟨way, e⟩, he, rfl⟩ := List.mem_map.mp h
  exact sound_of_follow? hb ((mem_ways (b.numbered_of_build hb)).mp he)

theorem sound_of_mem_positions {b : Builder σ ε} (hb : b.build = .ok g) {d : Context σ}
    (h : d ∈ g.positions (g.start l user)) : g.Sound l user d := by
  have hevery := positions_subset_everyPosition (b.numbered_of_build hb) (g.onLine_start l user) h
  rw [everyPosition_eq] at hevery
  exact sound_of_mem_metWith hb (g.arrivalsWith_subset_metWith _ _ hevery)

theorem sound_check {b : Builder σ ε} (hb : b.build = .ok g) (input : String) :
    g.Sound (.read input) user (g.check input user) := by
  rcases check_cases (b.numbered_of_build hb) input user with
    ⟨way, place, d, n, hw, hc⟩ | ⟨-, way, hw⟩
  · rw [hc]
    exact (sound_of_follow? hb hw.follows).finish n.id
  · exact sound_of_follow? hb hw.follows

end

end Grammar

/-- Every context that a line leads to tells of the way to it. No callback is asked about any other
context: a grammar that agrees on these contexts answers the same, whatever its callbacks do
elsewhere. -/
theorem contexts_sound {b : Builder σ ε} {g : Grammar σ ε} (h : b.build = .ok g) (input : String)
    (user : Option σ) :
    (∀ l way c, g.follow? (g.start l user) way = some c → g.Sound l user c) ∧
    g.Sound (.read input) user (g.check input user) ∧
    (∀ c ∈ (g.typing input user).1, g.Sound (Line.read input).splitTrailing.1 user c) ∧
    (∀ g' : Grammar σ ε, g.AgreeOn (g.Sound (.read input) user) g' →
      g.check input user = g'.check input user ∧ g.parse input user = g'.parse input user) ∧
    (∀ g' : Grammar σ ε, g.AgreeOn (g.Sound (Line.read input).splitTrailing.1 user) g' →
      g.typing input user = g'.typing input user ∧
        g.complete input user = g'.complete input user ∧
        g.help input user = g'.help input user) := by
  have hg := b.numbered_of_build h
  have hcheck : g.Sound (.read input) user (g.check input user) := Grammar.sound_check h input
  have hall : ∀ c ∈ (g.typing input user).1, g.Sound (Line.read input).splitTrailing.1 user c :=
    fun c hc => Grammar.sound_of_mem_positions h hc
  refine ⟨fun l way c hw => Grammar.sound_of_follow? h hw, hcheck, hall, fun g' hagree => ?_,
    fun g' hagree => ?_⟩
  · have heq := hagree.check_eq hg fun d hd => Grammar.sound_of_mem_metWith h hd
    exact ⟨heq, hagree.parse_eq heq hcheck⟩
  · have heq := hagree.typing_eq hg fun d hd => Grammar.sound_of_mem_metWith h hd
    exact ⟨heq, hagree.complete_eq heq hall, hagree.help_eq heq hall⟩

theorem contexts_sound_tags :
    ∃ g, Sample.tags.build = .ok g ∧ (g.check "tags a b c end" none).history = [1, 2, 2, 3, 4] ∧
      g.Sound (.read "tags a b c end") none (g.check "tags a b c end" none) ∧
      ∀ c ∈ (g.typing "tags a b " none).1,
        g.Sound (Line.read "tags a b ").splitTrailing.1 none c := by
  obtain ⟨g, hg, hval⟩ := Sample.tags.exists_build
    (f := fun g => (g.seekPending (g.start (.read "tags a b c end") none)).history)
    (v := [1, 2, 2, 3, 4]) (by decide +kernel)
  obtain ⟨-, hcheck, -⟩ := contexts_sound hg "tags a b c end" none
  obtain ⟨-, -, htyping, -⟩ := contexts_sound hg "tags a b " none
  have hseek : g.check "tags a b c end" none =
      g.seekPending (g.start (.read "tags a b c end") none) :=
    Grammar.matchPending_eq_seekPending (Sample.tags.numbered_of_build hg) (g.onLine_start _ none)
  exact ⟨g, hg, (congrArg Context.history hseek).trans hval, hcheck, htyping⟩

end CommandGrammar
