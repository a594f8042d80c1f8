import CommandGrammar.Proofs.State
import Mathlib.Data.List.Induction

/-! What the search for a line comes to. It stops at the first complete way, and if there is none,
it has kept the first of the longest ways. A state that has failed can neither reach an action nor
improve on the longest way so far, so that not going on from it loses nothing. -/

namespace CommandGrammar

variable {σ ε : Type}

/-! ### The first of the longest -/

/-- The longer of two contexts, and the first of them if they are equally long. -/
def longer (a b : Context σ) : Context σ := if a.consumed < b.consumed then b else a

theorem consumed_longer (a b : Context σ) : (longer a b).consumed = max a.consumed b.consumed := by
  unfold longer
  split <;> omega

theorem longer_eq_left {a b : Context σ} (h : b.consumed ≤ a.consumed) : longer a b = a :=
  if_neg (by omega)

/-- The first of the longest of some contexts stands behind shorter ones, and in front of none that
is longer. -/
theorem foldl_longer (l : List (Context σ)) (c : Context σ) :
    ∃ l₁ l₂, c :: l = l₁ ++ l.foldl longer c :: l₂ ∧
      (∀ d ∈ l₁, d.consumed < (l.foldl longer c).consumed) ∧
      ∀ d ∈ l₂, d.consumed ≤ (l.foldl longer c).consumed := by
  induction l using List.reverseRecOn with
  | nil => exact ⟨[], [], rfl, nofun, nofun⟩
  | append_singleton l d ih =>
    obtain ⟨l₁, l₂, hl, h₁, h₂⟩ := ih
    rw [List.foldl_append, List.foldl_cons, List.foldl_nil]
    generalize l.foldl longer c = b at hl h₁ h₂ ⊢
    unfold longer
    split
    · next hlt =>
      refine ⟨c :: l, [], rfl, ?_, nofun⟩
      rw [hl]
      intro e he
      rcases List.mem_append.mp he with he | he
      · exact (h₁ e he).trans hlt
      · rcases List.mem_cons.mp he with rfl | he
        · exact hlt
        · exact (h₂ e he).trans_lt hlt
    · next hle =>
      refine ⟨l₁, l₂ ++ [d], by rw [← List.cons_append, hl]; simp, h₁, ?_⟩
      intro e he
      rcases List.mem_append.mp he with he | he
      · exact h₂ e he
      · obtain rfl := List.mem_singleton.mp he
        omega

theorem foldl_longer_eq_self {l : List (Context σ)} {c : Context σ}
    (h : ∀ d ∈ l, d.consumed ≤ c.consumed) : l.foldl longer c = c := by
  induction l with
  | nil => rfl
  | cons d l ih =>
    rw [List.forall_mem_cons] at h
    rw [List.foldl_cons, longer_eq_left h.1, ih h.2]

theorem consumed_le_foldl_longer (l : List (Context σ)) (c : Context σ) :
    ∀ d ∈ c :: l, d.consumed ≤ (l.foldl longer c).consumed := by
  obtain ⟨l₁, l₂, hl, h₁, h₂⟩ := foldl_longer l c
  intro d hd
  rw [hl] at hd
  rcases List.mem_append.mp hd with hd | hd
  · exact (h₁ d hd).le
  · rcases List.mem_cons.mp hd with rfl | hd
    · exact le_rfl
    · exact h₂ d hd

namespace Search

@[simp] theorem best_improve (s : Search σ) (c : Context σ) :
    (s.improve c).best = longer s.best c := by
  unfold improve longer
  split <;> rfl

@[simp] theorem hasFailed_improve (s : Search σ) (c : Context σ) (state : Option State) :
    (s.improve c).hasFailed state = s.hasFailed state := by
  unfold improve
  split <;> rfl

@[simp] theorem best_fail (s : Search σ) (state : Option State) : (s.fail state).best = s.best := by
  cases state <;> rfl

theorem hasFailed_fail {s : Search σ} {state : Option State} {other : State}
    (h : (s.fail state).hasFailed (some other) = true) :
    state = some other ∨ s.hasFailed (some other) = true := by
  cases state with
  | none => exact .inr h
  | some state =>
    simp only [fail, hasFailed, Option.any_some, Std.HashSet.contains_insert, Bool.or_eq_true,
      beq_iff_eq] at h
    exact h.imp (congrArg some) id

end Search

namespace Grammar

/-! ### The first answer -/

/-- The first of the contexts that complete one of the ways with the tokens. -/
def answerWith (g : Grammar σ ε) (tokens : List Token) (c : Context σ) : Option (Context σ) :=
  (g.arrivalsWith tokens c).findSome? g.finish?

theorem answerWith_nil (g : Grammar σ ε) (c : Context σ) : g.answerWith [] c = g.finish? c := by
  simp [answerWith, arrivalsWith_nil]

theorem answerWith_cons (g : Grammar σ ε) (token : Token) (tokens : List Token) (c : Context σ) :
    g.answerWith (token :: tokens) c =
      ((g.following c.position).filterMap (·.enter? c token.text)).findSome?
        (g.answerWith tokens) := by
  have hanswer (d : Context σ) :
      ((g.arrivalsWith tokens d).filterMap g.finish?).head? = g.answerWith tokens d :=
    List.head?_filterMap
  rw [answerWith, ← List.head?_filterMap, arrivalsWith_cons, List.filterMap_flatMap,
    List.head?_flatMap]
  simp only [hanswer]

/-! ### The search -/

/-- From a state that has failed no action can be reached, and no way is longer than the longest
known. -/
def Barren (g : Grammar σ ε) (stateless : Bool) (l : Line) (s : Search σ) : Prop :=
  ∀ d : Context σ, g.OnLine l d → s.hasFailed (state? stateless d) = true →
    g.answerWith d.pending d = none ∧ ∀ e ∈ g.metWith d.pending d, e.consumed ≤ s.best.consumed

/-- What a search from some knowledge comes to: the answer, or, if there is none, the first of the
longest contexts met, and knowledge to go on with. -/
def Outcome (g : Grammar σ ε) (stateless : Bool) (l : Line) (s : Search σ)
    (r : Option (Context σ) × Search σ) (answer : Option (Context σ)) (met : List (Context σ)) :
    Prop :=
  r.1 = answer ∧
    (answer = none → r.2.best = met.foldl longer s.best ∧ g.Barren stateless l r.2)

section Descend

variable {g : Grammar σ ε} {stateless : Bool} {l : Line}

theorem Barren.improve {s : Search σ} (hb : g.Barren stateless l s) (c : Context σ) :
    g.Barren stateless l (s.improve c) := by
  intro d hd hf
  rw [Search.hasFailed_improve] at hf
  obtain ⟨ha, hm⟩ := hb d hd hf
  refine ⟨ha, fun e he => (hm e he).trans ?_⟩
  rw [Search.best_improve, consumed_longer]
  exact le_max_left _ _

/-- A context that leads to no action and no longer way may fail, because every context in the same
state has the same future. -/
theorem Barren.fail (hg : g.Numbered) (hst : stateless = true → g.isStateless = true)
    {s : Search σ} (hb : g.Barren stateless l s) {c : Context σ} (hc : g.OnLine l c)
    (ha : g.answerWith c.pending c = none)
    (hm : ∀ e ∈ g.metWith c.pending c, e.consumed ≤ s.best.consumed) :
    g.Barren stateless l (s.fail (state? stateless c)) := by
  intro d hd hf
  rw [Search.best_fail]
  cases stateless with
  | false => exact hb d hd hf
  | true =>
    rcases Search.hasFailed_fail hf with h | h
    · have hs := hst rfl
      have halike : g.Alike c d := (hc.alike_iff hd).mpr (Option.some.inj h)
      rw [← halike.pending]
      constructor
      · rw [answerWith, List.findSome?_eq_none_iff] at ha ⊢
        intro e he
        obtain ⟨f, hf, hfe⟩ := exists_of_forall₂ (halike.arrivalsWith hg hs c.pending) he
        exact (hfe.finish?_eq_none_iff hg hs).mp (ha f hf)
      · intro e he
        obtain ⟨f, hf, hfe⟩ := exists_of_forall₂ (halike.metWith hg hs c.pending) he
        exact hfe.consumed ▸ hm f hf
    · exact hb d hd h

/-- To turn back at a state that has failed comes to what going on would come to. -/
theorem Barren.outcome {s : Search σ} (hb : g.Barren stateless l s) {c : Context σ}
    (hc : g.OnLine l c) (hf : s.hasFailed (state? stateless c) = true) :
    g.Outcome stateless l s (none, s) (g.answerWith c.pending c) (g.metWith c.pending c) := by
  obtain ⟨ha, hm⟩ := hb c hc hf
  exact ⟨ha.symm, fun _ => ⟨(foldl_longer_eq_self hm).symm, hb⟩⟩

/-- Trying nodes in order comes to what their contexts come to, one after the other. -/
theorem tryNodes_outcome {tokens : List Token} {c : Context σ} {text : String}
    (hvisit : ∀ {n : Node σ ε} {d : Context σ} {s : Search σ}, n.enter? c text = some d →
      g.Barren stateless l s → d.consumed ≤ s.best.consumed →
      g.Outcome stateless l s (descend g stateless tokens d s) (g.answerWith tokens d)
        (g.metWith tokens d))
    (ns : List (Node σ ε)) {s : Search σ} (hb : g.Barren stateless l s) :
    g.Outcome stateless l s (tryNodes (fun c s => descend g stateless tokens c s) c text ns s)
      ((ns.filterMap (·.enter? c text)).findSome? (g.answerWith tokens))
      ((ns.filterMap (·.enter? c text)).flatMap (g.metWith tokens)) := by
  induction ns generalizing s with
  | nil => exact ⟨rfl, fun _ => ⟨rfl, hb⟩⟩
  | cons n ns ih =>
    rw [tryNodes, List.filterMap_cons]
    cases hn : n.enter? c text with
    | none => exact ih hb
    | some d =>
      rw [List.findSome?_cons, List.flatMap_cons]
      dsimp only
      have hle : d.consumed ≤ (s.improve d).best.consumed := by
        rw [Search.best_improve, consumed_longer]
        exact le_max_right _ _
      obtain ⟨hans, hnone⟩ := hvisit hn (hb.improve d) hle
      generalize descend g stateless tokens d (s.improve d) = r at hans hnone ⊢
      obtain ⟨found, t⟩ := r
      dsimp only at hans hnone
      subst hans
      cases hd : g.answerWith tokens d with
      | some complete => exact ⟨rfl, nofun⟩
      | none =>
        obtain ⟨hbest, hbt⟩ := hnone hd
        obtain ⟨hrest, hrestNone⟩ := ih hbt
        refine ⟨hrest, fun h => ?_⟩
        obtain ⟨hbest', hbarren⟩ := hrestNone h
        refine ⟨?_, hbarren⟩
        -- the context itself is counted twice, which changes nothing
        obtain ⟨met, hmet⟩ := g.exists_metWith tokens d
        rw [hbest', hbest, List.foldl_append, hmet, List.foldl_cons, List.foldl_cons,
          longer_eq_left hle, Search.best_improve]

theorem descend_outcome (hg : g.Numbered) (hst : stateless = true → g.isStateless = true)
    (tokens : List Token) {c : Context σ} {s : Search σ} (hc : g.OnLine l c)
    (hp : c.pending = tokens) (hb : g.Barren stateless l s) (hle : c.consumed ≤ s.best.consumed) :
    g.Outcome stateless l s (descend g stateless tokens c s) (g.answerWith tokens c)
      (g.metWith tokens c) := by
  induction tokens generalizing c s with
  | nil =>
    rw [descend]
    split
    · next hf => exact hp ▸ hb.outcome hc hf
    · have hbest : s.best = (g.metWith [] c).foldl longer s.best := (longer_eq_left hle).symm
      cases hf : g.finish? c with
      | some complete => exact ⟨by rw [answerWith_nil, hf], by rw [answerWith_nil, hf]; nofun⟩
      | none =>
        refine ⟨by rw [answerWith_nil, hf], fun ha => ⟨by rw [Search.best_fail]; exact hbest, ?_⟩⟩
        refine hb.fail hg hst hc (by rwa [hp]) fun e he => ?_
        rw [hp, metWith_nil, List.mem_singleton] at he
        exact he ▸ hle
  | cons token tokens ih =>
    rw [descend]
    split
    · next hf => exact hp ▸ hb.outcome hc hf
    · have hvisit {n : Node σ ε} {d : Context σ} {s : Search σ}
          (hn : n.enter? c token.text = some d) (hbs : g.Barren stateless l s)
          (hles : d.consumed ≤ s.best.consumed) :
          g.Outcome stateless l s (descend g stateless tokens d s) (g.answerWith tokens d)
            (g.metWith tokens d) := by
        obtain ⟨hd, hpd, -⟩ := hc.enter? hn
        exact ih hd (by rw [hpd, hp, List.tail_cons]) hbs hles
      obtain ⟨hans, hnone⟩ := tryNodes_outcome hvisit (g.following c.position) hb
      rw [← answerWith_cons] at hans hnone
      generalize tryNodes (fun c s => descend g stateless tokens c s) c token.text
        (g.following c.position) s = r at hans hnone ⊢
      obtain ⟨found, t⟩ := r
      dsimp only at hans hnone ⊢
      cases found with
      | some complete => exact ⟨hans, fun ha => by rw [ha] at hans; cases hans⟩
      | none =>
        obtain ⟨hbest, hbt⟩ := hnone hans.symm
        have hbest' : t.best = (g.metWith (token :: tokens) c).foldl longer s.best := by
          rw [metWith_cons, List.foldl_cons, longer_eq_left hle, hbest]
        refine ⟨hans, fun ha => ⟨by rw [Search.best_fail]; exact hbest', ?_⟩⟩
        refine hbt.fail hg hst hc (by rwa [hp]) fun e he => ?_
        rw [hp] at he
        rw [hbest']
        exact consumed_le_foldl_longer _ _ e (List.mem_cons_of_mem _ he)

/-- Nothing has failed before the search starts. -/
theorem barren_empty (c : Context σ) : g.Barren stateless l ⟨c, ∅⟩ := by
  intro d _ hf
  cases stateless with
  | false => exact absurd hf nofun
  | true => simp [state?, Search.hasFailed] at hf

theorem Outcome.getD {s : Search σ} {r : Option (Context σ) × Search σ}
    {answer : Option (Context σ)} {met : List (Context σ)}
    (h : g.Outcome stateless l s r answer met) :
    r.1.getD r.2.best = answer.getD (met.foldl longer s.best) := by
  obtain ⟨rfl, hnone⟩ := h
  cases hr : r.1 with
  | some complete => rfl
  | none => exact (hnone hr).1

/-- The search gives the first context that completes a way, or else the first of the longest. -/
theorem matchPending_eq (hg : g.Numbered) {c : Context σ} (hc : g.OnLine l c) :
    g.matchPending c = (g.answerWith c.pending c).getD ((g.metWith c.pending c).foldl longer c) :=
  (descend_outcome hg id c.pending hc rfl (barren_empty c) le_rfl).getD

end Descend

/-! ### The search without a memory of failed states -/

/-- Tries nodes in order with the next token, where only the first of the longest ways is kept. -/
def seekNodes (visit : Context σ → Context σ → Option (Context σ) × Context σ) (c : Context σ)
    (text : String) : List (Node σ ε) → Context σ → Option (Context σ) × Context σ
  | [], best => (none, best)
  | n :: ns, best =>
    match n.enter? c text with
    | none => seekNodes visit c text ns best
    | some next =>
      match visit next (longer best next) with
      | (some complete, best) => (some complete, best)
      | (none, best) => seekNodes visit c text ns best

/-- Goes on from a context with the tokens that are left, however often its state has failed. -/
def seek (g : Grammar σ ε) : List Token → Context σ → Context σ → Option (Context σ) × Context σ
  | [], c, best => (g.finish? c, best)
  | token :: tokens, c, best =>
    seekNodes (fun c best => seek g tokens c best) c token.text (g.following c.position) best

/-- The context that reached an action, or else the first of those that matched most tokens, found
without a memory of failed states. -/
def seekPending (g : Grammar σ ε) (c : Context σ) : Context σ :=
  let (found, best) := g.seek c.pending c c
  found.getD best

theorem tryNodes_eq_seekNodes {visit : Context σ → Search σ → Option (Context σ) × Search σ}
    {seek : Context σ → Context σ → Option (Context σ) × Context σ}
    (h : ∀ c s, visit c s = ((seek c s.best).1, { s with best := (seek c s.best).2 }))
    (c : Context σ) (text : String) (ns : List (Node σ ε)) (s : Search σ) :
    tryNodes visit c text ns s = ((seekNodes seek c text ns s.best).1,
      { s with best := (seekNodes seek c text ns s.best).2 }) := by
  induction ns generalizing s with
  | nil => rfl
  | cons n ns ih =>
    rw [tryNodes, seekNodes]
    cases n.enter? c text with
    | none => exact ih s
    | some d =>
      have himprove : s.improve d = { s with best := longer s.best d } := by
        unfold Search.improve longer
        split <;> rfl
      dsimp only
      rw [h, himprove]
      cases hseek : seek d (longer s.best d) with
      | mk found best =>
        cases found with
        | some complete => rfl
        | none => exact ih { s with best := best }

/-- A search that asks for no states does what the search without a memory does. -/
theorem descend_false (g : Grammar σ ε) (tokens : List Token) (c : Context σ) (s : Search σ) :
    g.descend false tokens c s =
      ((g.seek tokens c s.best).1, { s with best := (g.seek tokens c s.best).2 }) := by
  induction tokens generalizing c s with
  | nil =>
    rw [descend, seek, if_neg nofun]
    cases g.finish? c <;> rfl
  | cons token tokens ih =>
    rw [descend, seek, if_neg nofun, tryNodes_eq_seekNodes ih]
    cases seekNodes (fun c best => g.seek tokens c best) c token.text (g.following c.position)
      s.best with
    | mk found best => cases found <;> rfl

theorem seekPending_eq {g : Grammar σ ε} {l : Line} (hg : g.Numbered) {c : Context σ}
    (hc : g.OnLine l c) :
    g.seekPending c =
      (g.answerWith c.pending c).getD ((g.metWith c.pending c).foldl longer c) := by
  have hst : false = true → g.isStateless = true := nofun
  have h := (descend_outcome hg hst c.pending hc rfl (barren_empty c) le_rfl).getD
  rwa [descend_false] at h

theorem matchPending_eq_seekPending {g : Grammar σ ε} {l : Line} (hg : g.Numbered) {c : Context σ}
    (hc : g.OnLine l c) : g.matchPending c = g.seekPending c :=
  (matchPending_eq hg hc).trans (seekPending_eq hg hc).symm

end Grammar

end CommandGrammar
