import CommandGrammar.Proofs.Completion
import CommandGrammar.Proofs.Search

/-! Contexts in the same state. Two contexts that were reached on the same line in any two ways, and
are in the same state, have the same future in a stateless grammar: they may enter the same nodes,
every step leads to contexts in the same state again, a search from either ends alike, and the same
is offered behind both. -/

namespace CommandGrammar

variable {σ ε : Type}

/-! ### Counters in any order -/

/-- A state does not tell in which order the counters stand. -/
theorem Context.state_of_perm {c : Context σ} {tally : List (Nat × Nat)}
    (h : tally.Perm c.tally) : { c with tally }.state = c.state := by
  have hlimited : { c with tally }.limited.Perm c.limited := h.filter _
  simp only [Context.state_eq, State.mergeSort_eq_of_perm hlimited]

/-! ### Contexts reached by steps -/

namespace Grammar

/-- The context was reached from the start of the line by matching one token after the other, each
with a node of the grammar. -/
inductive Reached (g : Grammar σ ε) (l : Line) : Context σ → Prop
  | start (user : Option σ) : Reached g l (g.start l user)
  | step {c d : Context σ} {i : Nat} {n : Node σ ε} {token : Token} (before : Reached g l c)
      (node : g.node? i = some n) (next : c.pending.head? = some token)
      (steps : n.step? c token.text = some d) : Reached g l d

theorem Reached.onLine {g : Grammar σ ε} {l : Line} {c : Context σ} (h : g.Reached l c) :
    g.OnLine l c := by
  induction h with
  | start user => exact g.onLine_start l user
  | step _ _ _ hsteps ih => exact ih.step? hsteps

/-- What a way leads to is reached. -/
theorem Reached.follow? {g : Grammar σ ε} (hg : g.Numbered) {l : Line} {c d : Context σ}
    (hc : g.Reached l c) {way : List Nat} (h : g.follow? c way = some d) : g.Reached l d := by
  refine follow?_keeps (P := g.Reached l) (fun {c d place} hc htake => ?_) hc h
  obtain ⟨n, token, hn, hnext, -, hsteps⟩ := take?_eq_some.mp htake
  exact .step hc (node?_of_edge? hg hn).2 hnext hsteps

theorem limits_iff {g : Grammar σ ε} {id : Nat} :
    g.outline.limits id = true ↔ ∃ n, g.node? id = some n ∧ n.traversals ≠ 0 := by
  simp [Outline.limits, Outline.site?, outline, node?, Option.any_eq_true_iff_get,
    Array.getElem?_eq_some_iff]

/-! ### Going on in step -/

/-- The contexts `a` and `b` were reached from `c` and `d` through the same further nodes, and agree
in everything that limits their future. -/
structure Onward (g : Grammar σ ε) (c d a b : Context σ) : Prop extends g.Alike a b where
  history : ∃ nodes, a.history = c.history ++ nodes ∧ b.history = d.history ++ nodes

theorem Onward.trans {g : Grammar σ ε} {c d a b e f : Context σ} (h : g.Onward c d a b)
    (h' : g.Onward a b e f) : g.Onward c d e f where
  toAlike := h'.toAlike
  history := by
    obtain ⟨nodes, ha, hb⟩ := h.history
    obtain ⟨more, he, hf⟩ := h'.history
    exact ⟨nodes ++ more, by rw [he, ha, List.append_assoc], by rw [hf, hb, List.append_assoc]⟩

namespace Alike

variable {g : Grammar σ ε} {c d : Context σ}

/-- A node is stepped over in both contexts or in neither. -/
theorem step? (h : g.Alike c d) (hs : g.isStateless = true) {i : Nat} {n : Node σ ε}
    (hn : g.node? i = some n) (text : String) :
    Option.Rel (g.Onward c d) (n.step? c text) (n.step? d text) := by
  have hoffer : n.isOffered c text = n.isOffered d text := by
    simp only [Node.isOffered, candidatesFor_eq (isStateless_of_node? hs hn) c d text]
  rw [Node.step?_eq, Node.step?_eq, hoffer]
  split
  · cases n.value? text with
    | none => exact .none
    | some value => exact .some ⟨h.advance n.toSite value value, [n.id], rfl, rfl⟩
  · exact .none

theorem enter?_onward (h : g.Alike c d) (hg : g.Numbered) (hs : g.isStateless = true) {i : Nat}
    {n : Node σ ε} (hn : g.node? i = some n) (text : String) :
    Option.Rel (g.Onward c d) (n.enter? c text) (n.enter? d text) := by
  rw [Node.enter?, Node.enter?, h.isOpen_eq hg hs hn]
  split
  · exact h.step? hs hn text
  · exact .none

/-- The ways that match all of the tokens lead on from alike contexts through the same nodes. -/
theorem arrivalsWith_onward (h : g.Alike c d) (hg : g.Numbered) (hs : g.isStateless = true)
    (tokens : List Token) :
    List.Forall₂ (g.Onward c d) (g.arrivalsWith tokens c) (g.arrivalsWith tokens d) := by
  induction tokens generalizing c d with
  | nil => exact .cons ⟨h, [], (List.append_nil _).symm, (List.append_nil _).symm⟩ .nil
  | cons token tokens ih =>
    rw [arrivalsWith_cons, arrivalsWith_cons, h.position]
    refine List.rel_flatMap (R := g.Onward c d) ?_ fun a b hab => ?_
    · refine List.rel_filterMap (R := fun n m => n = m ∧ n ∈ g.following d.position) ?_
        (List.forall₂_same.mpr fun n hn => ⟨rfl, hn⟩)
      rintro n _ ⟨rfl, hn⟩
      exact h.enter?_onward hg hs (node?_of_mem_following hg hn) token.text
    · exact (ih hab.toAlike).imp fun e f => hab.trans

end Alike

/-- The contexts `a` and `b` went on from `c` and `d` through the same nodes to the same action. -/
def SameEnd (c d a b : Context σ) : Prop :=
  ∃ nodes action, a.history = c.history ++ nodes ∧ b.history = d.history ++ nodes ∧
    a.action = some action ∧ b.action = some action

theorem Onward.finish? {g : Grammar σ ε} {c d a b : Context σ} (h : g.Onward c d a b)
    (hg : g.Numbered) (hs : g.isStateless = true) :
    Option.Rel (SameEnd c d) (g.finish? a) (g.finish? b) := by
  obtain ⟨nodes, ha, hb⟩ := h.history
  rw [Grammar.finish?, Grammar.finish?, h.find?_isAction hg hs]
  cases (g.following b.position).find? fun n => n.isAction && n.isOpen b with
  | none => exact .none
  | some n => exact .some ⟨nodes, n.id, ha, hb, rfl, rfl⟩

theorem rel_findSome? {α β γ δ : Type} {R : α → β → Prop} {S : γ → δ → Prop} {f : α → Option γ}
    {k : β → Option δ} {l : List α} {m : List β} (h : List.Forall₂ R l m)
    (hf : ∀ a b, R a b → Option.Rel S (f a) (k b)) :
    Option.Rel S (l.findSome? f) (m.findSome? k) := by
  induction h with
  | nil => exact .none
  | @cons a b _ _ hab _ ih =>
    rw [List.findSome?_cons, List.findSome?_cons]
    have hrel := hf a b hab
    generalize f a = x, k b = y at hrel ⊢
    cases hrel with
    | none => exact ih
    | some hxy => exact .some hxy

theorem Alike.answerWith {g : Grammar σ ε} {c d : Context σ} (h : g.Alike c d) (hg : g.Numbered)
    (hs : g.isStateless = true) (tokens : List Token) :
    Option.Rel (SameEnd c d) (g.answerWith tokens c) (g.answerWith tokens d) :=
  rel_findSome? (h.arrivalsWith_onward hg hs tokens) fun _ _ hab => hab.finish? hg hs

/-! ### What a search finds -/

/-- What is found, and which states have failed. -/
def verdict (r : Option (Context σ) × Search σ) : Option (Context σ) × Std.HashSet State :=
  (r.1, r.2.failed)

theorem verdict_fail (s : Search σ) (state : Option State) :
    verdict (none, s.fail state) = (none, state.elim s.failed s.failed.insert) := by
  cases state <;> rfl

theorem failed_improve (s : Search σ) (c : Context σ) : (s.improve c).failed = s.failed := by
  unfold Search.improve
  split <;> rfl

/-- Trying nodes does not depend on the longest way so far if going on behind them does not. -/
theorem verdict_tryNodes (visit : Context σ → Search σ → Option (Context σ) × Search σ)
    (hvisit : ∀ {c : Context σ} {s t : Search σ}, s.failed = t.failed →
      verdict (visit c s) = verdict (visit c t))
    (c : Context σ) (text : String) (ns : List (Node σ ε)) {s t : Search σ}
    (h : s.failed = t.failed) :
    verdict (tryNodes visit c text ns s) = verdict (tryNodes visit c text ns t) := by
  induction ns generalizing s t with
  | nil => exact congrArg (none, ·) h
  | cons n ns ih =>
    rw [tryNodes, tryNodes]
    cases n.enter? c text with
    | none => exact ih h
    | some next =>
      have himprove : (s.improve next).failed = (t.improve next).failed := by
        rw [failed_improve, failed_improve, h]
      have hnext := hvisit (c := next) himprove
      dsimp only
      generalize visit next (s.improve next) = r, visit next (t.improve next) = q at hnext ⊢
      obtain ⟨found, s'⟩ := r
      obtain ⟨found', t'⟩ := q
      obtain ⟨rfl, hfailed⟩ := Prod.mk.inj hnext
      cases found with
      | some complete => exact hnext
      | none => exact ih hfailed

theorem verdict_descend (g : Grammar σ ε) (stateless : Bool) (tokens : List Token) {c : Context σ}
    {s t : Search σ} (h : s.failed = t.failed) :
    verdict (g.descend stateless tokens c s) = verdict (g.descend stateless tokens c t) := by
  have hknown (state : Option State) : s.hasFailed state = t.hasFailed state := by
    rw [Search.hasFailed, Search.hasFailed, h]
  induction tokens generalizing c s t with
  | nil =>
    rw [descend, descend, hknown]
    split
    · exact congrArg (none, ·) h
    · cases g.finish? c with
      | some complete => exact congrArg (some complete, ·) h
      | none =>
        dsimp only
        rw [verdict_fail, verdict_fail, h]
  | cons token tokens ih =>
    rw [descend, descend, hknown]
    split
    · exact congrArg (none, ·) h
    · have htry := verdict_tryNodes (fun c s => descend g stateless tokens c s)
        (fun h => ih h fun state => by rw [Search.hasFailed, Search.hasFailed, h])
        c token.text (g.following c.position) h
      generalize tryNodes _ c token.text (g.following c.position) s = r,
        tryNodes _ c token.text (g.following c.position) t = q at htry ⊢
      obtain ⟨found, s'⟩ := r
      obtain ⟨found', t'⟩ := q
      obtain ⟨rfl, hfailed⟩ := Prod.mk.inj htry
      cases found with
      | some complete => exact htry
      | none =>
        dsimp only at hfailed ⊢
        rw [verdict_fail, verdict_fail, hfailed]

/-- A search that knows of no failed state finds the first context that completes a way. -/
theorem OnLine.descend_eq {g : Grammar σ ε} {l : Line} {c : Context σ} (hc : g.OnLine l c)
    (hg : g.Numbered) (best : Context σ) :
    (g.descend g.isStateless c.pending c ⟨best, ∅⟩).1 = g.answerWith c.pending c := by
  have hbest : verdict (g.descend g.isStateless c.pending c ⟨best, ∅⟩) =
      verdict (g.descend g.isStateless c.pending c ⟨c, ∅⟩) := verdict_descend _ _ _ rfl
  exact (congrArg Prod.fst hbest).trans
    (descend_outcome hg id c.pending hc rfl (barren_empty c) le_rfl).1

end Grammar

/-! ### The same future -/

/-- In a stateless grammar, two contexts that were reached on the same line are in the same state
if and only if they agree in position, in the number of matched tokens, and in how often each node
that may only be entered so often was entered, in whatever order the counters stand. They then have
the same edges and the same next token, may enter and step over the same nodes, and are in the same
state behind each step. A search that knows of no failed state goes on from both through the same
nodes to the same action, or fails from both, and both are offered the same candidates and the same
help. -/
theorem same_state_same_future {b : Builder σ ε} {g : Grammar σ ε} (h : b.build = .ok g)
    (hs : g.isStateless = true) {l : Line} {c d : Context σ} (hc : g.Reached l c)
    (hd : g.Reached l d) :
    (∀ counters others : List (Nat × Nat), counters.Perm c.tally → others.Perm d.tally →
      ({ c with tally := counters }.state = { d with tally := others }.state ↔
        c.position = d.position ∧ c.consumed = d.consumed ∧
          ∀ i n, g.node? i = some n → n.traversals ≠ 0 → c.traversed i = d.traversed i)) ∧
    (c.state = d.state →
      g.following c.position = g.following d.position ∧ c.pending = d.pending ∧
      (∀ n ∈ g.following c.position, n.isOpen c = n.isOpen d ∧ ∀ text,
        Option.Rel (fun a b => a.state = b.state) (n.step? c text) (n.step? d text)) ∧
      (∀ best other, Option.Rel (Grammar.SameEnd c d)
        (g.descend g.isStateless c.pending c ⟨best, ∅⟩).1
        (g.descend g.isStateless d.pending d ⟨other, ∅⟩).1) ∧
      ∀ typed, g.contextCandidates c typed = g.contextCandidates d typed ∧
        g.contextHelp c typed = g.contextHelp d typed) := by
  have hg := b.numbered_of_build h
  have hcl := hc.onLine
  have hdl := hd.onLine
  refine ⟨fun counters others hcounters hothers => ?_, fun hstate => ?_⟩
  · rw [Context.state_of_perm hcounters, Context.state_of_perm hothers,
      hcl.consistent.state_eq_iff hdl.consistent (hcl.outline.trans hdl.outline.symm), hcl.outline]
    refine and_congr_right fun _ => and_congr_right fun _ => ?_
    simp only [Grammar.limits_iff, forall_exists_index, and_imp]
  · have halike := (hcl.alike_iff hdl).mpr hstate
    refine ⟨by rw [halike.position], halike.pending, fun n hn => ?_, fun best other => ?_,
      fun typed => ⟨halike.contextCandidates hg hs typed, halike.contextHelp hg hs typed⟩⟩
    · have hid := Grammar.node?_of_mem_following hg hn
      refine ⟨halike.isOpen_eq hg hs hid, fun text => ?_⟩
      have hsteps := halike.step? hs hid text
      generalize ha : n.step? c text = x, hb : n.step? d text = y at hsteps ⊢
      cases hsteps with
      | none => exact .none
      | some hab => exact .some (((hcl.step? ha).alike_iff (hdl.step? hb)).mp hab.toAlike)
    · rw [hcl.descend_eq hg, hdl.descend_eq hg, ← halike.pending]
      exact halike.answerWith hg hs c.pending

/-- A text, a word and a text were matched, or a word and two texts. -/
theorem same_state_same_future_tags : ∃ g, Sample.tags.build = .ok g ∧ g.isStateless = true ∧
    ∃ c d, g.Reached (.read "tags a b c end") c ∧ g.Reached (.read "tags a b c end") d ∧
      c.history = [1, 2, 3, 2] ∧ d.history = [1, 3, 2, 2] ∧ c.state = d.state ∧
      Option.Rel (Grammar.SameEnd c d) (g.descend g.isStateless c.pending c ⟨c, ∅⟩).1
        (g.descend g.isStateless d.pending d ⟨d, ∅⟩).1 ∧
      g.contextCandidates c "" = g.contextCandidates d "" ∧
      g.contextHelp c "" = g.contextHelp d "" := by
  let line := Line.read "tags a b c end"
  obtain ⟨g, hg, hval⟩ := Sample.tags.exists_build
    (f := fun g => (g.isStateless,
      (g.follow? (g.start line none) [0, 0, 1, 0]).map (·.history),
      (g.follow? (g.start line none) [0, 1, 0, 0]).map (·.history)))
    (v := (true, some [1, 2, 3, 2], some [1, 3, 2, 2])) (by decide +kernel)
  obtain ⟨hs, hval⟩ := Prod.mk.inj hval
  obtain ⟨hleft, hright⟩ := Prod.mk.inj hval
  obtain ⟨c, hc, hch⟩ := Option.map_eq_some_iff.mp hleft
  obtain ⟨d, hd, hdh⟩ := Option.map_eq_some_iff.mp hright
  have hstart : g.Reached line (g.start line none) := .start none
  have hcr := hstart.follow? (Sample.tags.numbered_of_build hg) hc
  have hdr := hstart.follow? (Sample.tags.numbered_of_build hg) hd
  obtain ⟨hiff, hsame⟩ := same_state_same_future hg hs hcr hdr
  have hstate : c.state = d.state := by
    have hleft := hcr.onLine.consistent
    have hright := hdr.onLine.consistent
    refine (hiff c.tally d.tally (.refl _) (.refl _)).mpr ⟨?_, ?_, fun i _ _ _ => ?_⟩
    · rw [hleft.position, hright.position, hch, hdh]
      rfl
    · rw [hleft.consumed, hright.consumed, hch, hdh]
      rfl
    · rw [hleft.traversed, hright.traversed, hch, hdh]
      exact List.Perm.count_eq (by decide) i
  obtain ⟨-, -, -, hfound, hoffered⟩ := hsame hstate
  exact ⟨g, hg, hs, c, d, hcr, hdr, hch, hdh, hstate, hfound c d, hoffered ""⟩

end CommandGrammar
