import CommandGrammar.Proofs.Way
import Mathlib.Data.List.Find
import Mathlib.Data.List.Forall2
import Mathlib.Data.List.Sort

/-! What the state of a context tells. Two contexts that were reached step by step have the same
state if and only if they agree in position, in the number of matched tokens, and in the counters of
all nodes that may only be entered so often. In a stateless grammar such contexts can be continued
in the same ways. -/

namespace CommandGrammar

variable {σ ε : Type}

/-! ### States -/

/-- Whether a node may only be entered so often. -/
def Outline.limits (o : Outline) (id : Nat) : Bool := (o.site? id).any (·.traversals != 0)

/-- The order in which a state lists its counters. -/
def State.before (a b : Nat × Nat) : Bool := a.1 < b.1 || (a.1 == b.1 && a.2 ≤ b.2)

theorem State.before_trans (a b c : Nat × Nat) :
    before a b = true → before b c = true → before a c = true := by
  simp only [before, Bool.or_eq_true, Bool.and_eq_true, decide_eq_true_eq, beq_iff_eq]
  omega

theorem State.before_total (a b : Nat × Nat) : (before a b || before b a) = true := by
  simp only [before, Bool.or_eq_true, Bool.and_eq_true, decide_eq_true_eq, beq_iff_eq]
  omega

theorem State.before_antisymm (a b : Nat × Nat) (hab : before a b = true)
    (hba : before b a = true) : a = b := by
  simp only [before, Bool.or_eq_true, Bool.and_eq_true, decide_eq_true_eq, beq_iff_eq] at hab hba
  exact Prod.ext (by omega) (by omega)

/-- The order in which counters come does not matter to a state. -/
theorem State.mergeSort_eq_of_perm {l m : List (Nat × Nat)} (h : l.Perm m) :
    l.mergeSort before = m.mergeSort before := by
  refine List.Perm.eq_of_pairwise (fun a b _ _ => before_antisymm a b)
    (List.pairwise_mergeSort before_trans before_total _)
    (List.pairwise_mergeSort before_trans before_total _) ?_
  exact (List.mergeSort_perm _ _).trans (h.trans (List.mergeSort_perm _ _).symm)

namespace Context

/-- The counters that the state of a context lists. -/
def limited (c : Context σ) : List (Nat × Nat) := c.tally.filter fun e => c.outline.limits e.1

theorem state_eq (c : Context σ) :
    c.state = ⟨c.position, c.consumed, c.limited.mergeSort State.before⟩ := rfl

theorem Consistent.mem_limited {c : Context σ} (hc : c.Consistent) (e : Nat × Nat) :
    e ∈ c.limited ↔ c.outline.limits e.1 = true ∧ 0 < e.2 ∧ c.traversed e.1 = e.2 := by
  rw [limited, List.mem_filter, hc.mem_tally, and_comm]

theorem Consistent.nodup_limited {c : Context σ} (hc : c.Consistent) : c.limited.Nodup :=
  hc.nodup.of_map.filter _

theorem mem_limited_iff_of_state_eq {c d : Context σ} (h : c.state = d.state) (e : Nat × Nat) :
    e ∈ c.limited ↔ e ∈ d.limited := by
  have hl : c.limited.mergeSort State.before = d.limited.mergeSort State.before :=
    congrArg State.limited h
  calc
    e ∈ c.limited ↔ e ∈ c.limited.mergeSort State.before := List.mem_mergeSort.symm
    _ ↔ e ∈ d.limited.mergeSort State.before := by rw [hl]
    _ ↔ e ∈ d.limited := List.mem_mergeSort

/-- Two contexts have the same state if and only if they agree in everything that limits their
future. -/
theorem Consistent.state_eq_iff {c d : Context σ} (hc : c.Consistent) (hd : d.Consistent)
    (ho : c.outline = d.outline) :
    c.state = d.state ↔ c.position = d.position ∧ c.consumed = d.consumed ∧
      ∀ id, c.outline.limits id = true → c.traversed id = d.traversed id := by
  constructor
  · intro h
    refine ⟨congrArg State.position h, congrArg State.consumed h, fun id hid => ?_⟩
    -- a counter above zero is listed by both states or by none
    have hmem (n : Nat) (hn : 0 < n) : c.traversed id = n ↔ d.traversed id = n := by
      have := mem_limited_iff_of_state_eq h (id, n)
      simpa [hc.mem_limited, hd.mem_limited, ← ho, hid, hn] using this
    by_cases h0 : c.traversed id = 0
    · by_contra hne
      have := (hmem (d.traversed id) (by omega)).mpr rfl
      omega
    · exact ((hmem (c.traversed id) (by omega)).mp rfl).symm
  · rintro ⟨hp, hn, ht⟩
    have hperm : c.limited.Perm d.limited := by
      rw [List.perm_ext_iff_of_nodup hc.nodup_limited hd.nodup_limited]
      intro e
      rw [hc.mem_limited, hd.mem_limited, ← ho]
      exact and_congr_right fun hl => by rw [ht e.1 hl]
    rw [state_eq, state_eq, hp, hn, State.mergeSort_eq_of_perm hperm]

end Context

/-! ### Alike contexts -/

theorem Node.conditions_of_isStateless {n : Node σ ε} (hs : n.isStateless = true) :
    n.conditions = [] := by
  simp only [isStateless, Bool.and_eq_true] at hs
  exact List.isEmpty_iff.mp hs.1.1

theorem exists_of_forall₂ {α β : Type} {R : α → β → Prop} {l : List α} {m : List β}
    (h : List.Forall₂ R l m) {b : β} (hb : b ∈ m) : ∃ a ∈ l, R a b := by
  induction h with
  | nil => cases hb
  | cons hr _ ih =>
    rcases List.mem_cons.mp hb with rfl | hb
    · exact ⟨_, List.mem_cons_self, hr⟩
    · obtain ⟨a, ha, hab⟩ := ih hb
      exact ⟨a, List.mem_cons_of_mem _ ha, hab⟩

namespace Grammar

theorem isStateless_of_node? {g : Grammar σ ε} (hs : g.isStateless = true) {i : Nat}
    {n : Node σ ε} (hn : g.node? i = some n) : n.isStateless = true :=
  Array.all_eq_true_iff_forall_mem.mp hs n (Array.mem_of_getElem? hn)

/-- The context was reached step by step on the line. -/
structure OnLine (g : Grammar σ ε) (l : Line) (c : Context σ) : Prop where
  consistent : c.Consistent
  outline : c.outline = g.outline
  line : c.line = l

theorem onLine_start (g : Grammar σ ε) (l : Line) (user : Option σ) : g.OnLine l (g.start l user) :=
  ⟨Context.consistent_start _ _ _, rfl, rfl⟩

theorem OnLine.step? {g : Grammar σ ε} {l : Line} {c d : Context σ} (hc : g.OnLine l c)
    {n : Node σ ε} {text : String} (h : n.step? c text = some d) : g.OnLine l d := by
  obtain ⟨-, -, value, -, rfl⟩ := Node.step?_eq_some.mp h
  exact ⟨hc.consistent.advance _ _, hc.outline, hc.line⟩

theorem OnLine.enter? {g : Grammar σ ε} {l : Line} {c d : Context σ} (hc : g.OnLine l c)
    {n : Node σ ε} {text : String} (h : n.enter? c text = some d) :
    g.OnLine l d ∧ d.pending = c.pending.tail ∧ d.consumed = c.consumed + 1 := by
  obtain ⟨-, -, hs⟩ := Node.enter?_eq_some.mp h
  have hd := hc.step? hs
  obtain ⟨-, -, value, -, rfl⟩ := Node.step?_eq_some.mp hs
  exact ⟨hd, c.pending_advance _ _, rfl⟩

theorem OnLine.of_mem_arrivalsWith {g : Grammar σ ε} {l : Line} {tokens : List Token}
    {c d : Context σ} (hc : g.OnLine l c) (h : d ∈ g.arrivalsWith tokens c) : g.OnLine l d := by
  induction tokens generalizing c with
  | nil =>
    obtain rfl := List.mem_singleton.mp h
    exact hc
  | cons token tokens ih =>
    rw [arrivalsWith_cons] at h
    obtain ⟨e, he, hd⟩ := List.mem_flatMap.mp h
    obtain ⟨n, -, hn⟩ := List.mem_filterMap.mp he
    exact ih (hc.enter? hn).1 hd

/-- Two contexts on the same line that agree in everything that limits their future. -/
structure Alike (g : Grammar σ ε) (c d : Context σ) : Prop where
  outline_left : c.outline = g.outline
  outline_right : d.outline = g.outline
  line : c.line = d.line
  position : c.position = d.position
  consumed : c.consumed = d.consumed
  traversed : ∀ id, g.outline.limits id = true → c.traversed id = d.traversed id

theorem OnLine.alike_iff {g : Grammar σ ε} {l : Line} {c d : Context σ} (hc : g.OnLine l c)
    (hd : g.OnLine l d) : g.Alike c d ↔ c.state = d.state := by
  rw [hc.consistent.state_eq_iff hd.consistent (hc.outline.trans hd.outline.symm), hc.outline]
  exact ⟨fun h => ⟨h.position, h.consumed, h.traversed⟩, fun ⟨hp, hn, ht⟩ =>
    ⟨hc.outline, hd.outline, hc.line.trans hd.line.symm, hp, hn, ht⟩⟩

theorem limits_id {g : Grammar σ ε} (hg : g.Numbered) {i : Nat} {n : Node σ ε}
    (hn : g.node? i = some n) : g.outline.limits n.id = (n.traversals != 0) := by
  obtain rfl := hg.id_eq hn
  have : g.nodes[n.id]? = some n := hn
  simp [Outline.limits, Outline.site?, outline, this]

namespace Alike

variable {g : Grammar σ ε} {c d : Context σ}

theorem pending (h : g.Alike c d) : c.pending = d.pending := by
  simp only [Context.pending, h.line, h.consumed]

theorem advance (h : g.Alike c d) (site : Site) (v w : Option Value) :
    g.Alike (c.advance site v) (d.advance site w) where
  outline_left := h.outline_left
  outline_right := h.outline_right
  line := h.line
  position := rfl
  consumed := congrArg (· + 1) h.consumed
  traversed id hid := by
    rw [Context.traversed_advance, Context.traversed_advance, h.traversed id hid]

theorem isOpen_eq (h : g.Alike c d) (hg : g.Numbered) (hs : g.isStateless = true) {i : Nat}
    {n : Node σ ε} (hn : g.node? i = some n) : n.isOpen c = n.isOpen d := by
  unfold Node.isOpen
  rw [Node.conditions_of_isStateless (isStateless_of_node? hs hn), List.all_nil, List.all_nil]
  by_cases ht : n.traversals = 0
  · simp [ht]
  · have hlim : g.outline.limits n.id = true := by simp [limits_id hg hn, ht]
    rw [h.traversed n.id hlim]

end Alike

/-- A node without callbacks offers the same candidates in every context. -/
theorem candidatesFor_eq {n : Node σ ε} (hs : n.isStateless = true) (c d : Context σ)
    (text : String) : n.candidatesFor c text = n.candidatesFor d text := by
  simp only [Node.isStateless, Bool.and_eq_true] at hs
  have hc := hs.1.2
  unfold Node.candidatesFor
  cases hn : n.candidates with
  | none => cases n.body <;> rfl
  | some source =>
    cases source with
    | fixed words => rfl
    | dynamic offer => simp [hn] at hc

namespace Alike

variable {g : Grammar σ ε} {c d : Context σ}

theorem enter? (h : g.Alike c d) (hg : g.Numbered) (hs : g.isStateless = true) {i : Nat}
    {n : Node σ ε} (hn : g.node? i = some n) (text : String) :
    Option.Rel g.Alike (n.enter? c text) (n.enter? d text) := by
  have hoffer : n.isOffered c text = n.isOffered d text := by
    simp only [Node.isOffered, candidatesFor_eq (isStateless_of_node? hs hn) c d text]
  unfold Node.enter?
  rw [h.isOpen_eq hg hs hn, Node.step?_eq, Node.step?_eq, hoffer]
  cases n.value? text with
  | none => simp only [Option.map_none, ite_self]; exact .none
  | some value =>
    split
    · split
      · exact .some (h.advance n.toSite value value)
      · exact .none
    · exact .none

theorem steps (h : g.Alike c d) (hg : g.Numbered) (hs : g.isStateless = true) (text : String) :
    List.Forall₂ (fun a b => a.1 = b.1 ∧ g.Alike a.2 b.2) (g.steps c text) (g.steps d text) := by
  unfold Grammar.steps
  rw [h.position]
  refine List.rel_filterMap (R := fun a b => a = b ∧ a ∈ g.placed d.position) ?_
    (List.forall₂_same.mpr fun e he => ⟨rfl, he⟩)
  rintro ⟨place, n⟩ _ ⟨rfl, he⟩
  have hn := (node?_of_edge? hg (mem_placed.mp he)).2
  have hrel := h.enter? hg hs hn text
  dsimp only
  generalize n.enter? c text = x, n.enter? d text = y at hrel ⊢
  cases hrel with
  | none => exact .none
  | some hnext => exact .some ⟨rfl, hnext⟩

/-- Alike contexts can be continued in the same ways, and lead to alike contexts. -/
theorem waysWith (h : g.Alike c d) (hg : g.Numbered) (hs : g.isStateless = true)
    (tokens : List Token) :
    List.Forall₂ (fun a b => a.1 = b.1 ∧ g.Alike a.2 b.2) (g.waysWith tokens c)
      (g.waysWith tokens d) := by
  induction tokens generalizing c d with
  | nil => exact .cons ⟨rfl, h⟩ .nil
  | cons token tokens ih =>
    refine .cons ⟨rfl, h⟩ (List.rel_flatMap (h.steps hg hs token.text) fun a b hab => ?_)
    exact List.rel_map (fun v w hvw => ⟨by rw [hab.1, hvw.1], hvw.2⟩) (ih hab.2)

theorem metWith (h : g.Alike c d) (hg : g.Numbered) (hs : g.isStateless = true)
    (tokens : List Token) :
    List.Forall₂ g.Alike (g.metWith tokens c) (g.metWith tokens d) :=
  List.rel_map (fun _ _ hab => hab.2) (h.waysWith hg hs tokens)

theorem arrivalsWith (h : g.Alike c d) (hg : g.Numbered) (hs : g.isStateless = true)
    (tokens : List Token) :
    List.Forall₂ g.Alike (g.arrivalsWith tokens c) (g.arrivalsWith tokens d) :=
  List.rel_map (fun _ _ hab => hab.2)
    (List.rel_filter (fun _ _ hab => by simp only [hab.1]) (h.waysWith hg hs tokens))

/-- Alike contexts are ended by the same action. -/
theorem find?_isAction (h : g.Alike c d) (hg : g.Numbered) (hs : g.isStateless = true) :
    ((g.following c.position).find? fun n => n.isAction && n.isOpen c) =
      (g.following d.position).find? fun n => n.isAction && n.isOpen d := by
  rw [h.position]
  refine List.find?_congr fun n hn => ?_
  rw [h.isOpen_eq hg hs (node?_of_mem_following hg hn)]

theorem finish?_eq_none_iff (h : g.Alike c d) (hg : g.Numbered) (hs : g.isStateless = true) :
    g.finish? c = none ↔ g.finish? d = none := by
  simp only [finish?, Option.map_eq_none_iff, h.find?_isAction hg hs]

end Alike

end Grammar

end CommandGrammar
