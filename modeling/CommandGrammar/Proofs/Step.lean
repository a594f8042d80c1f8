import CommandGrammar.Proofs.Building
import CommandGrammar.Search
import Mathlib.Data.List.Nodup

/-! What one step does. A node is entered if it is open, fits the token, is offered where that is
asked for, and has a value for the token where it needs one; the context then moves on by one token.
The counters of a context that was reached step by step agree with its history. -/

namespace CommandGrammar

variable {σ ε : Type}

/-! ### Entering a node -/

namespace Node

/-- The value to collect from a token, or `some none` if the node collects none. -/
def value? (n : Node σ ε) (text : String) : Option (Option Value) :=
  match n.body with
  | .var kind => (kind.parse text).toOption.map some
  | _ => some none

theorem step?_eq (n : Node σ ε) (c : Context σ) (text : String) :
    n.step? c text =
      if n.fits text && n.isOffered c text then (n.value? text).map (c.advance n.toSite)
      else none := by
  unfold step? value?
  cases n.body with
  | var kind => dsimp only; cases kind.parse text <;> rfl
  | _ => rfl

theorem step?_eq_some {n : Node σ ε} {c d : Context σ} {text : String} :
    n.step? c text = some d ↔ n.fits text = true ∧ n.isOffered c text = true ∧
      ∃ value, n.value? text = some value ∧ d = c.advance n.toSite value := by
  rw [step?_eq]
  split
  · next h =>
    rw [Bool.and_eq_true] at h
    simp [h, Option.map_eq_some_iff, @eq_comm _ d]
  · next h =>
    rw [Bool.and_eq_true] at h
    exact ⟨nofun, fun ⟨hf, ho, _⟩ => absurd ⟨hf, ho⟩ h⟩

theorem enter?_eq_some {n : Node σ ε} {c d : Context σ} {text : String} :
    n.enter? c text = some d ↔
      n.isAction = false ∧ n.isOpen c = true ∧ n.step? c text = some d := by
  unfold enter?
  cases n.isAction <;> cases n.isOpen c <;> simp

/-- A node that may be entered has not reached its limit. -/
theorem lt_of_isOpen {n : Node σ ε} {c : Context σ} (ha : n.isAction = false)
    (ho : n.isOpen c = true) (ht : n.traversals ≠ 0) : c.traversed n.id < n.traversals := by
  simp only [isOpen, Bool.and_eq_true, Bool.or_eq_true, ha, beq_iff_eq, decide_eq_true_eq,
    Bool.false_eq_true, false_or, ht] at ho
  exact ho.1

/-- A node without a pattern is never entered. -/
theorem step?_eq_none_of_pattern {n : Node σ ε} (h : n.pattern = none) (c : Context σ)
    (text : String) : n.step? c text = none := by
  simp [step?_eq, fits, h]

end Node

namespace Context

theorem pending_advance (c : Context σ) (site : Site) (value : Option Value) :
    (c.advance site value).pending = c.pending.tail := by
  simp [pending, advance]

end Context

/-! ### Counters -/

theorem lookup_cons_eq_ite {α β : Type} [BEq α] [LawfulBEq α] [DecidableEq α] (other key : α)
    (v : β) (l : List (α × β)) :
    List.lookup other ((key, v) :: l) = if other = key then some v else l.lookup other := by
  by_cases h : other = key
  · simp [h]
  · have : (other == key) = false := beq_false_of_ne h
    simp [List.lookup_cons, this, h]

namespace Context

theorem lookup_bump (id other : Nat) (l : List (Nat × Nat)) :
    (bump id l).lookup other =
      if other = id then some ((l.lookup id).getD 0 + 1) else l.lookup other := by
  induction l with
  | nil => simp [bump]
  | cons e l ih =>
    obtain ⟨key, n⟩ := e
    rw [bump]
    by_cases hk : key = id
    · subst hk
      by_cases h : other = key <;> simp [lookup_cons_eq_ite, h]
    · rw [if_neg (by simpa using hk), lookup_cons_eq_ite, lookup_cons_eq_ite, lookup_cons_eq_ite,
        ih, if_neg (Ne.symm hk)]
      by_cases h : other = key
      · have : other ≠ id := fun ho => hk (h.symm.trans ho)
        simp [h, hk]
      · simp [h]

theorem traversed_advance (c : Context σ) (site : Site) (value : Option Value) (id : Nat) :
    (c.advance site value).traversed id =
      if id = site.id then c.traversed id + 1 else c.traversed id := by
  simp only [traversed, advance, lookup_bump]
  by_cases h : id = site.id <;> simp [h]

theorem keys_bump (id : Nat) (l : List (Nat × Nat)) :
    (bump id l).map (·.1) = if id ∈ l.map (·.1) then l.map (·.1) else l.map (·.1) ++ [id] := by
  induction l with
  | nil => simp [bump]
  | cons e l ih =>
    obtain ⟨key, n⟩ := e
    rw [bump]
    by_cases hk : key = id
    · simp [hk]
    · rw [if_neg (by simpa using hk), List.map_cons, ih]
      have : id ≠ key := Ne.symm hk
      by_cases hm : id ∈ l.map (·.1) <;> simp [hm, this]

theorem pos_of_mem_bump {id : Nat} {l : List (Nat × Nat)} (hl : ∀ e ∈ l, 0 < e.2) :
    ∀ e ∈ bump id l, 0 < e.2 := by
  induction l with
  | nil => simp [bump]
  | cons e l ih =>
    obtain ⟨key, n⟩ := e
    rw [List.forall_mem_cons] at hl
    rw [bump]
    split
    · exact List.forall_mem_cons.mpr ⟨Nat.succ_pos n, hl.2⟩
    · exact List.forall_mem_cons.mpr ⟨hl.1, ih hl.2⟩

/-- The fields of the context tell of the same steps. -/
structure Consistent (c : Context σ) : Prop where
  nodup : (c.tally.map (·.1)).Nodup
  pos : ∀ e ∈ c.tally, 0 < e.2
  traversed : ∀ id, c.traversed id = c.history.count id
  consumed : c.consumed = c.history.length
  position : c.position = c.history.getLast?.getD 0

theorem consistent_start (outline : Outline) (line : Line) (user : Option σ) :
    (start outline line user).Consistent where
  nodup := List.nodup_nil
  pos := nofun
  traversed _ := rfl
  consumed := rfl
  position := rfl

theorem Consistent.advance {c : Context σ} (hc : c.Consistent) (site : Site)
    (value : Option Value) : (c.advance site value).Consistent where
  nodup := by
    change ((bump site.id c.tally).map (·.1)).Nodup
    rw [keys_bump]
    split
    · exact hc.nodup
    · next h => exact List.nodup_append.mpr ⟨hc.nodup, List.nodup_singleton _, by
        rintro a ha b hb rfl
        exact h (List.mem_singleton.mp hb ▸ ha)⟩
  pos := pos_of_mem_bump hc.pos
  traversed id := by
    have h := hc.traversed id
    simp only [Context.traversed, Context.advance, lookup_bump, List.count_append] at h ⊢
    by_cases hid : id = site.id
    · subst hid
      simp [h]
    · simp [hid, h, Ne.symm hid]
  consumed := by simp [Context.advance, hc.consumed]
  position := by simp [Context.advance]

/-- The counters are the nodes that were entered, each with the number of entries. -/
theorem Consistent.mem_tally {c : Context σ} (hc : c.Consistent) (e : Nat × Nat) :
    e ∈ c.tally ↔ 0 < e.2 ∧ c.traversed e.1 = e.2 := by
  obtain ⟨id, n⟩ := e
  constructor
  · intro h
    refine ⟨hc.pos _ h, ?_⟩
    obtain ⟨l₁, l₂, hl⟩ := List.append_of_mem h
    have hnd := hc.nodup
    rw [hl, List.map_append, List.map_cons, List.nodup_middle, List.nodup_cons] at hnd
    have hlook : c.tally.lookup id = some n := by
      rw [List.lookup_eq_some_iff]
      refine ⟨l₁, l₂, hl, fun p hp => ?_⟩
      have : id ≠ p.1 := fun he =>
        hnd.1 (List.mem_append_left _ (List.mem_map.mpr ⟨p, hp, he.symm⟩))
      simpa using this
    simp [Context.traversed, hlook]
  · rintro ⟨hn, ht⟩
    cases hlook : c.tally.lookup id with
    | none => simp [Context.traversed, hlook] at ht; omega
    | some m =>
      obtain rfl : m = n := by simpa [Context.traversed, hlook] using ht
      obtain ⟨l₁, l₂, hl, -⟩ := List.lookup_eq_some_iff.mp hlook
      simp [hl]

end Context

end CommandGrammar
