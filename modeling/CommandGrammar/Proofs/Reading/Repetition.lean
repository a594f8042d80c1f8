import CommandGrammar.Proofs.Matching
import CommandGrammar.Proofs.Reading.Pieces

/-! Repetitions in what is read. The reader refuses a count whose least number is above its
greatest, so in every expression that it gives the repetitions can be done. -/

namespace CommandGrammar

namespace PatternReader

open Piece

/-! ### Counts -/

theorem le_of_countEnd {flags : Flags} {least : Nat} {cs rest : List Char}
    {bounds : Nat × Option Nat} (h : countEnd flags least cs = some (bounds, rest)) :
    ∀ m ∈ bounds.2, bounds.1 ≤ m := by
  unfold countEnd after at h
  split at h
  · obtain ⟨heq, -⟩ := give_eq_some.mp h
    cases heq
    rintro m ⟨⟩
    exact Nat.le_refl _
  · split at h
    · rw [blanks_andThen] at h
      split at h
      · obtain ⟨heq, -⟩ := give_eq_some.mp h
        cases heq
        nofun
      · obtain ⟨most, more, -, hend⟩ := andThen_eq_some.mp h
        split at hend
        · obtain ⟨heq, -⟩ := give_eq_some.mp hend
          split at heq
          · next hle =>
            cases heq
            rintro m ⟨⟩
            exact hle
          · cases heq
        · cases hend
    · cases h

theorem le_of_count {flags : Flags} {cs rest : List Char} {bounds : Nat × Option Nat}
    (h : count flags cs = some (bounds, rest)) : ∀ m ∈ bounds.2, bounds.1 ≤ m := by
  rw [count, blanks_andThen] at h
  obtain ⟨least, m, -, hend⟩ := andThen_eq_some.mp h
  exact le_of_countEnd hend

/-! ### States -/

/-- The repetitions in the items can be done. -/
def BoundedItems (items : List Item) : Prop := ∀ e depth, .expr e depth ∈ items → e.Bounded

/-- The repetitions in what has been read can be done. -/
structure State.Bounded (s : State) : Prop where
  items : BoundedItems s.items
  branches : ∀ items ∈ s.branches, BoundedItems items
  frames : ∀ f ∈ s.frames, BoundedItems f.items ∧ ∀ items ∈ f.branches, BoundedItems items

theorem boundedItems_nil : BoundedItems [] := nofun

theorem BoundedItems.cons {items : List Item} (h : BoundedItems items) {e : Expr} {depth : Nat}
    (he : e.Bounded) : BoundedItems (.expr e depth :: items) := by
  intro d level hd
  rcases List.mem_cons.mp hd with heq | hd
  · cases heq
    exact he
  · exact h d level hd

theorem BoundedItems.switch {items : List Item} (h : BoundedItems items) :
    BoundedItems (.switch :: items) := by
  intro d level hd
  rcases List.mem_cons.mp hd with heq | hd
  · cases heq
  · exact h d level hd

theorem BoundedItems.branchExpr {items : List Item} (h : BoundedItems items) :
    (branchExpr items).Bounded := by
  unfold PatternReader.branchExpr
  have hempty : Expr.empty.Bounded := trivial
  generalize Expr.empty = e at hempty
  induction items generalizing e with
  | nil => exact hempty
  | cons item items ih =>
    have hrest : BoundedItems items := fun d level hd => h d level (List.mem_cons_of_mem _ hd)
    refine ih hrest _ ?_
    cases item with
    | switch => exact hempty
    | expr a depth =>
      have ha : a.Bounded := h a depth List.mem_cons_self
      dsimp only
      split
      · exact ha
      · exact ⟨ha, hempty⟩

namespace State

variable {s s' : State} {c : Char} {cs : List Char} {e : Expr}

theorem Bounded.body (h : s.Bounded) : s.body.Bounded := by
  have hbranches := h.branches
  have hfirst := h.items.branchExpr
  unfold State.body
  generalize branchExpr s.items = e at hfirst
  generalize s.branches = branches at hbranches
  induction branches generalizing e with
  | nil => exact hfirst
  | cons b branches ih =>
    obtain ⟨hb, hbranches⟩ := List.forall_mem_cons.mp hbranches
    exact ih _ ⟨hb.branchExpr, hfirst⟩ hbranches

theorem Bounded.push (h : s.Bounded) {depth : Nat} (he : e.Bounded) : (s.push e depth).Bounded :=
  ⟨h.items.cons he, h.branches, h.frames⟩

theorem Bounded.repeatLast (h : s.Bounded) {least : Nat} {most : Option Nat}
    (hle : ∀ m ∈ most, least ≤ m) (hs : s.repeatLast least most = some s') : s'.Bounded := by
  have hitems := h.items
  unfold State.repeatLast at hs
  split at hs
  · next a depth items heq =>
    cases hs
    rw [heq] at hitems
    have ha : a.Bounded := hitems a depth List.mem_cons_self
    have hrest : BoundedItems items := fun d level hd => hitems d level (List.mem_cons_of_mem _ hd)
    exact ⟨hrest.cons ⟨ha, hle⟩, h.branches, h.frames⟩
  · cases hs

theorem Bounded.opens (h : s.Bounded) {opening : Opening} (hs : s.opens? opening = some s') :
    s'.Bounded := by
  have hinside (flags : Flags) (names : List (List Char)) :
      State.Bounded ⟨flags, [], [], ⟨s.items, s.branches, s.flags⟩ :: s.frames, names⟩ :=
    ⟨boundedItems_nil, nofun, List.forall_mem_cons.mpr ⟨⟨h.items, h.branches⟩, h.frames⟩⟩
  unfold State.opens? at hs
  split at hs
  · cases hs
    exact ⟨h.items.switch, h.branches, h.frames⟩
  · cases hs
    exact hinside _ _
  · split at hs
    · cases hs
    · cases hs
      exact hinside _ _

theorem Bounded.closes (h : s.Bounded) (hs : s.closes? = some s') : s'.Bounded := by
  have hframes := h.frames
  unfold State.closes? at hs
  split at hs
  · cases hs
  · next f frames heq =>
    cases hs
    rw [heq] at hframes
    obtain ⟨⟨hitems, hbranches⟩, hframes⟩ := List.forall_mem_cons.mp hframes
    exact ⟨hitems.cons h.body, hbranches, hframes⟩

theorem Bounded.repetition (h : s.Bounded) {least : Nat} {most : Option Nat}
    (hle : ∀ m ∈ most, least ≤ m) {p : State × List Char}
    (hp : repetition (s.repeatLast least most) cs = some p) : p.1.Bounded := by
  rw [repetition_eq] at hp
  obtain ⟨s', hs', heq⟩ := Option.bind_eq_some_iff.mp hp
  cases heq
  exact h.repeatLast hle hs'

theorem bounded_atom (flags : Flags) (a : Atom) : (a.expr flags).Bounded := by
  cases a <;> trivial

theorem bounded_dot {flags : Flags} (h : dotExpr? flags = some e) : e.Bounded := by
  unfold dotExpr? at h
  split_ifs at h <;> cases h <;> trivial

/-- What is read next keeps the repetitions bounded. -/
theorem Bounded.step [Text.Properties] (h : s.Bounded) {p : State × List Char}
    (hp : step s c cs = some p) :
    p.1.Bounded := by
  by_cases hc : c ∈ ['(', ')', '[', '?', '*', '+', '\x7b', '\\']
  · simp only [List.mem_cons, List.not_mem_nil, or_false] at hc
    rcases hc with rfl | rfl | rfl | rfl | rfl | rfl | rfl | rfl
    · rw [step_open] at hp
      obtain ⟨opening, m, -, hend⟩ := andThen_eq_some.mp hp
      exact h.opens (give_eq_some.mp hend).1
    · rw [step_close] at hp
      exact h.closes (give_eq_some.mp hp).1
    · rw [step_set] at hp
      obtain ⟨cls, m, -, hend⟩ := andThen_eq_some.mp hp
      exact Option.some.inj (give_eq_some.mp hend).1 ▸ h.push trivial
    · exact h.repetition (by simp) (step_optional s ▸ hp)
    · exact h.repetition (by simp) (step_star s ▸ hp)
    · exact h.repetition (by simp) (step_plus s ▸ hp)
    · rw [step_count] at hp
      obtain ⟨bounds, m, hbounds, hend⟩ := andThen_eq_some.mp hp
      obtain ⟨s', m', hs', hend⟩ := andThen_eq_some.mp hend
      have hs' := h.repeatLast (le_of_count hbounds) (give_eq_some.mp hs').1
      rw [blanks_andThen] at hend
      obtain ⟨-, m'', -, hend⟩ := andThen_eq_some.mp hend
      exact Option.some.inj (give_eq_some.mp hend).1 ▸ hs'
    · rw [step_escape] at hp
      obtain ⟨q, -, rfl⟩ := Option.map_eq_some_iff.mp hp
      exact h.push (bounded_atom _ _)
  · unfold PatternReader.step at hp
    split at hp
    all_goals first | exact absurd (by decide) hc | skip
    · cases hp
      exact ⟨boundedItems_nil, List.forall_mem_cons.mpr ⟨h.items, h.branches⟩, h.frames⟩
    · obtain ⟨e, he, heq⟩ := Option.bind_eq_some_iff.mp hp
      cases heq
      exact h.push (bounded_dot he)
    · cases hp
      exact h.push trivial
    · cases hp
      exact h.push trivial
    · cases hp
      exact h.push trivial

end State

end PatternReader

end CommandGrammar
