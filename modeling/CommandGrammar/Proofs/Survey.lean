import CommandGrammar.Completion
import CommandGrammar.Proofs.State

/-! What a survey of a line finds. It visits the ways that match all tokens in order, and in a
stateless grammar it turns back where it comes to a state that was visited before. What it finds is
then the first arrival in each state: every arrival that it missed is alike to one that it found. -/

namespace CommandGrammar

variable {σ ε : Type}

/-! ### The first context in each state -/

/-- Adds a context, unless one in the same state was found before. -/
def addNew (found : List (Context σ)) (c : Context σ) : List (Context σ) :=
  if c.state ∈ found.map Context.state then found else c :: found

theorem mem_states_addNew {found : List (Context σ)} {c : Context σ} {state : State} :
    state ∈ (addNew found c).map Context.state ↔
      state ∈ found.map Context.state ∨ state = c.state := by
  unfold addNew
  split
  · next h =>
    refine ⟨.inl, ?_⟩
    rintro (hs | rfl)
    · exact hs
    · exact h
  · rw [List.map_cons, List.mem_cons, or_comm]

theorem mem_states_foldl_addNew {l found : List (Context σ)} {state : State} :
    state ∈ (l.foldl addNew found).map Context.state ↔
      state ∈ found.map Context.state ∨ state ∈ l.map Context.state := by
  induction l generalizing found with
  | nil => simp
  | cons c l ih =>
    rw [List.foldl_cons, ih, mem_states_addNew, List.map_cons, List.mem_cons, or_assoc]

theorem mem_of_mem_foldl_addNew {l found : List (Context σ)} {c : Context σ}
    (h : c ∈ l.foldl addNew found) : c ∈ found ∨ c ∈ l := by
  induction l generalizing found with
  | nil => exact .inl h
  | cons d l ih =>
    rcases ih h with h | h
    · unfold addNew at h
      split at h
      · exact .inl h
      · rcases List.mem_cons.mp h with rfl | h
        · exact .inr List.mem_cons_self
        · exact .inl h
    · exact .inr (List.mem_cons_of_mem d h)

theorem nodup_foldl_addNew {l found : List (Context σ)} (h : (found.map Context.state).Nodup) :
    ((l.foldl addNew found).map Context.state).Nodup := by
  induction l generalizing found with
  | nil => exact h
  | cons c l ih =>
    refine ih ?_
    unfold addNew
    split
    · exact h
    · next hc => exact List.nodup_cons.mpr ⟨hc, h⟩

theorem foldl_addNew_eq_self {l found : List (Context σ)}
    (h : ∀ c ∈ l, c.state ∈ found.map Context.state) : l.foldl addNew found = found := by
  induction l with
  | nil => rfl
  | cons c l ih =>
    rw [List.forall_mem_cons] at h
    rw [List.foldl_cons, addNew, if_pos h.1, ih h.2]

namespace Grammar

/-! ### Visiting what follows a node -/

theorem state?_true (c : Context σ) : state? true c = some c.state := rfl

theorem explore_cons (g : Grammar σ ε) (stateless : Bool) (token : Token) (tokens : List Token)
    (c : Context σ) (s : Survey σ) :
    g.explore stateless (token :: tokens) c s =
      if (state? stateless c).any s.seen.contains then s
      else ((g.following c.position).filterMap (·.enter? c token.text)).foldl
        (fun s d => g.explore stateless tokens d s) (s.mark (state? stateless c)) := by
  rw [explore, List.foldl_filterMap]
  congr 2
  funext s n
  cases n.enter? c token.text <;> rfl

/-- Without a memory of states a survey finds all arrivals. -/
theorem explore_false (g : Grammar σ ε) (tokens : List Token) (c : Context σ) (s : Survey σ) :
    (g.explore false tokens c s).found = (g.arrivalsWith tokens c).reverse ++ s.found := by
  induction tokens generalizing c s with
  | nil => rfl
  | cons token tokens ih =>
    have hall (ds : List (Context σ)) (s : Survey σ) :
        (ds.foldl (fun s d => g.explore false tokens d s) s).found =
          (ds.flatMap (g.arrivalsWith tokens)).reverse ++ s.found := by
      induction ds generalizing s with
      | nil => rfl
      | cons d ds ihd => rw [List.foldl_cons, ihd, ih, List.flatMap_cons]; simp
    rw [explore_cons, if_neg nofun, hall, arrivalsWith_cons]
    rfl

/-! ### Visiting each state once -/

/-- What a survey knows on a line while it is still visiting what follows the states `under` way:
it has visited the states of all contexts it found, and it has found the states of all arrivals
behind the other states that it visited. -/
structure Surveyed (g : Grammar σ ε) (l : Line) (under : List State) (s : Survey σ) : Prop where
  seen_of_found : ∀ d ∈ s.found, s.seen.contains d.state = true
  found_of_seen : ∀ d, g.OnLine l d → s.seen.contains d.state = true → d.state ∉ under →
    ∀ e ∈ g.arrivalsWith d.pending d, e.state ∈ s.found.map Context.state

theorem surveyed_empty (g : Grammar σ ε) (l : Line) : g.Surveyed l [] (.empty : Survey σ) :=
  ⟨nofun, fun d _ h => by simp [Survey.empty] at h⟩

theorem Surveyed.mark {g : Grammar σ ε} {l : Line} {under : List State} {s : Survey σ}
    (h : g.Surveyed l under s) (c : Context σ) :
    g.Surveyed l (c.state :: under) (s.mark (some c.state)) where
  seen_of_found d hd := by
    simp only [Survey.mark, Std.HashSet.contains_insert, Bool.or_eq_true]
    exact .inr (h.seen_of_found d hd)
  found_of_seen d hd hseen hunder := by
    simp only [Survey.mark, Std.HashSet.contains_insert, Bool.or_eq_true, beq_iff_eq] at hseen
    rw [List.mem_cons, not_or] at hunder
    exact h.found_of_seen d hd (hseen.resolve_left fun he => hunder.1 he.symm) hunder.2

theorem Surveyed.find {g : Grammar σ ε} {l : Line} {under : List State} {s : Survey σ}
    (h : g.Surveyed l under s) {c : Context σ} (hc : s.seen.contains c.state = true) :
    g.Surveyed l under { s with found := c :: s.found } where
  seen_of_found := List.forall_mem_cons.mpr ⟨hc, h.seen_of_found⟩
  found_of_seen d hd hseen hunder e he :=
    List.mem_cons_of_mem c.state (h.found_of_seen d hd hseen hunder e he)

/-- To turn back at a state that was visited before loses nothing. -/
theorem Surveyed.foldl_addNew {g : Grammar σ ε} {l : Line} {under : List State} {s : Survey σ}
    (h : g.Surveyed l under s) {c : Context σ} (hc : g.OnLine l c)
    (hunder : ∀ state ∈ under, state.consumed < c.consumed)
    (hseen : s.seen.contains c.state = true) :
    (g.arrivalsWith c.pending c).foldl addNew s.found = s.found :=
  foldl_addNew_eq_self <| h.found_of_seen c hc hseen fun hin => lt_irrefl _ (hunder _ hin)

/-- Once all arrivals behind a state are found, the survey is done with it. -/
theorem Surveyed.leave {g : Grammar σ ε} (hg : g.Numbered) (hs : g.isStateless = true) {l : Line}
    {under : List State} {s : Survey σ} {c : Context σ} (hc : g.OnLine l c)
    (h : g.Surveyed l (c.state :: under) s)
    (hfound : ∀ e ∈ g.arrivalsWith c.pending c, e.state ∈ s.found.map Context.state) :
    g.Surveyed l under s where
  seen_of_found := h.seen_of_found
  found_of_seen d hd hseen hunder e he := by
    by_cases hstate : d.state = c.state
    · have halike : g.Alike c d := (hc.alike_iff hd).mpr hstate.symm
      rw [← halike.pending] at he
      obtain ⟨f, hf, hfe⟩ := exists_of_forall₂ (halike.arrivalsWith hg hs c.pending) he
      have hf' := hc.of_mem_arrivalsWith hf
      have he' := hd.of_mem_arrivalsWith (halike.pending ▸ he)
      rw [← (hf'.alike_iff he').mp hfe]
      exact hfound f hf
    · refine h.found_of_seen d hd hseen ?_ e he
      rw [List.mem_cons, not_or]
      exact ⟨hstate, hunder⟩

/-- What a survey comes to from some knowledge: it has found the contexts `ds`, as far as they were
new, and knows enough to go on. -/
def Finds (g : Grammar σ ε) (l : Line) (under : List State) (s : Survey σ)
    (ds : List (Context σ)) (t : Survey σ) : Prop :=
  t.found = ds.foldl addNew s.found ∧ g.Surveyed l under t

/-- Visiting contexts one after the other finds what each of them leads to. -/
theorem foldl_explore {g : Grammar σ ε} {l : Line} {under : List State} {tokens : List Token}
    {ds : List (Context σ)} {s : Survey σ}
    (hvisit : ∀ d ∈ ds, ∀ s, g.Surveyed l under s →
      g.Finds l under s (g.arrivalsWith tokens d) (g.explore true tokens d s))
    (h : g.Surveyed l under s) :
    g.Finds l under s (ds.flatMap (g.arrivalsWith tokens))
      (ds.foldl (fun s d => g.explore true tokens d s) s) := by
  induction ds generalizing s with
  | nil => exact ⟨rfl, h⟩
  | cons d ds ih =>
    rw [List.forall_mem_cons] at hvisit
    obtain ⟨hfound, hd⟩ := hvisit.1 s h
    rw [List.foldl_cons, Finds, List.flatMap_cons, List.foldl_append, ← hfound]
    exact ih hvisit.2 hd

/-- With a memory of states a survey finds the first arrival in each state. -/
theorem explore_true {g : Grammar σ ε} (hg : g.Numbered) (hs : g.isStateless = true) {l : Line}
    {tokens : List Token} {c : Context σ} {s : Survey σ} {under : List State} (hc : g.OnLine l c)
    (hp : c.pending = tokens) (hunder : ∀ state ∈ under, state.consumed < c.consumed)
    (h : g.Surveyed l under s) :
    g.Finds l under s (g.arrivalsWith tokens c) (g.explore true tokens c s) := by
  induction tokens generalizing c s under with
  | nil =>
    rw [explore]
    split
    · next hseen => exact ⟨by rw [← hp, h.foldl_addNew hc hunder hseen], h⟩
    · next hseen =>
      have hnew : c.state ∉ s.found.map Context.state := by
        intro hin
        obtain ⟨d, hd, hstate⟩ := List.mem_map.mp hin
        have hcontains := h.seen_of_found d hd
        rw [hstate] at hcontains
        exact hseen hcontains
      have hmark : g.Surveyed l (c.state :: under)
          { s.mark (some c.state) with found := c :: s.found } :=
        (h.mark c).find Std.HashSet.contains_insert_self
      refine ⟨(if_neg hnew).symm, hmark.leave hg hs hc ?_⟩
      rw [hp, arrivalsWith_nil, List.forall_mem_singleton]
      exact List.mem_cons_self
  | cons token tokens ih =>
    rw [explore_cons, state?_true]
    split
    · next hseen => exact ⟨by rw [← hp, h.foldl_addNew hc hunder hseen], h⟩
    · have hvisit : ∀ d ∈ (g.following c.position).filterMap (·.enter? c token.text), ∀ s,
          g.Surveyed l (c.state :: under) s →
            g.Finds l (c.state :: under) s (g.arrivalsWith tokens d)
              (g.explore true tokens d s) := by
        intro d hd s h
        obtain ⟨n, -, hn⟩ := List.mem_filterMap.mp hd
        obtain ⟨hline, hpending, hconsumed⟩ := hc.enter? hn
        refine ih hline (by rw [hpending, hp, List.tail_cons]) ?_ h
        rw [hconsumed]
        refine List.forall_mem_cons.mpr ⟨Nat.lt_succ_self _, fun state hin => ?_⟩
        exact (hunder state hin).trans (Nat.lt_succ_self _)
      obtain ⟨hfound, hsurveyed⟩ := foldl_explore hvisit (h.mark c)
      rw [← arrivalsWith_cons] at hfound
      refine ⟨hfound, hsurveyed.leave hg hs hc fun e he => ?_⟩
      rw [hp] at he
      rw [hfound, mem_states_foldl_addNew]
      exact .inr (List.mem_map_of_mem he)

/-! ### Positions -/

/-- The contexts that matched all tokens, found without a memory of states. -/
def everyPosition (g : Grammar σ ε) (c : Context σ) : List (Context σ) :=
  (g.explore false c.pending c .empty).found.reverse

theorem everyPosition_eq (g : Grammar σ ε) (c : Context σ) :
    g.everyPosition c = (g.fullWays c).map (·.2) := by
  rw [everyPosition, explore_false, List.reverse_append, List.reverse_reverse]
  rfl

section

variable {g : Grammar σ ε} {l : Line} {c d : Context σ}

theorem OnLine.of_mem_everyPosition (hc : g.OnLine l c) (h : d ∈ g.everyPosition c) :
    g.OnLine l d := by
  rw [everyPosition_eq] at h
  exact hc.of_mem_arrivalsWith h

/-- In a stateless grammar the positions are the first in each state. -/
theorem positions_eq (hg : g.Numbered) (hs : g.isStateless = true) (hc : g.OnLine l c) :
    g.positions c = ((g.everyPosition c).foldl addNew []).reverse := by
  rw [positions, hs, (explore_true hg hs hc rfl (List.forall_mem_nil _) (g.surveyed_empty l)).1,
    everyPosition_eq]
  rfl

theorem nodup_positions (hg : g.Numbered) (hs : g.isStateless = true) (hc : g.OnLine l c) :
    ((g.positions c).map Context.state).Nodup := by
  rw [positions_eq hg hs hc, List.map_reverse, List.nodup_reverse]
  exact nodup_foldl_addNew List.nodup_nil

theorem mem_everyPosition_of_mem_positions (hg : g.Numbered) (hs : g.isStateless = true)
    (hc : g.OnLine l c) (h : d ∈ g.positions c) : d ∈ g.everyPosition c := by
  rw [positions_eq hg hs hc, List.mem_reverse] at h
  exact (mem_of_mem_foldl_addNew h).resolve_left List.not_mem_nil

/-- What was missed is alike to what was found. -/
theorem exists_alike_position (hg : g.Numbered) (hs : g.isStateless = true) (hc : g.OnLine l c)
    (h : d ∈ g.everyPosition c) : ∃ e ∈ g.positions c, g.Alike e d := by
  have hstate : d.state ∈ ((g.everyPosition c).foldl addNew []).map Context.state :=
    mem_states_foldl_addNew.mpr (.inr (List.mem_map_of_mem h))
  obtain ⟨e, he, heq⟩ := List.mem_map.mp hstate
  rw [← List.mem_reverse, ← positions_eq hg hs hc] at he
  have hon := hc.of_mem_everyPosition (mem_everyPosition_of_mem_positions hg hs hc he)
  exact ⟨e, he, (hon.alike_iff (hc.of_mem_everyPosition h)).mpr heq⟩

theorem positions_eq_everyPosition (hs : g.isStateless = false) (c : Context σ) :
    g.positions c = g.everyPosition c := by
  rw [positions, hs]
  rfl

theorem positions_subset_everyPosition (hg : g.Numbered) (hc : g.OnLine l c) :
    g.positions c ⊆ g.everyPosition c := by
  intro d h
  cases hs : g.isStateless with
  | true => exact mem_everyPosition_of_mem_positions hg hs hc h
  | false => exact positions_eq_everyPosition hs c ▸ h

/-- What alike contexts share is found at the positions if it is found at all. -/
theorem exists_position_iff (hg : g.Numbered) (hc : g.OnLine l c) {P : Context σ → Prop}
    (halike : g.isStateless = true → ∀ d e, g.Alike d e → P e → P d) :
    (∃ d ∈ g.positions c, P d) ↔ ∃ d ∈ g.everyPosition c, P d := by
  constructor
  · rintro ⟨d, hd, h⟩
    exact ⟨d, positions_subset_everyPosition hg hc hd, h⟩
  · rintro ⟨e, he, h⟩
    cases hs : g.isStateless with
    | true =>
      obtain ⟨d, hd, hde⟩ := exists_alike_position hg hs hc he
      exact ⟨d, hd, halike hs d e hde h⟩
    | false => exact ⟨e, positions_eq_everyPosition hs c ▸ he, h⟩

end

end Grammar

end CommandGrammar
