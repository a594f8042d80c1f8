import CommandGrammar.Proofs.Matching
import CommandGrammar.Proofs.Reading.Pieces
import Mathlib.Logic.Relation

/-! Patterns inside a group. A pattern that can be read can be read inside a group, unless a comment
at its end hides the parenthesis that closes the group. A pattern that can be read inside a group
can be read, unless a parenthesis in it closes the group early. -/

namespace CommandGrammar

namespace PatternReader

open Piece Relation

variable [Text.Properties]

/-! ### Reading on -/

/-- Reads the next piece, whatever stands in front of it. -/
def advance (s : State) : Piece State := (next s.flags).andThen (step s)

/-- The reader gets from one point to another, with the rest of the text. -/
def Reads : State × List Char → State × List Char → Prop :=
  ReflTransGen fun p q => advance p.1 p.2 = some q

/-- Nothing but white space and comments is left. -/
def AtEnd (p : State × List Char) : Prop := skip p.1.flags p.2 = []

/-- The whole text is read, and no group is open. -/
structure Finished (p : State × List Char) : Prop where
  atEnd : AtEnd p
  frames : p.1.frames = []

section

variable {s s' : State} {c : Char} {cs rest : List Char} {p q r : State × List Char}

theorem advance_of_nil (h : skip s.flags cs = []) : advance s cs = none := by
  rw [advance, next, Piece.andThen, blanks_andThen, h]
  rfl

theorem advance_of_cons (h : skip s.flags cs = c :: rest) : advance s cs = step s c rest := by
  rw [advance, next, Piece.andThen, blanks_andThen, h]
  rfl

theorem settles_advance (s : State) : (advance s).Settles true (Hangs s.flags '\x7b') :=
  (settles_next s.flags).andThen (settles_step s)

theorem length_lt_of_step (h : skip s.flags cs = c :: rest) {p : State × List Char}
    (hp : step s c rest = some p) : p.2.length < cs.length := by
  have hle := ((settles_step s c).suffix hp).length_le
  have hlt := (skip_suffix s.flags cs).length_le
  rw [h, List.length_cons] at hlt
  omega

theorem AtEnd.advance_eq (h : AtEnd p) : advance p.1 p.2 = none := advance_of_nil h

theorem AtEnd.eq_of_reads (h : AtEnd p) (hq : Reads p q) : q = p := by
  rcases hq.cases_head with rfl | ⟨r, hr, -⟩
  · rfl
  · cases h.advance_eq.symm.trans hr

theorem reads_cons (h : skip s.flags cs = c :: rest) (hr : step s c rest = some r)
    (hq : Reads r q) : Reads (s, cs) q :=
  .head ((advance_of_cons h).trans hr) hq

theorem exists_finished_iff_of_atEnd (h : AtEnd p) :
    (∃ q, Reads p q ∧ Finished q ∧ q.1 = s) ↔ p.1.frames = [] ∧ p.1 = s := by
  constructor
  · rintro ⟨q, hq, hfinished, hs⟩
    obtain rfl := h.eq_of_reads hq
    exact ⟨hfinished.frames, hs⟩
  · exact fun hp => ⟨p, .refl, ⟨h, hp.1⟩, hp.2⟩

theorem exists_finished_iff_of_cons (h : skip s.flags cs = c :: rest) :
    (∃ q, Reads (s, cs) q ∧ Finished q ∧ q.1 = s') ↔
      ∃ r, step s c rest = some r ∧ ∃ q, Reads r q ∧ Finished q ∧ q.1 = s' := by
  constructor
  · rintro ⟨q, hq, hfinished, hs⟩
    rcases hq.cases_head with rfl | ⟨r, hr, hq⟩
    · cases h.symm.trans hfinished.atEnd
    · exact ⟨r, (advance_of_cons h).symm.trans hr, q, hq, hfinished, hs⟩
  · rintro ⟨r, hr, q, hq, hfinished⟩
    exact ⟨q, reads_cons h hr hq, hfinished⟩

theorem run_eq_some_iff {n : Nat} (hn : cs.length ≤ n) :
    run n s cs = some s' ↔ ∃ q, Reads (s, cs) q ∧ Finished q ∧ q.1 = s' := by
  induction n generalizing s cs with
  | zero =>
    obtain rfl := List.eq_nil_of_length_eq_zero (Nat.le_zero.mp hn)
    have hend : AtEnd (s, []) := skip_nil s.flags
    rw [exists_finished_iff_of_atEnd hend, run, skip_nil]
    simp
  | succ n ih =>
    rw [run]
    cases hskip : skip s.flags cs with
    | nil =>
      have hend : AtEnd (s, cs) := hskip
      rw [exists_finished_iff_of_atEnd hend]
      simp
    | cons c rest =>
      rw [exists_finished_iff_of_cons hskip]
      dsimp only
      cases hstep : step s c rest with
      | none => simp
      | some r =>
        have hlt := length_lt_of_step hskip hstep
        simp only [Option.bind_eq_bind, Option.bind_some, Option.some.injEq, exists_eq_left']
        exact ih (by omega)

theorem read?_eq_some_iff {text : String} :
    read? text = some s ↔ ∃ q, Reads (.start, text.toList) q ∧ Finished q ∧ q.1 = s :=
  run_eq_some_iff (Nat.le_of_eq String.length_toList)

end

/-! ### Reading inside groups -/

/-- The state inside more groups. -/
def State.under (s : State) (frames : List Frame) : State :=
  { s with frames := s.frames ++ frames }

/-- The state behind the parenthesis that closes the group outside. -/
def State.leave (s : State) (f : Frame) (frames : List Frame) : State :=
  ⟨f.flags, .expr s.body (s.depth + 1) :: f.items, f.branches, frames, s.names⟩

section

variable {s s' : State} {c : Char} {cs rest : List Char} {f : Frame} {frames : List Frame}

omit [Text.Properties] in
theorem repeatLast_under (least : Nat) (most : Option Nat) :
    (s.under frames).repeatLast least most =
      (s.repeatLast least most).map (·.under frames) := by
  unfold State.repeatLast State.under
  cases s.items with
  | nil => rfl
  | cons item items => cases item <;> rfl

theorem step_under (h : c = ')' → s.frames ≠ []) (cs : List Char) :
    step (s.under frames) c cs = (step s c cs).map fun p => (p.1.under frames, p.2) := by
  have hflags : (s.under frames).flags = s.flags := rfl
  unfold step
  rw [hflags]
  split
  · cases readOpening s.flags cs with
    | none => rfl
    | some p =>
      obtain ⟨opening, rest⟩ := p
      cases opening with
      | flags flags => rfl
      | group name flags =>
        cases name with
        | none => rfl
        | some n =>
          have hnames : (s.under frames).names = s.names := rfl
          simp only [Option.bind_eq_bind, Option.bind_some, hnames]
          split <;> rfl
  · unfold State.under
    cases hframes : s.frames with
    | nil => exact absurd hframes (h rfl)
    | cons f fs => rfl
  · rfl
  · rcases openSet s.flags cs with ⟨negated, inner, rest⟩
    dsimp only
    cases readSet s.flags (rest.length + 1) negated inner rest <;> rfl
  · rw [repeatLast_under]
    cases s.repeatLast 0 (some 1) <;> rfl
  · rw [repeatLast_under]
    cases s.repeatLast 0 none <;> rfl
  · rw [repeatLast_under]
    cases s.repeatLast 1 none <;> rfl
  · cases readCount s.flags cs with
    | none => rfl
    | some p =>
      obtain ⟨least, most, rest⟩ := p
      simp only [Option.bind_eq_bind, Option.bind_some, repeatLast_under]
      cases s.repeatLast least most <;> rfl
  · cases readEscape s.flags cs <;> rfl
  · cases dotExpr? s.flags <;> rfl
  · rfl
  · rfl
  · rfl

theorem step_close_leave (h : s.frames = []) (f : Frame) (cs : List Char) :
    step (s.under (f :: frames)) ')' cs = some (s.leave f frames, cs) := by
  unfold State.under
  rw [step, h]
  rfl

theorem step_close_of_nil (h : s.frames = []) (cs : List Char) : step s ')' cs = none := by
  rw [step, h]

theorem ne_nil_of_step {p : State × List Char} (h : step s c cs = some p) :
    c = ')' → s.frames ≠ [] := by
  rintro rfl hnil
  cases (step_close_of_nil hnil cs).symm.trans h

/-- What is read outside can be read inside a group. -/
theorem Reads.under {p q : State × List Char} (h : Reads p q) (frames : List Frame) :
    Reads (p.1.under frames, p.2) (q.1.under frames, q.2) := by
  induction h with
  | refl => exact .refl
  | @tail q r _ hr ih =>
    refine ih.tail ?_
    cases hskip : skip q.1.flags q.2 with
    | nil => cases (advance_of_nil hskip).symm.trans hr
    | cons c rest =>
      have hstep := (advance_of_cons hskip).symm.trans hr
      have hskip' : skip (q.1.under frames).flags q.2 = c :: rest := hskip
      rw [advance_of_cons hskip', step_under (ne_nil_of_step hstep), hstep]
      rfl

end

/-! ### A closing parenthesis behind a text -/

section

variable {s s' : State} {c : Char} {cs rest t : List Char} {p q : State × List Char}

/-- What is read of a text is read in front of a closing parenthesis as well, unless a comment hides
the parenthesis. -/
theorem Reads.longer (h : Reads p q) :
    (∀ t, Reads (p.1, p.2 ++ ')' :: t) (q.1, q.2 ++ ')' :: t)) ∨
      q.2 = [] ∧ ∀ t, '\n' ∉ t → Reads (p.1, p.2 ++ ')' :: t) (q.1, []) := by
  induction h with
  | refl => exact .inl fun _ => .refl
  | @tail q r _ hr ih =>
    rcases ih with hlonger | ⟨hnil, -⟩
    · rcases (settles_advance q.1).longer hr with hnext | ⟨-, hnil, hhides⟩
      · exact .inl fun t => (hlonger t).tail (hnext t)
      · exact .inr ⟨hnil, fun t ht => (hlonger t).tail (hhides.eq ht)⟩
    · rw [hnil, advance_of_nil (skip_nil _)] at hr
      cases hr

/-- A piece in front of a closing parenthesis is read there whatever follows, or an opening brace is
left of which nothing more is read. -/
theorem advance_exchange (h : advance s (cs ++ ')' :: t) = some (s', rest ++ ')' :: t)) :
    ¬Hangs s.flags '\x7b' cs ∧ (advance s cs = some (s', rest) ∧
      (∀ t, advance s (cs ++ ')' :: t) = some (s', rest ++ ')' :: t)) ∨
        Hangs s'.flags '\x7b' rest) := by
  obtain ⟨c, m, hnext, hstep⟩ := andThen_eq_some.mp h
  have hsettled : (next s.flags).Settled := settles_next s.flags
  obtain ⟨m, rfl⟩ := exists_append_of_suffix (hsettled.suffix hnext)
    ((settles_step s c).suffix hstep)
  obtain ⟨hnext, hnexts⟩ := (hsettled.exchange hnext).resolve_right id
  constructor
  · -- an opening brace that comes next starts a count, which needs digits
    rintro ⟨blank, rfl, hblank⟩
    have hbrace : next s.flags ('\x7b' :: blank) = some ('\x7b', blank) := by
      rw [next, blanks_andThen, skip_cons (by decide) (by decide)]
      rfl
    obtain ⟨rfl, rfl⟩ := Prod.mk.inj (Option.some.inj (hnext.symm.trans hbrace))
    have hshort := ((settles_step_of_ne s (by decide)).shorter hstep).resolve_right id
    cases (step_count_of_nil hblank).symm.trans hshort
  · have hexchange : step s c m = some (s', rest) ∧
        (∀ t, step s c (m ++ ')' :: t) = some (s', rest ++ ')' :: t)) ∨
          Hangs s'.flags '\x7b' rest := by
      by_cases hc : c = '\\'
      · subst hc
        exact flags_of_step_escape hstep ▸ (settles_step s '\\').exchange hstep
      · exact .inl (((settles_step_of_ne s hc).exchange hstep).resolve_right id)
    refine hexchange.imp_left fun h => ?_
    obtain ⟨hstep, hsteps⟩ := h
    refine ⟨?_, fun t => ?_⟩
    · exact andThen_eq_some.mpr ⟨c, m, hnext, hstep⟩
    · exact andThen_eq_some.mpr ⟨c, _, hnexts t, hsteps t⟩

/-- What is read in front of a closing parenthesis is read there whatever follows. -/
theorem Reads.exchange (h : Reads p q) (hq : q.2 = rest ++ ')' :: t)
    (hhangs : ¬Hangs q.1.flags '\x7b' rest) :
    ∃ cs, p.2 = cs ++ ')' :: t ∧ ¬Hangs p.1.flags '\x7b' cs ∧ Reads (p.1, cs) (q.1, rest) ∧
      ∀ t, Reads (p.1, cs ++ ')' :: t) (q.1, rest ++ ')' :: t) := by
  -- from the end: whether a piece looks past what is left is told by the piece behind it
  induction h using ReflTransGen.head_induction_on with
  | refl => exact ⟨rest, hq, hhangs, .refl, fun _ => .refl⟩
  | @head p r hr _ ih =>
    obtain ⟨cs', hcs', hhangs', hreads, hmore⟩ := ih
    have hsuffix : cs' ++ ')' :: t <:+ p.2 := hcs' ▸ (settles_advance p.1).suffix hr
    obtain ⟨front, hfront⟩ := hsuffix
    rw [← List.append_assoc] at hfront
    have hadvance : advance p.1 ((front ++ cs') ++ ')' :: t) = some (r.1, cs' ++ ')' :: t) := by
      rw [hfront, ← hcs', hr]
    obtain ⟨hhangs, hexchange⟩ := advance_exchange hadvance
    obtain ⟨hone, hall⟩ := hexchange.resolve_right hhangs'
    exact ⟨front ++ cs', hfront.symm, hhangs, .head hone hreads, fun t => .head (hall t) (hmore t)⟩

end

/-! ### Between the start and the end of a text -/

/-- The group that holds a pattern between the start and the end of the text. -/
def anchorFrame : Frame := ⟨[.expr (.boundary .textStart) 0], [], .default⟩

theorem reads_anchor (source : String) :
    Reads (.start, (Pattern.anchor source).toList)
      (State.start.under [anchorFrame], source.toList ++ [')', '$']) := by
  have htext : (Pattern.anchor source).toList =
      '^' :: '(' :: '?' :: ':' :: (source.toList ++ [')', '$']) := by
    rw [Pattern.anchor, String.toList_append, String.toList_append]
    rfl
  rw [htext]
  exact reads_cons rfl rfl (reads_cons rfl rfl .refl)

/-- The state behind the end of the text, where the group is closed. -/
def State.whole (s : State) : State :=
  (s.leave anchorFrame []).push (.boundary .textEnd) 0

omit [Text.Properties] in
theorem State.body_whole (s : State) : s.whole.body = s.body.whole := rfl

omit [Text.Properties] in
/-- Group and sequence are two levels of nesting. -/
theorem State.depth_whole (s : State) : s.whole.depth = s.depth + 2 := by
  change max (max (max 0 0) (s.depth + 1)) 0 + 1 + 0 = _
  omega

/-- A text that is read up to the parenthesis behind it is read between start and end. -/
theorem read?_anchor_of_reads {source : String} {s : State} {m : List Char} (h : s.frames = [])
    (hreads : Reads (.start, source.toList ++ [')', '$']) (s, m))
    (hskip : skip s.flags m = [')', '$']) :
    read? (Pattern.anchor source) = some s.whole := by
  refine read?_eq_some_iff.mpr ⟨(s.whole, []), (reads_anchor source).trans ?_, ⟨rfl, rfl⟩, rfl⟩
  refine (hreads.under [anchorFrame]).trans ?_
  exact reads_cons hskip (step_close_leave h anchorFrame _) (reads_cons rfl rfl .refl)

end PatternReader

namespace Expr

open PatternReader

variable [Text.Properties]

theorem read?_eq_some_iff {text : String} {e : Expr} :
    read? text = some e ↔
      ∃ q, Reads (.start, text.toList) q ∧ Finished q ∧ q.1.body = e := by
  rw [read?, Option.map_eq_some_iff]
  constructor
  · rintro ⟨s, hs, rfl⟩
    obtain ⟨q, hq, hfinished, rfl⟩ := PatternReader.read?_eq_some_iff.mp hs
    exact ⟨q, hq, hfinished, rfl⟩
  · rintro ⟨q, hq, hfinished, rfl⟩
    exact ⟨q.1, PatternReader.read?_eq_some_iff.mpr ⟨q, hq, hfinished, rfl⟩, rfl⟩

theorem read?_anchor_of_reads {source : String} {s : State} {m : List Char} (h : s.frames = [])
    (hreads : Reads (.start, source.toList ++ [')', '$']) (s, m))
    (hskip : skip s.flags m = [')', '$']) :
    read? (Pattern.anchor source) = some s.body.whole := by
  rw [read?, PatternReader.read?_anchor_of_reads h hreads hskip, Option.map_some, State.body_whole]

end Expr

end CommandGrammar
