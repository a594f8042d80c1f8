import CommandGrammar.Proofs.Reading.Brackets

/-! What the reader reads in one piece is settled before a closing parenthesis: it reads the same
whether or not the parenthesis and more follow. Two things look further. White space and comments
at the end of a piece may hide the parenthesis, and a word boundary looks at an opening brace behind
it. -/

namespace CommandGrammar.PatternReader

open Piece

/-! ### Counts -/

/-- A digit belongs to the digits before it. -/
def goDigits (read : List Char) (c : Char) : Option (List Char) :=
  if c.isDigit then some (read ++ [c]) else none

/-- Digits, with what may stand between them. -/
def digits (flags : Flags) : Piece (List Char) := spaced flags goDigits []

theorem digits_eq (flags : Flags) (cs : List Char) :
    digits flags cs = some (readDigits flags false [] cs) := by
  have h (inside : Bool) (read : List Char) :
      stretch (goSpaced flags goDigits) Prod.snd (inside, read) cs =
        some (readDigits flags inside read cs) := by
    induction cs generalizing inside read with
    | nil => cases inside <;> rfl
    | cons c cs ih =>
      cases inside with
      | true => rw [stretch_cons_of_some rfl, ih, readDigits]
      | false =>
        rw [readDigits]
        split
        · next hc => rw [stretch_cons_of_some (goSpaced_of_some (if_pos hc)), ih]
        · next hc =>
          have hnone : goDigits read c = none := if_neg hc
          have hgo : goSpaced flags goDigits (false, read) c = _ := goSpaced_of_none hnone
          split
          · next hblank =>
            rw [if_pos hblank] at hgo
            rw [stretch_cons_of_some hgo, ih]
          · next hblank =>
            rw [if_neg hblank] at hgo
            split
            · next hhash =>
              rw [if_pos hhash] at hgo
              rw [stretch_cons_of_some hgo, ih]
            · next hhash =>
              rw [if_neg hhash] at hgo
              rw [stretch_cons_of_none hgo]
  exact h false []

/-- White space, also where it would mean something. -/
def spaces : Piece Unit := fun cs => some ((), cs.dropWhile Text.isBlank)

theorem settles_spaces : spaces.Settles true Whole := by
  have heq : spaces = stretch (fun _ c => if Text.isBlank c then some () else none) id () := by
    funext cs
    rw [spaces]
    induction cs with
    | nil => rfl
    | cons c cs ih =>
      by_cases hc : Text.isBlank c = true
      · rw [List.dropWhile_cons_of_pos hc, stretch_cons_of_some (if_pos hc), ih]
      · rw [List.dropWhile_cons_of_neg hc, stretch_cons_of_none (if_neg hc)]
  rw [heq]
  exact settles_stretch (fun _ => .inl rfl) id ()

/-- The number that digits write. -/
def decimalValue? (digits : List Char) : Option Nat :=
  let value := digits.foldl (fun n c => 10 * n + (c.toNat - 48)) 0
  if digits.isEmpty || value ≥ Nat.pow 2 32 then none else some value

theorem readDecimal_eq (flags : Flags) : readDecimal flags =
    spaces.andThen fun _ => (digits flags).andThen fun digits =>
      (give (decimalValue? digits)).andThen fun value =>
        spaces.andThen fun _ => give (some value) := by
  funext cs
  simp only [readDecimal, decimalValue?, spaces, Piece.andThen, digits_eq, Option.bind_some]
  split <;> rfl

theorem settles_readDecimal (flags : Flags) : Settles true Whole (readDecimal flags) := by
  rw [readDecimal_eq]
  exact settles_spaces.andThen fun _ => (settles_spaced flags (fun _ => rfl) _).andThen fun _ =>
    (settles_give _).andThen fun _ => settles_spaces.andThen fun _ => settles_give _

/-- The greatest number of a count, if there is one. -/
def countEnd (flags : Flags) (least : Nat) : Piece (Nat × Option Nat) :=
  after ['\x7d'] (give (some (least, some least)))
    (after [','] ((blanks flags).andThen fun _ =>
        after ['\x7d'] (give (some (least, none)))
          (Piece.andThen (readDecimal flags) fun most =>
            after ['\x7d'] (give (if least ≤ most then some (least, some most) else none))
              (give none)))
      (give none))

/-- The numbers of a counted repetition, behind its opening brace. -/
def count (flags : Flags) : Piece (Nat × Option Nat) :=
  (blanks flags).andThen fun _ => Piece.andThen (readDecimal flags) (countEnd flags)

theorem settled_count (flags : Flags) : (count flags).Settled := by
  have hmost (least : Nat) : Settled (Piece.andThen (readDecimal flags) fun most =>
      after ['\x7d'] (give (if least ≤ most then some (least, some most) else none))
        (give none)) := by
    refine (settles_readDecimal flags).andThen_of_nil (fun most => ?_) fun most => ?_
    · exact .after (by decide) (settles_give _) (settles_give _)
    · rw [after_nil]
      rfl
  have hend (least : Nat) : Settled (countEnd flags least) := by
    refine .after (by decide) (settles_give _) (.after (by decide) ?_ (settles_give _))
    refine (settles_blanks flags).andThen_of_nil (fun _ => ?_) fun _ => ?_
    · exact .after (by decide) (settles_give _) (hmost least)
    · rw [after_nil]
      rfl
  refine (settles_blanks flags).andThen_of_nil (fun _ => ?_) fun _ => rfl
  refine (settles_readDecimal flags).andThen_of_nil hend fun least => ?_
  rw [countEnd, after_nil, after_nil]
  rfl

theorem readCount_eq (flags : Flags) (cs : List Char) :
    readCount flags cs = (count flags cs).map fun p => (p.1.1, p.1.2, p.2) := by
  rw [readCount, count, blanks_andThen, Piece.andThen]
  cases readDecimal flags (skip flags cs) with
  | none => rfl
  | some p =>
    obtain ⟨least, rest⟩ := p
    simp only [Option.bind_eq_bind, Option.bind_some, countEnd]
    split
    · rw [after_cons_self]
      rfl
    · next rest =>
      rw [after_cons_of_ne (by decide), after_cons_self, blanks_andThen]
      split
      · next h =>
        rw [h, after_cons_self]
        rfl
      · next hne =>
        rw [after_of_forall_ne hne, Piece.andThen]
        cases readDecimal flags (skip flags rest) with
        | none => rfl
        | some q =>
          simp only [Option.bind_some]
          split
          · next h =>
            rw [h, after_cons_self]
            split <;> rfl
          · next hne =>
            rw [after_of_forall_ne hne]
            rfl
    · next hclose hcomma =>
      rw [after_of_forall_ne hclose, after_of_forall_ne hcomma]
      rfl

/-! ### Groups -/

/-- The name of a group, if the text is one. -/
def nameOf? (name : List Char) : Option (List Char) :=
  match name with
  | [] => none
  | c :: rest => if isNameChar true c && rest.all (isNameChar false) then some name else none

/-- What a character does to the name of a group that is read. -/
def goName (read : List Char) (c : Char) : List Char ⊕ Option (List Char) :=
  if c = '>' then .inr (nameOf? read) else .inl (read ++ [c])

theorem readName_eq : readName = scan goName [] := by
  have h (read cs : List Char) : scan goName read cs =
      after ['>'] (give (nameOf? (read ++ cs.takeWhile (· != '>')))) (give none)
        (cs.drop (cs.takeWhile (· != '>')).length) := by
    induction cs generalizing read with
    | nil => rfl
    | cons c cs ih =>
      rw [scan_cons, goName]
      by_cases hc : c = '>'
      · subst hc
        rw [if_pos rfl, List.takeWhile_cons_of_neg (by decide), List.append_nil]
        change _ = after ['>'] _ _ ('>' :: cs)
        rw [after_cons_self]
        rfl
      · have hpos : (c != '>') = true := bne_iff_ne.mpr hc
        have htake := List.takeWhile_cons_of_pos (p := (· != '>')) (l := cs) hpos
        rw [if_neg hc, htake, List.append_cons read c (cs.takeWhile _)]
        exact ih _
  funext cs
  rw [h, readName, List.nil_append]
  generalize cs.takeWhile (· != '>') = name
  generalize cs.drop name.length = behind
  split
  · rw [nameOf?, after_cons_self]
    split <;> rfl
  · next hne =>
    by_cases hclosed : ∃ rest, behind = '>' :: rest
    · obtain ⟨rest, rfl⟩ := hclosed
      cases name with
      | nil => rfl
      | cons c name => exact (hne c name rest rfl rfl).elim
    · rw [after_of_forall_ne fun rest hrest => hclosed ⟨rest, hrest⟩]
      rfl

/-- What a character does to the letters that switch settings. -/
def goFlags : Flags × Bool × List Char → Char → (Flags × Bool × List Char) ⊕ Option Opening
  | (flags, on, seen), c =>
    if c == ':' then .inr (if seen.head? == some '-' then none else some (.group none flags))
    else if c == ')' then
      .inr (if seen.head? == some '-' || seen.isEmpty then none else some (.flags flags))
    else if seen.contains c then .inr none
    else if c == '-' then .inl (flags, false, c :: seen)
    else
      match flags.set on c with
      | some flags => .inl (flags, on, c :: seen)
      | none => .inr none

/-- Letters that switch settings, with the colon or the parenthesis behind them. -/
def switches (flags : Flags) : Piece Opening := scan goFlags (flags, true, [])

theorem switches_eq (flags : Flags) (cs : List Char) : switches flags cs =
    match readFlags flags true [] cs with
    | some (inner, _, ':' :: rest) => some (.group none inner, rest)
    | some (inner, _ :: _, ')' :: rest) => some (.flags inner, rest)
    | _ => none := by
  have h (flags : Flags) (on : Bool) (seen : List Char) : scan goFlags (flags, on, seen) cs =
      match readFlags flags on seen cs with
      | some (inner, _, ':' :: rest) => some (.group none inner, rest)
      | some (inner, _ :: _, ')' :: rest) => some (.flags inner, rest)
      | _ => none := by
    induction cs generalizing flags on seen with
    | nil => rfl
    | cons c cs ih =>
      rw [scan_cons, goFlags, readFlags]
      by_cases hcolon : c = ':'
      · subst hcolon
        cases seen.head? == some '-' <;> rfl
      · by_cases hclose : c = ')'
        · subst hclose
          cases seen with
          | nil => rfl
          | cons d seen => cases hd : (d :: seen).head? == some '-' <;> simp [give]
        · have hcolon : (c == ':') = false := beq_false_of_ne hcolon
          have hclose : (c == ')') = false := beq_false_of_ne hclose
          simp only [hcolon, hclose, Bool.or_false, Bool.false_eq_true, if_false]
          split
          · rfl
          · split
            · exact ih _ _ _
            · cases flags.set on c with
              | none => rfl
              | some inner => exact ih _ _ _
  exact h flags true []

/-- A group with a name. -/
def named (flags : Flags) : Piece Opening :=
  Piece.andThen readName fun name => give (some (.group (some name) flags))

theorem readName_named (flags : Flags) (cs : List Char) :
    (readName cs).map (fun p => (.group (some p.1) flags, p.2)) = named flags cs := by
  rw [named, Piece.andThen]
  cases readName cs <;> rfl

theorem readOpening_eq (flags : Flags) : readOpening flags = (blanks flags).andThen fun _ =>
    after ['?', 'P', '<'] (named flags)
      (after ['?', '<', '='] (give none)
        (after ['?', '<', '!'] (give none)
          (after ['?', '<'] (named flags)
            (after ['?', '='] (give none)
              (after ['?', '!'] (give none)
                (after ['?'] (switches flags) (give (some (.group none flags))))))))) := by
  funext cs
  rw [readOpening, blanks_andThen]
  generalize skip flags cs = cs
  split
  · next rest =>
    rw [readName_named]
    exact (after_append ['?', 'P', '<'] rest _ _).symm
  · next rest =>
    rw [after_eq_right (by simp)]
    exact (after_append ['?', '<', '='] rest (give none) _).symm
  · next rest =>
    rw [after_eq_right (by simp), after_eq_right (by simp)]
    exact (after_append ['?', '<', '!'] rest (give none) _).symm
  · next rest hahead hnot =>
    have hahead : ∀ more, '<' :: rest = ['<', '='] ++ more → False := fun more h =>
      hahead more (List.cons.inj h).2
    have hnot : ∀ more, '<' :: rest = ['<', '!'] ++ more → False := fun more h =>
      hnot more (List.cons.inj h).2
    rw [readName_named, after_eq_right (by simp), after_cons_of_forall_ne _ hahead,
      after_cons_of_forall_ne _ hnot]
    exact (after_append ['?', '<'] rest _ _).symm
  · next rest =>
    iterate 4 rw [after_eq_right (by simp)]
    exact (after_append ['?', '='] rest (give none) _).symm
  · next rest =>
    iterate 5 rw [after_eq_right (by simp)]
    exact (after_append ['?', '!'] rest (give none) _).symm
  · next rest hp hbehind hnotBehind hangle hahead hnotAhead =>
    rw [after_cons_of_forall_ne _ hp, after_cons_of_forall_ne _ hbehind,
      after_cons_of_forall_ne _ hnotBehind, after_cons_of_forall_ne _ hangle,
      after_cons_of_forall_ne _ hahead, after_cons_of_forall_ne _ hnotAhead, after_cons_self]
    exact (switches_eq flags rest).symm
  · next hp hbehind hnotBehind hangle hahead hnotAhead hmark =>
    rw [after_of_forall_ne hp, after_of_forall_ne hbehind, after_of_forall_ne hnotBehind,
      after_of_forall_ne hangle, after_of_forall_ne hahead, after_of_forall_ne hnotAhead,
      after_of_forall_ne hmark]
    rfl

theorem settles_readOpening (flags : Flags) : Settles true Whole (readOpening flags) := by
  have hnamed : (named flags).Settles true Whole :=
    (readName_eq ▸ settled_scan _ _ : Settled readName).mono.andThen fun _ => settles_give _
  have hswitches : (switches flags).Settles true Whole := (settled_scan _ _).mono
  rw [readOpening_eq]
  refine (settles_blanks flags).andThen fun _ => ?_
  exact .after (by decide) hnamed (.after (by decide) (settles_give _)
    (.after (by decide) (settles_give _) (.after (by decide) hnamed
      (.after (by decide) (settles_give _) (.after (by decide) (settles_give _)
        (.after (by decide) hswitches (settles_give _)))))))

/-! ### The next piece of a pattern -/

/-- A question mark that changes what is preferred. -/
def preference : Piece Unit := after ['?'] (give (some ())) (give (some ()))

theorem preference_eq (cs : List Char) : preference cs = some ((), skipLazy cs) := by
  unfold skipLazy
  split
  · next rest => exact after_append ['?'] rest _ _
  · next hne => exact after_of_forall_ne hne _ _

theorem settled_preference : preference.Settled :=
  .after (by decide) (settles_give _) (settles_give _)

/-- What follows a sign of repetition, which gives the state. -/
def repetition (next : Option State) : Piece State :=
  (give next).andThen fun s => preference.andThen fun _ => give (some s)

theorem repetition_eq (next : Option State) (cs : List Char) :
    repetition next cs = next.bind fun s => some (s, skipLazy cs) := by
  cases next with
  | none => rfl
  | some s => simp [repetition, give, Piece.andThen, preference_eq]

theorem settled_repetition (next : Option State) : (repetition next).Settled :=
  (settled_give _).andThen fun _ => settled_preference.andThen fun _ => settles_give _

/-- The state behind what an opening parenthesis starts. -/
def State.opens? (s : State) : Opening → Option State
  | .flags flags => some { s with flags, items := .switch :: s.items }
  | .group none flags =>
    some ⟨flags, [], [], ⟨s.items, s.branches, s.flags⟩ :: s.frames, s.names⟩
  | .group (some n) flags =>
    if s.names.contains n then none
    else some ⟨flags, [], [], ⟨s.items, s.branches, s.flags⟩ :: s.frames, n :: s.names⟩

/-- The state behind a closing parenthesis. -/
def State.closes? (s : State) : Option State :=
  match s.frames with
  | [] => none
  | f :: frames =>
    some ⟨f.flags, .expr s.body (s.depth + 1) :: f.items, f.branches, frames, s.names⟩

section

variable [Text.Properties] (s : State)

theorem step_open : step s '(' =
    Piece.andThen (readOpening s.flags) fun opening => give (s.opens? opening) := by
  funext cs
  rw [step, Piece.andThen]
  refine congrArg _ (funext fun p => ?_)
  obtain ⟨opening, rest⟩ := p
  cases opening with
  | flags flags => rfl
  | group name flags =>
    cases name with
    | none => rfl
    | some n =>
      rw [State.opens?]
      dsimp only
      split <;> rfl

theorem step_close : step s ')' = give s.closes? := by
  funext cs
  rw [step, State.closes?]
  cases s.frames <;> rfl

theorem step_set : step s '[' =
    (set s.flags).andThen fun p => give (some (s.push (.chars p.1) p.2)) := rfl

theorem step_optional : step s '?' = repetition (s.repeatLast 0 (some 1)) :=
  funext fun cs => (repetition_eq _ cs).symm

theorem step_star : step s '*' = repetition (s.repeatLast 0 none) :=
  funext fun cs => (repetition_eq _ cs).symm

theorem step_plus : step s '+' = repetition (s.repeatLast 1 none) :=
  funext fun cs => (repetition_eq _ cs).symm

theorem step_count : step s '\x7b' = (count s.flags).andThen fun p =>
    (give (s.repeatLast p.1 p.2)).andThen fun s' =>
      (blanks s.flags).andThen fun _ => preference.andThen fun _ => give (some s') := by
  funext cs
  rw [step, readCount_eq, Piece.andThen]
  cases count s.flags cs with
  | none => rfl
  | some p =>
    simp only [Option.map_some, Option.bind_some, Option.bind_eq_bind]
    cases s.repeatLast p.1.1 p.1.2 with
    | none => rfl
    | some s' => simp [give, Piece.andThen, blanks, preference_eq]

theorem step_escape : step s '\\' = fun cs =>
    (readEscape s.flags cs).map fun p => (s.push (p.1.expr s.flags) 0, p.2) := by
  funext cs
  rw [step]
  cases readEscape s.flags cs <;> rfl

/-- Every other character is a piece of its own. -/
theorem step_eq_give {c : Char} (hc : c ∉ ['(', ')', '[', '?', '*', '+', '\x7b', '\\']) :
    step s c = give ((step s c []).map (·.1)) := by
  funext cs
  unfold step
  split
  all_goals first | rfl | exact absurd (by decide) hc | skip
  cases dotExpr? s.flags <;> rfl

/-- What is read in one piece is settled before a closing parenthesis, but white space and comments
at its end may hide the parenthesis. -/
theorem settles_step_of_ne {c : Char} (h : c ≠ '\\') : Settles true Whole (step s c) := by
  by_cases hc : c ∈ ['(', ')', '[', '?', '*', '+', '\x7b', '\\']
  · simp only [List.mem_cons, List.not_mem_nil, or_false] at hc
    rcases hc with rfl | rfl | rfl | rfl | rfl | rfl | rfl | rfl
    · rw [step_open]
      exact (settles_readOpening _).andThen fun _ => settles_give _
    · rw [step_close]
      exact settles_give _
    · rw [step_set]
      exact (settled_set _).mono.andThen fun _ => settles_give _
    · exact step_optional s ▸ (settled_repetition _).mono
    · exact step_star s ▸ (settled_repetition _).mono
    · exact step_plus s ▸ (settled_repetition _).mono
    · rw [step_count]
      refine (settled_count _).mono.andThen fun p => (settles_give _).andThen fun _ => ?_
      exact (settles_blanks _).andThen fun _ => settled_preference.mono.andThen fun _ =>
        settles_give _
    · exact absurd rfl h
  · exact step_eq_give s hc ▸ settles_give _

/-- An escape may be a word boundary, which looks at an opening brace. -/
theorem settles_step (c : Char) : Settles true (Hangs s.flags '\x7b') (step s c) := by
  by_cases hc : c = '\\'
  · subst hc
    rw [step_escape]
    have hatom := settles_readEscape s.flags
    exact (hatom.map fun atom => s.push (atom.expr s.flags) 0).weaken
  · exact (settles_step_of_ne s hc).uncut

theorem flags_of_step_escape {s : State} {cs : List Char} {p : State × List Char}
    (h : step s '\\' cs = some p) : p.1.flags = s.flags := by
  rw [step_escape] at h
  obtain ⟨q, -, rfl⟩ := Option.map_eq_some_iff.mp h
  rfl

/-- A count needs digits. -/
theorem step_count_of_nil {s : State} {cs : List Char} (h : skip s.flags cs = []) :
    step s '\x7b' cs = none := by
  rw [step_count, Piece.andThen, count, blanks_andThen, h]
  rfl

end

end CommandGrammar.PatternReader
