import CommandGrammar.Proofs.Reading.Lookahead

/-! Escapes in front of a closing parenthesis. An escape is read to its last character and no
further, with one exception: behind a word boundary an opening brace may start a name, which is
decided by the first character in the braces. -/

namespace CommandGrammar.PatternReader

open Piece

/-! ### Escapes -/

theorem readHexDigits_nil (flags : Flags) (n value : Nat) :
    readHexDigits flags (n + 1) value [] = none := by
  rw [readHexDigits, skip_nil]

theorem settled_readHexDigits (flags : Flags) (n value : Nat) :
    Settled (readHexDigits flags n value) := by
  induction n generalizing value with
  | zero => exact settles_give (some value)
  | succ n ih =>
    have heq : readHexDigits flags (n + 1) value = (next flags).andThen fun c =>
        (give (hexValue? c)).andThen fun digit => readHexDigits flags n (16 * value + digit) := by
      funext cs
      rw [readHexDigits]
      simp only [next, blanks, Piece.andThen, Option.bind_some]
      cases skip flags cs with
      | nil => rfl
      | cons c m => cases h : hexValue? c <;> simp [Piece.char, give, h]
    rw [heq]
    exact (settles_next flags).andThen fun c => (settles_give _).andThen fun digit => ih _

/-- What a character does to the text in braces that is read. -/
def goBraced (flags : Flags) : Bool × List Char → Char → (Bool × List Char) ⊕ Option (List Char)
  | (true, read), c => .inl (c != '\n', read)
  | (false, read), c =>
    if c == '\x7d' then .inr (some read)
    else if flags.spaced && Text.isBlank c then .inl (false, read)
    else if flags.spaced && c == '#' then .inl (true, read)
    else .inl (false, read ++ [c])

theorem readBraced_eq (flags : Flags) (inside : Bool) (read : List Char) :
    readBraced flags inside read = scan (goBraced flags) (inside, read) := by
  funext cs
  induction cs generalizing inside read with
  | nil => cases inside <;> rfl
  | cons c cs ih =>
    rw [scan_cons]
    cases inside with
    | true => exact ih _ _
    | false =>
      rw [readBraced, goBraced]
      simp only [ih]
      split_ifs <;> rfl

theorem settled_readBraced (flags : Flags) (inside : Bool) (read : List Char) :
    Settled (readBraced flags inside read) :=
  readBraced_eq flags inside read ▸ settled_scan _ _

theorem settled_readCode (flags : Flags) (n : Nat) : Settled (readCode flags (n + 1)) := by
  have heq : readCode flags (n + 1) = (blanks flags).andThen fun _ =>
      after ['\x7b']
        (Piece.andThen (readBraced flags false []) fun code =>
          give ((hexNumber? code).bind charOfCode?))
        (Piece.andThen (readHexDigits flags (n + 1) 0) fun code =>
          give (charOfDigits? flags (n + 1) code)) := by
    funext cs
    unfold readCode
    simp only [blanks, Piece.andThen, Option.bind_some]
    cases skip flags cs with
    | nil => rw [after_nil, Piece.andThen, readHexDigits_nil]; rfl
    | cons c m =>
      by_cases hc : c = '\x7b'
      · subst hc
        rw [after_cons_self]
        simp [Piece.andThen, give_eq_bind, Option.bind_assoc]
      · rw [after_cons_of_ne hc]
        split
        · next h => cases h
        · next h => exact absurd (List.cons.inj h).1 hc
        · simp [Piece.andThen, give_eq_bind]
  rw [heq]
  refine (settles_blanks flags).andThen_of_nil (fun _ => ?_) fun _ => ?_
  · exact .after (by decide) ((settled_readBraced _ _ _).andThen fun _ => settles_give _)
      ((settled_readHexDigits _ _ _).andThen fun _ => settles_give _)
  · rw [after_nil, Piece.andThen, readHexDigits_nil]
    rfl

section

variable [Text.Properties]

theorem settled_readProperty (flags : Flags) (negated : Bool) :
    Settled (readProperty flags negated) := by
  have heq : readProperty flags negated = (blanks flags).andThen fun _ =>
      after ['\x7b'] (Piece.andThen (readBraced flags false []) fun name =>
          give (propertyClass? flags negated name))
        (after ['\\'] (give none)
          (char.andThen fun c => give (propertyClass? flags negated [c]))) := by
    funext cs
    unfold readProperty
    simp only [blanks, Piece.andThen, Option.bind_some]
    cases skip flags cs with
    | nil => rfl
    | cons c m =>
      by_cases hc : c = '\x7b'
      · subst hc
        rw [after_cons_self]
        simp [Piece.andThen, give_eq_bind]
      · rw [after_cons_of_ne hc]
        by_cases hb : c = '\\'
        · subst hb
          rw [after_cons_self]
          rfl
        · rw [after_cons_of_ne hb]
          split
          · next h => cases h
          · next h => exact absurd (List.cons.inj h).1 hc
          · next h => exact absurd (List.cons.inj h).1 hb
          · next h =>
            cases h
            simp [Piece.andThen, Piece.char, give_eq_bind]
  rw [heq]
  refine (settles_blanks flags).andThen_of_nil (fun _ => ?_) fun _ => rfl
  exact .after (by decide) ((settled_readBraced _ _ _).andThen fun _ => settles_give _)
    (.after (by decide) (settles_give _) (settles_char.andThen fun _ => settles_give _))

/-- An escape that is one character long is settled with it. -/
theorem readEscape_eq_give (flags : Flags) {c : Char} (hc : c ∉ ['x', 'u', 'U', 'p', 'P', 'b'])
    (cs : List Char) :
    readEscape flags (c :: cs) = give ((readEscape flags [c]).map (·.1)) cs := by
  unfold readEscape
  dsimp only
  split
  all_goals first | rfl | exact absurd (by decide) hc | skip
  split
  · rfl
  · split
    · rfl
    · next cls _ _ => cases negate flags true cls <;> rfl
    · rfl

/-- Every escape but that of a word boundary is settled. -/
theorem settled_readEscape {flags : Flags} {c : Char} (hc : c ≠ 'b') :
    Settled fun cs => readEscape flags (c :: cs) := by
  have hcode (n : Nat) := (settled_readCode flags n).map Atom.literal
  have hproperty (negated : Bool) := (settled_readProperty flags negated).map Atom.cls
  by_cases hmany : c ∈ ['x', 'u', 'U', 'p', 'P', 'b']
  · simp only [List.mem_cons, List.not_mem_nil, or_false] at hmany
    rcases hmany with rfl | rfl | rfl | rfl | rfl | rfl
    · exact hcode 1
    · exact hcode 3
    · exact hcode 7
    · exact hproperty false
    · exact hproperty true
    · exact absurd rfl hc
  · have heq := funext (readEscape_eq_give flags hmany)
    exact heq ▸ settles_give _

end

/-! ### Word boundaries -/

/-- The word boundary with a name. -/
def boundaryNamed? (ascii : Bool) : String → Option Boundary
  | "start" => some (.wordStart ascii)
  | "end" => some (.wordEnd ascii)
  | "start-half" => some (.wordStartHalf ascii)
  | "end-half" => some (.wordEndHalf ascii)
  | _ => none

/-- The name of a word boundary, behind the opening brace. -/
def namedBoundary (flags : Flags) : Piece Boundary :=
  Piece.andThen (readBraced flags false []) fun name =>
    give (boundaryNamed? (!flags.unicode) (String.ofList name))

theorem settled_namedBoundary (flags : Flags) : (namedBoundary flags).Settled :=
  (settled_readBraced _ _ _).andThen fun _ => settles_give _

theorem readWordBoundary_eq (flags : Flags) : readWordBoundary flags =
    ahead flags '\x7b' (fun c => c.isAlpha || c == '-') (namedBoundary flags)
      (some (.word (!flags.unicode))) := by
  funext cs
  unfold readWordBoundary
  split
  · next rest =>
    cases hskip : skip flags rest with
    | nil => exact (ahead_of_nil hskip).symm
    | cons c more =>
      rw [ahead_of_cons hskip]
      dsimp only
      split
      · rw [namedBoundary, Piece.andThen]
        cases readBraced flags false [] (c :: more) with
        | none => rfl
        | some p =>
          simp only [Option.bind_some, Option.bind_eq_bind]
          generalize String.ofList p.1 = name
          split
          · rfl
          · rfl
          · rfl
          · rfl
          · next hstart hend hstartHalf hendHalf =>
            rw [boundaryNamed?.eq_5 _ _ hstart hend hstartHalf hendHalf]
            rfl
      · rfl
  · next hbrace =>
    cases cs with
    | nil => rfl
    | cons c cs =>
      have hne : c ≠ '\x7b' := by
        rintro rfl
        exact hbrace cs rfl
      refine Eq.trans ?_ (ahead_of_ne hne).symm
      rfl

/-- What stands behind a word boundary is looked at only if it is an opening brace, and then it is
the first character in the braces. -/
theorem settles_readWordBoundary (flags : Flags) :
    Settles false (Hangs flags '\x7b') (readWordBoundary flags) := by
  rw [readWordBoundary_eq]
  refine settles_ahead (by decide) (settled_namedBoundary flags) ?_
    fun blank hblank => ⟨blank, rfl, hblank⟩
  intro d cs rest x h
  obtain ⟨name, m, hname, hend⟩ := andThen_eq_some.mp h
  rw [readBraced_eq] at hname
  exact ((settled_give _).suffix hend).trans (scan_suffix _ hname)

/-- Every escape is settled, but that of a word boundary may look ahead. -/
theorem settles_readEscape [Text.Properties] (flags : Flags) :
    Settles false (Hangs flags '\x7b') (readEscape flags) := by
  refine .of_cons rfl fun c => ?_
  by_cases hc : c = 'b'
  · subst hc
    exact (settles_readWordBoundary flags).map Atom.boundary
  · exact (settled_readEscape hc).mono

end CommandGrammar.PatternReader
