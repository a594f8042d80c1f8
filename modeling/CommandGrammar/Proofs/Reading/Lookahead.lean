import CommandGrammar.Pattern
import Mathlib.Data.List.Infix

/-! How far a reader looks ahead. The reader of patterns reads piece by piece, and what it reads
should not depend on what follows: a pattern is held in a group, whose closing parenthesis is put
behind it. A piece is settled if it reads the same in front of a closing parenthesis as at the end
of the text. The pieces that pieces are put together from are settled, and putting them together
keeps it so. -/

namespace CommandGrammar.PatternReader

variable {α β : Type}

/-! ### White space and comments -/

theorem skipComments_suffix (inside : Bool) (cs : List Char) : skipComments inside cs <:+ cs := by
  induction cs generalizing inside with
  | nil => exact List.suffix_rfl
  | cons c cs ih =>
    cases inside with
    | true => exact (ih _).trans (List.suffix_cons c cs)
    | false =>
      rw [skipComments]
      split
      · exact (ih _).trans (List.suffix_cons c cs)
      · split
        · exact (ih _).trans (List.suffix_cons c cs)
        · exact List.suffix_rfl

/-- What is found behind white space and comments is found there whatever follows. -/
theorem skipComments_append_of_cons {inside : Bool} {cs m : List Char} {c : Char}
    (h : skipComments inside cs = c :: m) (more : List Char) :
    skipComments inside (cs ++ more) = c :: (m ++ more) := by
  induction cs generalizing inside with
  | nil => cases h
  | cons d cs ih =>
    cases inside with
    | true => exact ih h
    | false =>
      rw [skipComments] at h
      rw [List.cons_append, skipComments]
      split at h
      · next hd =>
        rw [if_pos hd]
        exact ih h
      · next hd =>
        rw [if_neg hd]
        split at h
        · next hd =>
          rw [if_pos hd]
          exact ih h
        · next hd =>
          cases h
          rw [if_neg hd]

/-- White space and comments at the end leave the reader inside a comment or not. -/
theorem skipComments_append_of_nil {inside : Bool} {cs : List Char}
    (h : skipComments inside cs = []) :
    ∃ left, ∀ more, skipComments inside (cs ++ more) = skipComments left more := by
  induction cs generalizing inside with
  | nil => exact ⟨inside, fun _ => rfl⟩
  | cons d cs ih =>
    cases inside with
    | true => exact ih h
    | false =>
      rw [skipComments] at h
      simp only [List.cons_append, skipComments]
      split at h
      · next hd =>
        simp only [if_pos hd]
        exact ih h
      · next hd =>
        split at h
        · next hd' =>
          simp only [if_neg hd, if_pos hd']
          exact ih h
        · cases h

/-- A comment goes on to the end of the line. -/
theorem skipComments_true {cs : List Char} (h : '\n' ∉ cs) : skipComments true cs = [] := by
  induction cs with
  | nil => rfl
  | cons c cs ih =>
    have hne : (c != '\n') = true := bne_iff_ne.mpr fun heq => h (heq ▸ List.mem_cons_self)
    rw [skipComments, hne, ih fun hmem => h (List.mem_cons_of_mem c hmem)]

theorem skip_suffix (flags : Flags) (cs : List Char) : skip flags cs <:+ cs := by
  unfold skip
  split
  · exact skipComments_suffix _ _
  · exact List.suffix_rfl

theorem skip_nil (flags : Flags) : skip flags [] = [] := List.suffix_nil.mp (skip_suffix flags [])

theorem skip_cons {c : Char} (hblank : Text.isBlank c = false) (hhash : c ≠ '#') (flags : Flags)
    (cs : List Char) : skip flags (c :: cs) = c :: cs := by
  unfold skip
  split
  · simp [skipComments, hblank, hhash]
  · rfl

theorem skip_closing (flags : Flags) (t : List Char) : skip flags (')' :: t) = ')' :: t :=
  skip_cons (by decide) (by decide) flags t

theorem skip_append_of_cons {flags : Flags} {cs m : List Char} {c : Char}
    (h : skip flags cs = c :: m) (more : List Char) :
    skip flags (cs ++ more) = c :: (m ++ more) := by
  unfold skip at h ⊢
  split at h
  · next hs =>
    rw [if_pos hs]
    exact skipComments_append_of_cons h more
  · next hs =>
    rw [if_neg hs, h]
    rfl

/-- What ends in white space and comments is skipped, and so is what follows if it still belongs to
a comment. -/
theorem skip_append_of_nil {flags : Flags} {cs : List Char} (h : skip flags cs = []) :
    (∀ more, skip flags (cs ++ more) = skip flags more) ∨
      ∀ t, skip flags (cs ++ ')' :: t) = skipComments true t := by
  unfold skip at h ⊢
  split at h
  · next hs =>
    obtain ⟨left, hleft⟩ := skipComments_append_of_nil h
    cases left with
    | true => exact .inr fun t => by rw [if_pos hs, hleft]; rfl
    | false => exact .inl fun more => by rw [if_pos hs, if_pos hs, hleft]
  · next hs =>
    subst h
    exact .inl fun more => rfl

/-- What is found beyond the end of a text is the parenthesis behind it, or comes later. -/
theorem skip_append_closing {flags : Flags} {cs t more : List Char} {c : Char}
    (h : skip flags cs = []) (hmore : skip flags (cs ++ ')' :: t) = c :: more) :
    c = ')' ∧ more = t ∨ c :: more <:+ t := by
  rcases skip_append_of_nil h with hskip | hopen
  · rw [hskip, skip_closing] at hmore
    obtain ⟨rfl, rfl⟩ := List.cons.inj hmore
    exact .inl ⟨rfl, rfl⟩
  · rw [← hmore, hopen]
    exact .inr (skipComments_suffix true t)

/-- The text is the character with only white space and comments behind it. -/
def Hangs (flags : Flags) (c : Char) (rest : List Char) : Prop :=
  ∃ blank, rest = c :: blank ∧ skip flags blank = []

/-! ### Pieces -/

/-- Reads a piece at the start of a text, and gives what is left of the text. -/
abbrev Piece (α : Type) := List Char → Option (α × List Char)

namespace Piece

/-- A piece, and a piece behind it. -/
def andThen (f : Piece α) (g : α → Piece β) : Piece β := fun cs => (f cs).bind fun p => g p.1 p.2

/-- Reads nothing, and gives a result if there is one. -/
def give (result : Option α) : Piece α := fun cs => result.map (·, cs)

theorem give_eq_some {result : Option α} {cs : List Char} {x : α} {rest : List Char} :
    give result cs = some (x, rest) ↔ result = some x ∧ cs = rest := by
  simp [give]

theorem give_eq_bind (result : Option α) (cs : List Char) :
    give result cs = result.bind fun x => some (x, cs) := Option.map_eq_bind

/-- One character. -/
def char : Piece Char
  | [] => none
  | c :: cs => some (c, cs)

/-- White space and comments. -/
def blanks (flags : Flags) : Piece Unit := fun cs => some ((), skip flags cs)

/-- The next character that means something. -/
def next (flags : Flags) : Piece Char := (blanks flags).andThen fun _ => char

/-- The piece ends in a comment that goes on behind a parenthesis. -/
structure Hides (f : Piece α) (cs : List Char) (x : α) : Prop where
  eq {t : List Char} : '\n' ∉ t → f (cs ++ ')' :: t) = some (x, [])
  suffix {t : List Char} {y : α} {rest : List Char} :
    f (cs ++ ')' :: t) = some (y, rest) → rest <:+ t

/-- What the piece reads at the end of a text, it also reads in front of a parenthesis, unless it
hides the parenthesis in a comment. -/
abbrev Longer (trailing : Bool) (f : Piece α) (cs : List Char) (x : α) (rest : List Char) : Prop :=
  (∀ t, f (cs ++ ')' :: t) = some (x, rest ++ ')' :: t)) ∨
    trailing = true ∧ rest = [] ∧ f.Hides cs x

theorem Longer.congr {trailing : Bool} {f f' : Piece α} {cs cs' : List Char} {x : α}
    {rest : List Char} (h : Longer trailing f cs x rest)
    (heq : ∀ t, f' (cs' ++ ')' :: t) = f (cs ++ ')' :: t)) : Longer trailing f' cs' x rest := by
  rcases h with h | ⟨htrailing, hrest, hhides⟩
  · exact .inl fun t => (heq t).trans (h t)
  · refine .inr ⟨htrailing, hrest, fun ht => (heq _).trans (hhides.eq ht), fun hy => ?_⟩
    exact hhides.suffix ((heq _).symm.trans hy)

/-- What the piece reads is settled before a closing parenthesis: it can be read in front of the
parenthesis exactly if it can be read where nothing follows. There are two exceptions. A trailing
piece may at the end of the text leave the reader inside a comment, which then goes on behind the
parenthesis. And a piece may look further ahead than it reads, so that what is left may be cut off
where it has to be looked at. -/
structure Settles (trailing : Bool) (cut : List Char → Prop) (f : Piece α) : Prop where
  suffix {cs : List Char} {x : α} {rest : List Char} : f cs = some (x, rest) → rest <:+ cs
  longer {cs : List Char} {x : α} {rest : List Char} : f cs = some (x, rest) →
    Longer trailing f cs x rest
  shorter {cs : List Char} {x : α} {rest t : List Char} :
    f (cs ++ ')' :: t) = some (x, rest ++ ')' :: t) → f cs = some (x, rest) ∨ cut rest

/-- Nothing is cut off. -/
def Whole (_ : List Char) : Prop := False

/-- The piece is settled without exception. -/
abbrev Settled (f : Piece α) : Prop := f.Settles false Whole

theorem andThen_eq_some {f : Piece α} {g : α → Piece β} {cs rest : List Char} {y : β} :
    f.andThen g cs = some (y, rest) ↔ ∃ x m, f cs = some (x, m) ∧ g x m = some (y, rest) := by
  simp [andThen, Option.bind_eq_some_iff]

theorem blanks_andThen (flags : Flags) (g : Unit → Piece α) (cs : List Char) :
    (blanks flags).andThen g cs = g () (skip flags cs) := rfl

theorem andThen_congr {f f' : Piece α} {g g' : α → Piece β} {cs : List Char} (hf : f cs = f' cs)
    (hg : ∀ x m, f' cs = some (x, m) → g x m = g' x m) : f.andThen g cs = f'.andThen g' cs := by
  unfold andThen
  rw [hf]
  cases hx : f' cs with
  | none => rfl
  | some p => exact hg p.1 p.2 hx

/-- What is left behind a piece in front of a parenthesis ends with the parenthesis if what is left
later does. -/
theorem exists_append_of_suffix {cs m rest last : List Char} (hm : m <:+ cs ++ last)
    (hrest : rest ++ last <:+ m) : ∃ m', m = m' ++ last := by
  obtain ⟨front, rfl⟩ := (List.suffix_append rest last).trans hrest
  exact ⟨front, rfl⟩

/-- No text is its own end with something in front. -/
theorem not_append_closing_suffix {rest t : List Char} : ¬rest ++ ')' :: t <:+ t := by
  intro h
  have hle := h.length_le
  rw [List.length_append, List.length_cons] at hle
  omega

namespace Settles

variable {trailing : Bool} {cut cut' : List Char → Prop} {f : Piece α} {g : α → Piece β}

theorem longer_of_false (h : f.Settles false cut) {cs : List Char} {x : α} {rest : List Char}
    (hx : f cs = some (x, rest)) (t : List Char) :
    f (cs ++ ')' :: t) = some (x, rest ++ ')' :: t) := by
  rcases h.longer hx with hlonger | ⟨hfalse, -⟩
  · exact hlonger t
  · cases hfalse

theorem shorter_of_settled (h : f.Settled) {cs : List Char} {x : α} {rest t : List Char}
    (hx : f (cs ++ ')' :: t) = some (x, rest ++ ')' :: t)) : f cs = some (x, rest) :=
  (h.shorter hx).resolve_right id

theorem weaken (h : f.Settles false cut) : f.Settles trailing cut where
  suffix := h.suffix
  longer hx := .inl fun t => h.longer_of_false hx t
  shorter := h.shorter

theorem uncut (h : f.Settles trailing Whole) : f.Settles trailing cut where
  suffix := h.suffix
  longer := h.longer
  shorter hx := .inl ((h.shorter hx).resolve_right id)

/-- What is read in front of a parenthesis is read in front of any other text as well. -/
theorem exchange (h : f.Settles trailing cut) {cs : List Char} {x : α} {rest t : List Char}
    (hx : f (cs ++ ')' :: t) = some (x, rest ++ ')' :: t)) :
    f cs = some (x, rest) ∧ (∀ t, f (cs ++ ')' :: t) = some (x, rest ++ ')' :: t)) ∨
      cut rest := by
  refine (h.shorter hx).imp_left fun hshort => ⟨hshort, ?_⟩
  rcases h.longer hshort with hlonger | ⟨-, -, hhides⟩
  · exact hlonger
  · exact absurd (hhides.suffix hx) not_append_closing_suffix

theorem mono (h : f.Settled) : f.Settles trailing cut := h.uncut.weaken

theorem map (h : f.Settles trailing cut) (k : α → β) :
    Settles trailing cut fun cs => (f cs).map fun p => (k p.1, p.2) where
  suffix hx := by
    obtain ⟨p, hp, heq⟩ := Option.map_eq_some_iff.mp hx
    cases heq
    exact h.suffix hp
  longer hx := by
    obtain ⟨p, hp, heq⟩ := Option.map_eq_some_iff.mp hx
    cases heq
    rcases h.longer hp with hlonger | ⟨htrailing, hrest, hhides⟩
    · exact .inl fun t => congrArg (Option.map _) (hlonger t)
    · refine .inr ⟨htrailing, hrest, fun ht => congrArg (Option.map _) (hhides.eq ht), ?_⟩
      intro t y rest hy
      obtain ⟨q, hq, heq⟩ := Option.map_eq_some_iff.mp hy
      cases heq
      exact hhides.suffix hq
  shorter hx := by
    obtain ⟨⟨x, m⟩, hp, heq⟩ := Option.map_eq_some_iff.mp hx
    cases heq
    refine (h.shorter hp).imp_left fun hp => ?_
    rw [hp]
    rfl

/-- Two pieces, of which the second cannot be read where the first would be cut off. -/
theorem andThen_of_not_cut (hf : f.Settles trailing cut') (hg : ∀ x, (g x).Settles trailing cut)
    (hcut : ∀ x m p, g x m = some p → ¬cut' m) : (f.andThen g).Settles trailing cut where
  suffix h := by
    obtain ⟨x, m, hx, hy⟩ := andThen_eq_some.mp h
    exact ((hg x).suffix hy).trans (hf.suffix hx)
  longer {cs y rest} h := by
    obtain ⟨x, m, hx, hy⟩ := andThen_eq_some.mp h
    rcases hf.longer hx with hlonger | ⟨rfl, rfl, hhides⟩
    · rcases (hg x).longer hy with hlonger' | ⟨rfl, rfl, hhides⟩
      · exact .inl fun t => andThen_eq_some.mpr ⟨x, _, hlonger t, hlonger' t⟩
      · refine .inr ⟨rfl, rfl, fun ht => ?_, fun {t} _ _ hz => ?_⟩
        · exact andThen_eq_some.mpr ⟨x, _, hlonger _, hhides.eq ht⟩
        · obtain ⟨x', m', hx', hz⟩ := andThen_eq_some.mp hz
          obtain ⟨rfl, rfl⟩ := Prod.mk.inj (Option.some.inj ((hlonger t).symm.trans hx'))
          exact hhides.suffix hz
    · -- the first piece ends in a comment, which the second one is left inside of
      obtain rfl := List.suffix_nil.mp ((hg x).suffix hy)
      refine .inr ⟨rfl, rfl, fun ht => andThen_eq_some.mpr ⟨x, _, hhides.eq ht, hy⟩, fun hz => ?_⟩
      obtain ⟨x', m', hx', hz⟩ := andThen_eq_some.mp hz
      exact ((hg x').suffix hz).trans (hhides.suffix hx')
  shorter {cs y rest t} h := by
    obtain ⟨x, m, hx, hy⟩ := andThen_eq_some.mp h
    obtain ⟨m, rfl⟩ := exists_append_of_suffix (hf.suffix hx) ((hg x).suffix hy)
    refine ((hg x).shorter hy).imp_left fun hy => ?_
    exact andThen_eq_some.mpr ⟨x, m, (hf.shorter hx).resolve_right (hcut x m _ hy), hy⟩

theorem andThen (hf : f.Settles trailing Whole) (hg : ∀ x, (g x).Settles trailing cut) :
    (f.andThen g).Settles trailing cut := hf.andThen_of_not_cut hg fun _ _ _ _ => id

/-- If something has to follow the first piece, it does not end in a comment. -/
theorem andThen_of_nil (hf : f.Settles true Whole) (hg : ∀ x, (g x).Settles false cut)
    (hnil : ∀ x, g x [] = none) : (f.andThen g).Settles false cut where
  suffix h := by
    obtain ⟨x, m, hx, hy⟩ := andThen_eq_some.mp h
    exact ((hg x).suffix hy).trans (hf.suffix hx)
  longer {cs y rest} h := by
    obtain ⟨x, m, hx, hy⟩ := andThen_eq_some.mp h
    rcases hf.longer hx with hlonger | ⟨-, rfl, -⟩
    · exact .inl fun t =>
        andThen_eq_some.mpr ⟨x, _, hlonger t, (hg x).longer_of_false hy t⟩
    · cases (hnil x).symm.trans hy
  shorter {cs y rest t} h := by
    obtain ⟨x, m, hx, hy⟩ := andThen_eq_some.mp h
    obtain ⟨m, rfl⟩ := exists_append_of_suffix (hf.suffix hx) ((hg x).suffix hy)
    refine ((hg x).shorter hy).imp_left fun hy => ?_
    exact andThen_eq_some.mpr ⟨x, m, (hf.shorter hx).resolve_right id, hy⟩

/-- A piece that reads at least one character is settled if it is, whatever the character. -/
theorem of_cons (hnil : f [] = none) (h : ∀ c, Settles trailing cut fun cs => f (c :: cs)) :
    f.Settles trailing cut where
  suffix {cs x rest} hx := by
    cases cs with
    | nil => cases hnil.symm.trans hx
    | cons c cs => exact ((h c).suffix hx).trans (List.suffix_cons c cs)
  longer {cs x rest} hx := by
    cases cs with
    | nil => cases hnil.symm.trans hx
    | cons c cs => exact ((h c).longer hx).congr fun _ => rfl
  shorter {cs x rest t} hx := by
    cases cs with
    | nil => exact absurd ((h ')').suffix hx) not_append_closing_suffix
    | cons c cs => exact (h c).shorter hx

end Settles

/-! ### Small pieces -/

theorem settles_give {trailing : Bool} {cut : List Char → Prop} (result : Option α) :
    (give result).Settles trailing cut where
  suffix h := (give_eq_some.mp h).2 ▸ List.suffix_rfl
  longer h := by
    obtain ⟨rfl, rfl⟩ := give_eq_some.mp h
    exact .inl fun t => rfl
  shorter h := by
    obtain ⟨rfl, hrest⟩ := give_eq_some.mp h
    rw [List.append_cancel_right hrest]
    exact .inl rfl

theorem settled_give (result : Option α) : (give result).Settled := settles_give result

theorem settles_char {trailing : Bool} {cut : List Char → Prop} : char.Settles trailing cut :=
  .of_cons rfl fun c => settles_give (some c)

theorem settles_blanks (flags : Flags) : (blanks flags).Settles true Whole where
  suffix {cs x rest} h := by
    cases h
    exact skip_suffix flags cs
  longer {cs x rest} h := by
    cases h
    cases hcs : skip flags cs with
    | nil =>
      rcases skip_append_of_nil hcs with hskip | hopen
      · refine .inl fun t => ?_
        rw [blanks, hskip, skip_closing]
        rfl
      · refine .inr ⟨rfl, rfl, fun {t} ht => ?_, fun {t} _ _ hy => ?_⟩
        · rw [blanks, hopen, skipComments_true ht]
        · rw [blanks, hopen] at hy
          cases hy
          exact skipComments_suffix true t
    | cons c m =>
      refine .inl fun t => ?_
      rw [blanks, skip_append_of_cons hcs]
      rfl
  shorter {cs x rest t} h := by
    obtain ⟨-, hrest⟩ := Prod.mk.inj (Option.some.inj h)
    refine .inl ?_
    rw [blanks]
    cases hcs : skip flags cs with
    | nil =>
      rcases skip_append_of_nil hcs with hskip | hopen
      · rw [hskip, skip_closing] at hrest
        rw [List.self_eq_append_left.mp hrest]
      · have hsuffix := skipComments_suffix true t
        rw [← hopen, hrest] at hsuffix
        exact absurd hsuffix not_append_closing_suffix
    | cons c m =>
      rw [skip_append_of_cons hcs, ← List.cons_append] at hrest
      rw [List.append_cancel_right hrest]

theorem settles_next {trailing : Bool} {cut : List Char → Prop} (flags : Flags) :
    (next flags).Settles trailing cut :=
  ((settles_blanks flags).andThen_of_nil (fun _ => settles_char) fun _ => rfl).mono

/-! ### Choices -/

/-- One piece behind a text, if the text comes first, and another one if not. -/
def after (front : List Char) (f g : Piece α) : Piece α := fun cs =>
  if front <+: cs then f (cs.drop front.length) else g cs

theorem after_append (front cs : List Char) (f g : Piece α) :
    after front f g (front ++ cs) = f cs := by
  rw [after, if_pos (List.prefix_append _ _), List.drop_left]

theorem after_eq_right {front cs : List Char} (h : ¬front <+: cs) (f g : Piece α) :
    after front f g cs = g cs := if_neg h

theorem after_of_forall_ne {front cs : List Char} (h : ∀ rest, cs = front ++ rest → False)
    (f g : Piece α) : after front f g cs = g cs :=
  after_eq_right (fun ⟨rest, hrest⟩ => h rest hrest.symm) f g

theorem after_cons_of_forall_ne {front cs : List Char} (c : Char)
    (h : ∀ rest, cs = front ++ rest → False) (f g : Piece α) :
    after (c :: front) f g (c :: cs) = g (c :: cs) :=
  after_of_forall_ne (fun rest hrest => h rest (List.cons.inj hrest).2) f g

theorem after_nil (c : Char) (front : List Char) (f g : Piece α) :
    after (c :: front) f g [] = g [] := after_eq_right (by simp) f g

theorem after_cons_self (c : Char) (cs : List Char) (f g : Piece α) :
    after [c] f g (c :: cs) = f cs := after_append [c] cs f g

theorem after_cons_of_ne {c d : Char} (h : d ≠ c) (front cs : List Char) (f g : Piece α) :
    after (c :: front) f g (d :: cs) = g (d :: cs) :=
  after_eq_right (by simp [Ne.symm h]) f g

theorem after_congr {front cs : List Char} {f f' g g' : Piece α}
    (hf : front <+: cs → f (cs.drop front.length) = f' (cs.drop front.length))
    (hg : g cs = g' cs) : after front f g cs = after front f' g' cs := by
  unfold after
  split
  · next hfront => exact hf hfront
  · exact hg

theorem length_drop_lt {front cs : List Char} (h : front <+: cs) (hne : front ≠ []) :
    (cs.drop front.length).length < cs.length := by
  have hle := h.length_le
  have hpos := List.length_pos_iff.mpr hne
  rw [List.length_drop]
  omega

/-- A parenthesis that is not in the text does not make the text come first. -/
theorem prefix_append_closing_iff {front cs t : List Char} (h : ')' ∉ front) :
    front <+: cs ++ ')' :: t ↔ front <+: cs := by
  refine ⟨fun hfront => ?_, fun hfront => hfront.trans (List.prefix_append _ _)⟩
  obtain ⟨rest, hrest⟩ := hfront
  rcases List.append_eq_append_iff.mp hrest with ⟨behind, rfl, -⟩ | ⟨behind, rfl, hbehind⟩
  · exact List.prefix_append _ _
  · cases behind with
    | nil => rw [List.append_nil]
    | cons c behind =>
      obtain ⟨rfl, -⟩ := List.cons.inj hbehind
      exact absurd (List.mem_append_right cs List.mem_cons_self) h

theorem Settles.after {trailing : Bool} {cut : List Char → Prop} {front : List Char}
    (h : ')' ∉ front) {f g : Piece α} (hf : f.Settles trailing cut) (hg : g.Settles trailing cut) :
    (after front f g).Settles trailing cut where
  suffix {cs x rest} hx := by
    by_cases hfront : front <+: cs
    · rw [Piece.after, if_pos hfront] at hx
      exact (hf.suffix hx).trans (List.drop_suffix _ _)
    · rw [after_eq_right hfront] at hx
      exact hg.suffix hx
  longer {cs x rest} hx := by
    by_cases hfront : front <+: cs
    · obtain ⟨cs, rfl⟩ := hfront
      rw [after_append] at hx
      exact (hf.longer hx).congr fun t => by rw [List.append_assoc, after_append]
    · rw [after_eq_right hfront] at hx
      exact (hg.longer hx).congr fun t =>
        after_eq_right (mt (prefix_append_closing_iff h).mp hfront) f g
  shorter {cs x rest t} hx := by
    by_cases hfront : front <+: cs
    · obtain ⟨cs, rfl⟩ := hfront
      rw [List.append_assoc, after_append] at hx
      rw [after_append]
      exact hf.shorter hx
    · rw [after_eq_right (mt (prefix_append_closing_iff h).mp hfront)] at hx
      rw [after_eq_right hfront]
      exact hg.shorter hx

/-- What the piece does is the same in front of a parenthesis as at the end of the text, also where
it cannot be read. -/
structure Exact (f : Piece α) : Prop where
  suffix {cs : List Char} {x : α} {rest : List Char} : f cs = some (x, rest) → rest <:+ cs
  append (cs t : List Char) :
    f (cs ++ ')' :: t) = (f cs).map fun p => (p.1, p.2 ++ ')' :: t)

theorem exact_give (result : Option α) : (give result).Exact where
  suffix := (settled_give result).suffix
  append cs t := by cases result <;> rfl

theorem Exact.after {f g : Piece α} {front : List Char} (h : ')' ∉ front) (hf : f.Exact)
    (hg : g.Exact) : (after front f g).Exact where
  suffix {cs x rest} hx := by
    by_cases hfront : front <+: cs
    · rw [Piece.after, if_pos hfront] at hx
      exact (hf.suffix hx).trans (List.drop_suffix _ _)
    · rw [after_eq_right hfront] at hx
      exact hg.suffix hx
  append cs t := by
    by_cases hfront : front <+: cs
    · obtain ⟨cs, rfl⟩ := hfront
      rw [List.append_assoc, after_append, after_append, hf.append]
    · rw [after_eq_right (mt (prefix_append_closing_iff h).mp hfront),
        after_eq_right hfront, hg.append]

/-- One piece behind another one, and a third one where that cannot be read. -/
def either (f : Piece α) (g : α → Piece β) (h : Piece β) : Piece β := fun cs =>
  match f cs with
  | some (x, rest) => g x rest
  | none => h cs

theorem either_of_some {f : Piece α} {cs rest : List Char} {x : α} (h : f cs = some (x, rest))
    (g : α → Piece β) (other : Piece β) : either f g other cs = g x rest := by
  rw [either, h]

theorem either_of_none {f : Piece α} {cs : List Char} (h : f cs = none) (g : α → Piece β)
    (other : Piece β) : either f g other cs = other cs := by
  rw [either, h]

theorem Exact.either {f : Piece α} {g : α → Piece β} {other : Piece β} (hf : f.Exact)
    (hg : ∀ x, (g x).Settled) (hother : other.Settled) : (either f g other).Settled where
  suffix {cs y rest} hy := by
    cases hx : f cs with
    | some p =>
      rw [either_of_some hx] at hy
      exact ((hg _).suffix hy).trans (hf.suffix hx)
    | none =>
      rw [either_of_none hx] at hy
      exact hother.suffix hy
  longer {cs y rest} hy := by
    refine .inl fun t => ?_
    have hmore := hf.append cs t
    cases hx : f cs with
    | some p =>
      rw [either_of_some hx] at hy
      rw [hx] at hmore
      rw [either_of_some hmore]
      exact (hg _).longer_of_false hy t
    | none =>
      rw [either_of_none hx] at hy
      rw [hx] at hmore
      rw [either_of_none hmore]
      exact hother.longer_of_false hy t
  shorter {cs y rest t} hy := by
    have hmore := hf.append cs t
    cases hx : f cs with
    | some p =>
      rw [hx] at hmore
      rw [either_of_some hmore] at hy
      rw [either_of_some hx]
      exact (hg _).shorter hy
    | none =>
      rw [hx] at hmore
      rw [either_of_none hmore] at hy
      rw [either_of_none hx]
      exact hother.shorter hy

/-! ### Looking ahead -/

/-- Gives what is kept and reads nothing, unless the character comes first: then the next character
behind it that means something decides whether the piece is read from there. -/
def ahead (flags : Flags) (c : Char) (starts : Char → Bool) (f : Piece α) (kept : Option α) :
    Piece α
  | [] => give kept []
  | d :: cs =>
    if d = c then
      match skip flags cs with
      | [] => none
      | e :: more => if starts e then f (e :: more) else give kept (d :: cs)
    else give kept (d :: cs)

section

variable {flags : Flags} {c d : Char} {starts : Char → Bool} {f : Piece α}
  {kept : Option α} {cs more : List Char}

theorem ahead_of_ne (h : d ≠ c) :
    ahead flags c starts f kept (d :: cs) = give kept (d :: cs) := if_neg h

theorem ahead_of_nil (h : skip flags cs = []) :
    ahead flags c starts f kept (c :: cs) = none := by
  rw [ahead, if_pos rfl, h]

theorem ahead_of_cons (h : skip flags cs = d :: more) :
    ahead flags c starts f kept (c :: cs) =
      if starts d then f (d :: more) else give kept (c :: cs) := by
  rw [ahead, if_pos rfl, h]

/-- Looking ahead settles unless only white space and comments are left behind the character: what
is looked at might then stand behind the parenthesis. -/
theorem settles_ahead {cut : List Char → Prop} (hc : c ≠ ')') (hf : f.Settled)
    (hread : ∀ {d : Char} {cs rest : List Char} {x : α}, f (d :: cs) = some (x, rest) → rest <:+ cs)
    (hcut : ∀ blank, skip flags blank = [] → cut (c :: blank)) :
    (ahead flags c starts f kept).Settles false cut where
  suffix {cs x rest} h := by
    cases cs with
    | nil => exact (settled_give _).suffix h
    | cons d cs =>
      by_cases hd : d = c
      · subst hd
        cases hskip : skip flags cs with
        | nil => cases (ahead_of_nil hskip).symm.trans h
        | cons e more =>
          rw [ahead_of_cons hskip] at h
          split at h
          · have hmore : e :: more <:+ cs := hskip ▸ skip_suffix flags cs
            exact ((hf.suffix h).trans hmore).trans (List.suffix_cons _ _)
          · exact (settled_give _).suffix h
      · rw [ahead_of_ne hd] at h
        exact (settled_give _).suffix h
  longer {cs x rest} h := by
    refine .inl fun t => ?_
    cases cs with
    | nil => exact (ahead_of_ne hc.symm).trans ((settled_give _).longer_of_false h t)
    | cons d cs =>
      rw [List.cons_append]
      by_cases hd : d = c
      · subst hd
        cases hskip : skip flags cs with
        | nil => cases (ahead_of_nil hskip).symm.trans h
        | cons e more =>
          rw [ahead_of_cons hskip] at h
          rw [ahead_of_cons (skip_append_of_cons hskip _)]
          split at h
          · next he =>
            rw [if_pos he]
            exact hf.longer_of_false h t
          · next he =>
            rw [if_neg he]
            exact (settled_give _).longer_of_false h t
      · rw [ahead_of_ne hd] at h ⊢
        exact (settled_give _).longer_of_false h t
  shorter {cs x rest t} h := by
    cases cs with
    | nil =>
      have hkept : give kept ([] ++ ')' :: t) = some (x, rest ++ ')' :: t) :=
        (ahead_of_ne hc.symm).symm.trans h
      exact .inl ((settled_give _).shorter_of_settled hkept)
    | cons d cs =>
      rw [List.cons_append] at h
      by_cases hd : d = c
      · subst hd
        cases hskip : skip flags cs with
        | nil =>
          -- what was looked at stands behind the parenthesis, or is the parenthesis
          cases hmore : skip flags (cs ++ ')' :: t) with
          | nil => cases (ahead_of_nil hmore).symm.trans h
          | cons e more =>
            rw [ahead_of_cons hmore] at h
            split at h
            · rcases skip_append_closing hskip hmore with ⟨rfl, rfl⟩ | hmore
              · exact absurd (hread h) not_append_closing_suffix
              · exact absurd ((hf.suffix h).trans hmore) not_append_closing_suffix
            · obtain ⟨-, hrest⟩ := give_eq_some.mp h
              rw [← List.cons_append] at hrest
              exact .inr (List.append_cancel_right hrest ▸ hcut cs hskip)
        | cons e more =>
          rw [ahead_of_cons (skip_append_of_cons hskip _)] at h
          rw [ahead_of_cons hskip]
          split at h
          · next he =>
            rw [if_pos he]
            exact .inl (hf.shorter_of_settled h)
          · next he =>
            rw [if_neg he]
            exact .inl ((settled_give _).shorter_of_settled h)
      · rw [ahead_of_ne hd] at h ⊢
        exact .inl ((settled_give _).shorter_of_settled h)

end

/-! ### Characters up to a last one -/

/-- Reads characters one by one, until one of them gives the result or none. -/
def scan {S : Type} (go : S → Char → S ⊕ Option α) : S → Piece α
  | _, [] => none
  | s, c :: cs =>
    match go s c with
    | .inl s => scan go s cs
    | .inr result => result.map (·, cs)

section

variable {S : Type} (go : S → Char → S ⊕ Option α)

theorem scan_cons (s : S) (c : Char) (cs : List Char) :
    scan go s (c :: cs) = (go s c).elim (scan go · cs) (give · cs) := by
  rw [scan]
  cases go s c <;> rfl

theorem scan_suffix {s : S} {c : Char} {cs : List Char} {x : α} {rest : List Char}
    (h : scan go s (c :: cs) = some (x, rest)) : rest <:+ cs := by
  induction cs generalizing s c with
  | nil =>
    rw [scan_cons] at h
    cases hgo : go s c with
    | inl s' =>
      rw [hgo] at h
      cases h
    | inr result =>
      rw [hgo] at h
      exact (settled_give result).suffix h
  | cons d cs ih =>
    rw [scan_cons] at h
    cases hgo : go s c with
    | inl s' =>
      rw [hgo] at h
      exact (ih h).trans (List.suffix_cons d cs)
    | inr result =>
      rw [hgo] at h
      exact (settled_give result).suffix h

theorem settled_scan (s : S) : (scan go s).Settled where
  suffix {cs x rest} h := by
    cases cs with
    | nil => cases h
    | cons c cs => exact (scan_suffix go h).trans (List.suffix_cons c cs)
  longer {cs x rest} h := by
    refine .inl fun t => ?_
    induction cs generalizing s with
    | nil => cases h
    | cons c cs ih =>
      rw [List.cons_append, scan_cons]
      rw [scan_cons] at h
      cases hgo : go s c with
      | inl s' =>
        rw [hgo] at h
        exact ih s' h
      | inr result =>
        rw [hgo] at h
        exact (settled_give result).longer_of_false h t
  shorter {cs x rest t} h := by
    induction cs generalizing s with
    | nil => exact absurd (scan_suffix go h) not_append_closing_suffix
    | cons c cs ih =>
      rw [List.cons_append, scan_cons] at h
      rw [scan_cons]
      cases hgo : go s c with
      | inl s' =>
        rw [hgo] at h
        exact ih s' h
      | inr result =>
        rw [hgo] at h
        exact (settled_give result).shorter h

end

/-! ### Characters as long as they belong together -/

/-- Reads characters one by one, as long as each of them belongs to those before. -/
def span {S : Type} (go : S → Char → Option S) : S → List Char → S × List Char
  | s, [] => (s, [])
  | s, c :: cs =>
    match go s c with
    | some s => span go s cs
    | none => (s, c :: cs)

/-- What the characters that belong together give. -/
def stretch {S : Type} (go : S → Char → Option S) (result : S → α) (s : S) : Piece α := fun cs =>
  some (result (span go s cs).1, (span go s cs).2)

section

variable {S : Type} {go : S → Char → Option S} {s s' : S} {c : Char}

theorem span_cons_of_some (h : go s c = some s') (cs : List Char) :
    span go s (c :: cs) = span go s' cs := by
  rw [span, h]

theorem span_cons_of_none (h : go s c = none) (cs : List Char) :
    span go s (c :: cs) = (s, c :: cs) := by
  rw [span, h]

theorem stretch_cons_of_some {result : S → α} (h : go s c = some s') (cs : List Char) :
    stretch go result s (c :: cs) = stretch go result s' cs := by
  rw [stretch, stretch, span_cons_of_some h]

theorem stretch_cons_of_none {result : S → α} (h : go s c = none) (cs : List Char) :
    stretch go result s (c :: cs) = some (result s, c :: cs) := by
  rw [stretch, span_cons_of_none h]

theorem span_suffix (go : S → Char → Option S) (s : S) (cs : List Char) :
    (span go s cs).2 <:+ cs := by
  induction cs generalizing s with
  | nil => exact List.suffix_rfl
  | cons c cs ih =>
    cases hgo : go s c with
    | some s' =>
      rw [span_cons_of_some hgo]
      exact (ih s').trans (List.suffix_cons c cs)
    | none => rw [span_cons_of_none hgo]

/-- Nothing but the end of the line leads on from the state. -/
def Stays (go : S → Char → Option S) (s : S) : Prop := ∀ c, c ≠ '\n' → go s c = some s

theorem span_of_stays (h : Stays go s) {cs : List Char} (hcs : '\n' ∉ cs) :
    span go s cs = (s, []) := by
  induction cs with
  | nil => rfl
  | cons c cs ih =>
    rw [span_cons_of_some (h c fun heq => hcs (heq ▸ List.mem_cons_self))]
    exact ih fun hmem => hcs (List.mem_cons_of_mem c hmem)

/-- Characters that belong together are settled, if a parenthesis does not belong to them except in
a comment. -/
theorem settles_stretch (h : ∀ s, go s ')' = none ∨ Stays go s) (result : S → α) (s : S) :
    (stretch go result s).Settles true Whole where
  suffix {cs x rest} hx := by
    cases hx
    exact span_suffix go s cs
  longer {cs x rest} hx := by
    induction cs generalizing s with
    | nil =>
      cases hx
      rcases h s with hclosing | hstays
      · exact .inl fun t => stretch_cons_of_none hclosing t
      · have hmore (t : List Char) : stretch go result s (')' :: t) = stretch go result s t :=
          stretch_cons_of_some (hstays ')' (by decide)) t
        refine .inr ⟨rfl, rfl, fun {t} ht => ?_, fun {t} _ _ hy => ?_⟩
        · rw [List.nil_append, hmore, stretch, span_of_stays hstays ht]
          rfl
        · rw [List.nil_append, hmore] at hy
          cases hy
          exact span_suffix go s t
    | cons c cs ih =>
      cases hgo : go s c with
      | some s' =>
        rw [stretch_cons_of_some hgo] at hx
        exact (ih s' hx).congr fun t => stretch_cons_of_some hgo _
      | none =>
        rw [stretch_cons_of_none hgo] at hx
        cases hx
        exact .inl fun t => stretch_cons_of_none hgo _
  shorter {cs x rest t} hx := by
    refine .inl ?_
    induction cs generalizing s with
    | nil =>
      rcases h s with hclosing | hstays
      · rw [List.nil_append, stretch_cons_of_none hclosing] at hx
        obtain ⟨rfl, hrest⟩ := Prod.mk.inj (Option.some.inj hx)
        rw [List.self_eq_append_left.mp hrest]
        rfl
      · rw [List.nil_append, stretch_cons_of_some (hstays _ (by decide))] at hx
        obtain ⟨-, hrest⟩ := Prod.mk.inj (Option.some.inj hx)
        exact absurd (hrest ▸ span_suffix go s t) not_append_closing_suffix
    | cons c cs ih =>
      rw [List.cons_append] at hx
      cases hgo : go s c with
      | some s' =>
        rw [stretch_cons_of_some hgo] at hx
        rw [stretch_cons_of_some hgo]
        exact ih s' hx
      | none =>
        rw [stretch_cons_of_none hgo, ← List.cons_append] at hx
        obtain ⟨rfl, hrest⟩ := Prod.mk.inj (Option.some.inj hx)
        rw [stretch_cons_of_none hgo, List.append_cancel_right hrest]

/-- What a character does where white space and comments may come between those that belong
together. -/
def goSpaced (flags : Flags) (go : S → Char → Option S) : Bool × S → Char → Option (Bool × S)
  | (true, s), c => some (c != '\n', s)
  | (false, s), c =>
    match go s c with
    | some s => some (false, s)
    | none =>
      if flags.spaced && Text.isBlank c then some (false, s)
      else if flags.spaced && c == '#' then some (true, s)
      else none

/-- Characters that belong together, with white space and comments between them. -/
def spaced (flags : Flags) (go : S → Char → Option S) (s : S) : Piece S :=
  stretch (goSpaced flags go) Prod.snd (false, s)

theorem goSpaced_of_some {flags : Flags} (h : go s c = some s') :
    goSpaced flags go (false, s) c = some (false, s') := by
  rw [goSpaced, h]

theorem goSpaced_of_none {flags : Flags} (h : go s c = none) :
    goSpaced flags go (false, s) c =
      if flags.spaced && Text.isBlank c then some (false, s)
      else if flags.spaced && c == '#' then some (true, s)
      else none := by
  rw [goSpaced, h]

theorem settles_spaced (flags : Flags) (h : ∀ s, go s ')' = none) (s : S) :
    (spaced flags go s).Settles true Whole := by
  refine settles_stretch (fun (inside, s) => ?_) _ _
  cases inside with
  | true => exact .inr fun c hc => by rw [goSpaced, bne_iff_ne.mpr hc]
  | false =>
    have hblank : Text.isBlank ')' = false := by decide
    exact .inl (by simp [goSpaced_of_none (h s), hblank])

end

end Piece

end CommandGrammar.PatternReader
