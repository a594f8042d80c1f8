import CommandGrammar.Proofs.Reading.Escapes

/-! Classes in brackets in front of a closing parenthesis. A class is read to its closing bracket.
Inside it the reader looks ahead, for the end of a range or for a named class, but never past the
bracket. -/

namespace CommandGrammar.PatternReader

open Piece

/-! ### Items in brackets -/

section

variable [Text.Properties]

/-- The atom, if it may stand in brackets. -/
def Atom.member? : Atom → Option Atom
  | .boundary _ => none
  | a => some a

/-- An atom that may stand in brackets. -/
def member (flags : Flags) : Piece Atom :=
  Piece.andThen (readSetAtom flags) fun a => give a.member?

theorem member_of_ne (flags : Flags) {c : Char} (hc : c ≠ '\\') (cs : List Char) :
    member flags (c :: cs) = give (some (.literal c)) cs := by
  rw [member, Piece.andThen, readSetAtom]
  · rfl
  · exact hc

theorem settled_member_cons (flags : Flags) (c : Char) :
    Settled fun cs => member flags (c :: cs) := by
  by_cases hc : c = '\\'
  · subst hc
    refine .of_cons rfl fun d => ?_
    by_cases hd : d = 'b'
    · subst hd
      have heq : (fun cs => member flags ('\\' :: 'b' :: cs)) = give none := by
        funext cs
        rw [member, Piece.andThen, readSetAtom, readEscape]
        cases readWordBoundary flags cs <;> rfl
      exact heq ▸ settles_give none
    · exact (settled_readEscape hd).andThen fun _ => settles_give _
  · have heq := funext (member_of_ne flags hc)
    exact heq ▸ settles_give _

theorem settled_member (flags : Flags) : (member flags).Settled :=
  .of_cons rfl (settled_member_cons flags)

theorem length_lt_of_member {flags : Flags} {cs rest : List Char} {a : Atom}
    (h : member flags cs = some (a, rest)) : rest.length < cs.length := by
  cases cs with
  | nil => cases h
  | cons c cs => exact Nat.lt_succ_of_le ((settled_member_cons flags c).suffix h).length_le

/-- The characters from the first to the last, if both are characters and in this order. -/
def rangeOf? (flags : Flags) (first last : Atom) : Option CharClass := do
  let lo ← first.literal? flags
  let hi ← last.literal? flags
  if hi < lo then none else some (.range lo.toNat hi.toNat)

/-- The last character of a range. -/
def rangeEnd (flags : Flags) (first : Atom) : Piece CharClass :=
  (member flags).andThen fun last => give (rangeOf? flags first last)

theorem settled_rangeEnd (flags : Flags) (first : Atom) : (rangeEnd flags first).Settled :=
  (settled_member flags).andThen fun _ => settles_give _

/-- What follows the first character of an item. -/
def itemEnd (flags : Flags) (first : Atom) : Piece CharClass
  | [] => none
  | c :: rest =>
    if c = '-' ∧ standsAlone flags rest = false then
      ((blanks flags).andThen fun _ => rangeEnd flags first) rest
    else give (first.cls? flags) (c :: rest)

theorem rangeEnd_eq (flags : Flags) (first : Atom) (cs : List Char) :
    rangeEnd flags first cs = (readSetAtom flags cs).bind fun p =>
      (rangeOf? flags first p.1).map (·, p.2) := by
  rw [rangeEnd, member, Piece.andThen, Piece.andThen, Option.bind_assoc]
  congr 1
  funext p
  obtain ⟨last, rest⟩ := p
  cases last with
  | boundary b => simp [Atom.member?, rangeOf?, Atom.literal?, give]
  | _ => rfl

theorem itemEnd_of_boundary (flags : Flags) (b : Boundary) (cs : List Char) :
    itemEnd flags (.boundary b) cs = none := by
  have hrange (cs : List Char) : rangeEnd flags (.boundary b) cs = none := by
    rw [rangeEnd_eq]
    cases readSetAtom flags cs <;> rfl
  unfold itemEnd
  split
  · rfl
  · split
    · exact hrange _
    · rfl

theorem readSetItem_eq (flags : Flags) : readSetItem flags =
    (member flags).andThen fun first => (blanks flags).andThen fun _ => itemEnd flags first := by
  funext cs
  have hend : ∀ p : Atom × List Char, (give p.1.member? p.2).bind (fun q =>
      ((blanks flags).andThen fun _ => itemEnd flags q.1) q.2) =
        itemEnd flags p.1 (skip flags p.2) := by
    rintro ⟨first, rest⟩
    cases first with
    | boundary b => exact (itemEnd_of_boundary flags b _).symm
    | _ => rfl
  rw [readSetItem, member, Piece.andThen, Piece.andThen, Option.bind_assoc]
  simp only [hend]
  refine congrArg _ (funext fun p => ?_)
  obtain ⟨first, rest⟩ := p
  dsimp only
  cases hskip : skip flags rest with
  | nil => rfl
  | cons c m =>
    rw [itemEnd]
    split
    · contradiction
    · next h =>
      obtain ⟨rfl, rfl⟩ := List.cons.inj h
      cases standsAlone flags m with
      | true => simp [give_eq_bind]
      | false =>
        simp only [Bool.false_eq_true, if_false, and_self, if_true, blanks_andThen, rangeEnd_eq]
        refine congrArg _ (funext fun p => ?_)
        obtain ⟨last, rest⟩ := p
        rw [rangeOf?]
        cases first.literal? flags with
        | none => rfl
        | some lo =>
          cases last.literal? flags with
          | none => rfl
          | some hi =>
            simp only [Option.bind_eq_bind, Option.bind_some, apply_ite (Option.map _)]
            rfl
    · next h =>
      have hc : c ≠ '-' := by
        rintro rfl
        exact h m rfl
      rw [if_neg fun hhyphen => hc hhyphen.1, give_eq_bind]
      rfl

omit [Text.Properties] in
/-- A parenthesis behind the text does not make a hyphen stand alone. -/
theorem standsAlone_append_closing (flags : Flags) (cs t : List Char) :
    standsAlone flags (cs ++ ')' :: t) = standsAlone flags cs := by
  have hclosing : (')' :: t).dropWhile Text.isBlank = ')' :: t :=
    List.dropWhile_cons_of_neg (by decide)
  have hdrop (cs : List Char) : (cs ++ ')' :: t).dropWhile Text.isBlank =
      cs.dropWhile Text.isBlank ++ ')' :: t := by
    rw [List.dropWhile_append, hclosing]
    split
    · next h => rw [List.isEmpty_iff.mp h, List.nil_append]
    · rfl
  have hhead (cs : List Char) :
      ((cs ++ ')' :: t).head? == some ']' || (cs ++ ')' :: t).head? == some '-') =
        (cs.head? == some ']' || cs.head? == some '-') := by
    cases cs <;> rfl
  unfold standsAlone
  split
  · rw [hdrop]
    cases cs.dropWhile Text.isBlank with
    | nil => rfl
    | cons c m =>
      by_cases hc : c = '#'
      · subst hc
        simp only [List.cons_append, hdrop, hhead]
      · simp [hc]
  · exact hhead cs

/-- An item ends the same in front of a parenthesis, but at the end of the text there is none. -/
theorem settles_itemEnd (flags : Flags) (first : Atom) :
    Settles false (· = []) (itemEnd flags first) := by
  have hrange : Settled ((blanks flags).andThen fun _ => rangeEnd flags first) :=
    (settles_blanks flags).andThen_of_nil (fun _ => settled_rangeEnd flags first) fun _ => rfl
  constructor
  case suffix =>
    intro cs cls rest h
    cases cs with
    | nil => cases h
    | cons c m =>
      rw [itemEnd] at h
      split at h
      · exact (hrange.suffix h).trans (List.suffix_cons c m)
      · exact (settled_give _).suffix h
  case longer =>
    intro cs cls rest h
    refine .inl fun t => ?_
    cases cs with
    | nil => cases h
    | cons c m =>
      rw [itemEnd] at h
      rw [List.cons_append, itemEnd, standsAlone_append_closing]
      split at h
      · next hhyphen =>
        rw [if_pos hhyphen]
        exact hrange.longer_of_false h t
      · next hhyphen =>
        rw [if_neg hhyphen]
        exact (settled_give _).longer_of_false h t
  case shorter =>
    intro cs cls rest t h
    cases cs with
    | nil =>
      obtain ⟨-, hrest⟩ := give_eq_some.mp h
      exact .inr (List.append_cancel_right hrest).symm
    | cons c m =>
      rw [List.cons_append, itemEnd, standsAlone_append_closing] at h
      rw [itemEnd]
      split at h
      · next hhyphen =>
        rw [if_pos hhyphen]
        exact .inl (hrange.shorter_of_settled h)
      · next hhyphen =>
        rw [if_neg hhyphen]
        exact .inl ((settled_give _).shorter_of_settled h)

theorem settles_readSetItem (flags : Flags) : Settles false (· = []) (readSetItem flags) := by
  rw [readSetItem_eq]
  exact (settled_member flags).andThen fun first =>
    (settles_blanks flags).andThen_of_nil (fun _ => settles_itemEnd flags first) fun _ => rfl

theorem length_lt_of_readSetItem {flags : Flags} {cs rest : List Char} {cls : CharClass}
    (h : readSetItem flags cs = some (cls, rest)) : rest.length < cs.length := by
  rw [readSetItem_eq] at h
  obtain ⟨first, m, hfirst, hend⟩ := andThen_eq_some.mp h
  have hlt := length_lt_of_member hfirst
  have hle := ((settles_itemEnd flags first).suffix hend).length_le
  have hskip := (skip_suffix flags m).length_le
  dsimp only at hle
  omega

end

/-! ### Named classes in brackets -/

/-- The name of a class, up to the closing colon and bracket. -/
def posixName (negated : Bool) : Piece (Bool × CharClass) := fun cs =>
  let name := cs.takeWhile (· != ':')
  after [':', ']'] (give ((posixClass? (String.ofList name)).map (negated, ·))) (give none)
    (cs.drop name.length)

/-- A named class, behind its opening bracket. -/
def posix : Piece (Bool × CharClass) :=
  after [':'] (after ['^'] (posixName true) (posixName false)) (give none)

theorem readPosix_eq (cs : List Char) :
    readPosix cs = (posix cs).map fun p => (p.1.1, p.1.2, p.2) := by
  unfold readPosix posix
  split
  · next rest =>
    rw [after_cons_self]
    split
    next negated name heq =>
    have hname : after ['^'] (posixName true) (posixName false) rest = posixName negated name := by
      split at heq
      · next more =>
        obtain ⟨rfl, rfl⟩ := Prod.mk.inj heq
        rw [after_cons_self]
      · next h =>
        obtain ⟨rfl, rfl⟩ := Prod.mk.inj heq
        rw [after_of_forall_ne h]
    rw [hname, posixName]
    dsimp only
    generalize posixClass? (String.ofList (name.takeWhile (· != ':'))) = cls
    split
    · next behind hdrop =>
      rw [hdrop]
      change _ = (after [':', ']'] _ _ ([':', ']'] ++ behind)).map _
      rw [after_append]
      cases cls <;> rfl
    · next h =>
      rw [after_of_forall_ne h]
      rfl
  · next h =>
    rw [after_of_forall_ne h]
    rfl

theorem takeWhile_append_cons {α : Type} {p : α → Bool} {l more : List α} {a : α}
    (h : ∀ b ∈ l, p b = true) (ha : p a = false) : (l ++ a :: more).takeWhile p = l := by
  rw [List.takeWhile_append_of_pos h, List.takeWhile_cons_of_neg (by simp [ha]), List.append_nil]

theorem not_mem_of_posixClass? {name : String} {cls : CharClass}
    (h : posixClass? name = some cls) : ')' ∉ name.toList := by
  unfold posixClass? at h
  split at h
  all_goals first | decide | cases h

theorem posixName_of_closing {cs : List Char} (h : ')' ∈ cs.takeWhile (· != ':'))
    (negated : Bool) : posixName negated cs = none := by
  have hnone : posixClass? (String.ofList (cs.takeWhile (· != ':'))) = none := by
    refine Option.eq_none_iff_forall_ne_some.mpr fun cls hcls => ?_
    exact not_mem_of_posixClass? hcls (String.toList_ofList ▸ h)
  rw [posixName, hnone]
  unfold Piece.after
  split <;> rfl

theorem exact_posixName (negated : Bool) : (posixName negated).Exact := by
  have hend (result : Option (Bool × CharClass)) :
      (after [':', ']'] (give result) (give none)).Exact :=
    (exact_give _).after (by decide) (exact_give _)
  constructor
  case suffix =>
    intro cs x rest h
    exact ((hend _).suffix h).trans (List.drop_suffix _ _)
  case append =>
    intro cs t
    by_cases hcolon : ':' ∈ cs
    · obtain ⟨name, behind, rfl, hname⟩ := List.eq_append_cons_of_mem hcolon
      have htake (more : List Char) : (name ++ ':' :: more).takeWhile (· != ':') = name :=
        takeWhile_append_cons (fun b hb => bne_iff_ne.mpr fun heq => hname (heq ▸ hb)) rfl
      simp only [posixName, List.append_assoc, List.cons_append, htake, List.drop_left]
      exact (hend _).append (':' :: behind) t
    · have hpos : ∀ c ∈ cs, (c != ':') = true :=
        fun c hc => bne_iff_ne.mpr fun heq => hcolon (heq ▸ hc)
      have hnone : posixName negated cs = none := by
        have htake : cs.takeWhile (· != ':') = cs := by
          rw [← List.append_nil cs, List.takeWhile_append_of_pos hpos, List.takeWhile_nil]
        rw [posixName, htake, List.drop_length, after_nil]
        rfl
      rw [hnone]
      refine posixName_of_closing ?_ negated
      rw [List.takeWhile_append_of_pos hpos]
      exact List.mem_append_right _ List.mem_cons_self

theorem exact_posix : posix.Exact :=
  .after (by decide) (.after (by decide) (exact_posixName _) (exact_posixName _)) (exact_give _)

/-! ### The start of a class in brackets -/

/-- What a character does to the hyphens at the start of a class. -/
def goHyphens (s : SetState) (c : Char) : Option SetState :=
  if c = '-' then some (s.add (.single '-') 0) else none

/-- Hyphens at the start of a class. -/
def hyphens (flags : Flags) (s : SetState) : Piece SetState := spaced flags goHyphens s

theorem settles_hyphens (flags : Flags) (s : SetState) : (hyphens flags s).Settles true Whole :=
  settles_spaced flags (fun _ => rfl) s

theorem goHyphens_of_ne (s : SetState) {c : Char} (h : c ≠ '-') : goHyphens s c = none := if_neg h

theorem hyphens_skip (flags : Flags) (s : SetState) (cs : List Char) :
    hyphens flags s (skip flags cs) = hyphens flags s cs := by
  unfold skip
  split
  · next hs =>
    have h (inside : Bool) : hyphens flags s (skipComments inside cs) =
        stretch (goSpaced flags goHyphens) Prod.snd (inside, s) cs := by
      induction cs generalizing inside with
      | nil => cases inside <;> rfl
      | cons c cs ih =>
        cases inside with
        | true => rw [skipComments, ih, stretch_cons_of_some rfl]
        | false =>
          rw [skipComments]
          split
          · next hc =>
            have hne : c ≠ '-' := by
              rintro rfl
              exact absurd hc (by decide)
            have hgo : goSpaced flags goHyphens (false, s) c = some (false, s) := by
              simp [goSpaced_of_none (goHyphens_of_ne s hne), hs, hc]
            rw [ih, stretch_cons_of_some hgo]
          · next hc =>
            split
            · next hc' =>
              obtain rfl := eq_of_beq hc'
              have hgo : goSpaced flags goHyphens (false, s) '#' = some (true, s) := by
                have hne : '#' ≠ '-' := by decide
                simp [goSpaced_of_none (goHyphens_of_ne s hne), hs, hc]
              rw [ih, stretch_cons_of_some hgo]
            · rfl
    exact h false
  · rfl

theorem skipComments_skipComments (inside : Bool) (cs : List Char) :
    skipComments false (skipComments inside cs) = skipComments inside cs := by
  induction cs generalizing inside with
  | nil => rfl
  | cons c cs ih =>
    cases inside with
    | true => exact ih _
    | false =>
      rw [skipComments]
      split
      · exact ih _
      · next hc =>
        split
        · exact ih _
        · next hc' => rw [skipComments, if_neg hc, if_neg hc']

theorem skip_skip (flags : Flags) (cs : List Char) :
    skip flags (skip flags cs) = skip flags cs := by
  unfold skip
  split
  · exact skipComments_skipComments _ _
  · rfl

theorem goSpaced_goHyphens_of_skip {flags : Flags} {s : SetState} {c : Char} {cs : List Char}
    (h : skip flags (c :: cs) = c :: cs) (hc : c ≠ '-') :
    goSpaced flags goHyphens (false, s) c = none := by
  have hshort (inside : Bool) : skipComments inside cs ≠ c :: cs := fun heq => by
    have hle := (skipComments_suffix inside cs).length_le
    rw [heq, List.length_cons] at hle
    omega
  rw [goSpaced_of_none (goHyphens_of_ne s hc)]
  unfold skip at h
  split at h
  · rw [skipComments] at h
    split at h
    · exact absurd h (hshort _)
    · next hblank =>
      split at h
      · exact absurd h (hshort _)
      · next hhash => simp [hblank, hhash]
  · next hs => simp [hs]

theorem readLeadingHyphens_eq {flags : Flags} {n : Nat} {s : SetState} {cs : List Char}
    (hn : cs.length ≤ n) (h : skip flags cs = cs) :
    hyphens flags s cs = some (readLeadingHyphens flags n s cs) := by
  induction n generalizing s cs with
  | zero =>
    obtain rfl := List.eq_nil_of_length_eq_zero (Nat.le_zero.mp hn)
    rfl
  | succ n ih =>
    cases cs with
    | nil => rfl
    | cons c cs =>
      by_cases hc : c = '-'
      · subst hc
        have hle := (skip_suffix flags cs).length_le
        rw [List.length_cons] at hn
        rw [readLeadingHyphens, ← ih (by omega) (skip_skip flags cs), hyphens_skip]
        exact stretch_cons_of_some rfl cs
      · have hread : readLeadingHyphens flags (n + 1) s (c :: cs) = (s, c :: cs) := by
          unfold readLeadingHyphens
          split
          · next h => exact absurd (List.cons.inj h).1 hc
          · rfl
        rw [hread, hyphens, spaced, stretch_cons_of_none (goSpaced_goHyphens_of_skip h hc)]

/-- What stands for itself at the start of a class: a closing bracket, or hyphens. -/
def firstItems (flags : Flags) (negated : Bool) : Piece (Bool × SetState) :=
  after [']']
    ((blanks flags).andThen fun _ => give (some (negated, SetState.start.add (.single ']') 0)))
    ((hyphens flags .start).andThen fun s => give (some (negated, s)))

/-- The start of a class, behind its opening bracket. -/
def opened (flags : Flags) : Piece (Bool × SetState) :=
  (blanks flags).andThen fun _ =>
    (after ['^'] ((blanks flags).andThen fun _ => give (some true)) (give (some false))).andThen
      (firstItems flags)

theorem settles_opened (flags : Flags) : (opened flags).Settles true Whole := by
  have hblanks {α : Type} (result : α) :
      ((blanks flags).andThen fun _ => give (some result)).Settles true Whole :=
    (settles_blanks flags).andThen fun _ => settles_give _
  refine (settles_blanks flags).andThen fun _ => ?_
  refine .andThen (.after (by decide) (hblanks true) (settles_give _)) fun negated => ?_
  exact .after (by decide) (hblanks _) ((settles_hyphens flags _).andThen fun _ => settles_give _)

/-- The items at the start of a class. -/
def setItems (flags : Flags) (negated : Bool) : List Char → Bool × SetState × List Char
  | ']' :: rest => (negated, SetState.start.add (.single ']') 0, skip flags rest)
  | cs => (negated, readLeadingHyphens flags cs.length .start cs)

theorem openSet_hat {flags : Flags} {cs more : List Char} (h : skip flags cs = '^' :: more) :
    openSet flags cs = setItems flags true (skip flags more) := by
  unfold openSet
  rw [h]
  rfl

theorem openSet_of_ne {flags : Flags} {cs : List Char}
    (h : ∀ more, skip flags cs = '^' :: more → False) :
    openSet flags cs = setItems flags false (skip flags cs) := by
  unfold openSet
  split
  next negated rest heq =>
  split at heq
  · next more hskip => exact absurd hskip (h more)
  · cases heq
    rfl

theorem firstItems_eq {flags : Flags} {cs : List Char} (h : skip flags cs = cs) (negated : Bool) :
    firstItems flags negated cs = some (((setItems flags negated cs).1,
      (setItems flags negated cs).2.1), (setItems flags negated cs).2.2) := by
  unfold setItems
  split
  · next rest =>
    rw [firstItems, after_cons_self]
    rfl
  · next hne =>
    rw [firstItems, after_of_forall_ne hne, Piece.andThen,
      readLeadingHyphens_eq (Nat.le_refl _) h]
    rfl

theorem opened_eq (flags : Flags) (cs : List Char) :
    opened flags cs = some (((openSet flags cs).1, (openSet flags cs).2.1),
      (openSet flags cs).2.2) := by
  unfold opened
  simp only [blanks, Piece.andThen, Option.bind_some]
  by_cases hhat : ∃ more, skip flags cs = '^' :: more
  · obtain ⟨more, hskip⟩ := hhat
    rw [openSet_hat hskip, hskip, after_cons_self, ← firstItems_eq (skip_skip flags more)]
    rfl
  · have hne : ∀ more, skip flags cs = '^' :: more → False := fun more h => hhat ⟨more, h⟩
    rw [openSet_of_ne hne, after_of_forall_ne hne, ← firstItems_eq (skip_skip flags cs)]
    rfl

/-! ### Classes in brackets -/

section

variable [Text.Properties]

section

variable (flags : Flags) (n : Nat) (negated : Bool) (s : SetState)

/-- What an opening bracket inside brackets starts: a named class, or a class of its own. -/
def bracket : Piece (CharClass × Nat) :=
  either posix
    (fun p => (give (negate flags p.1 (fold flags p.2))).andThen fun cls =>
      readSet flags n negated (s.add cls 0))
    ((opened flags).andThen fun p => Piece.andThen (readSet flags n p.1 p.2) fun q =>
      readSet flags n negated (s.add q.1 q.2))

/-- What may stand inside brackets. -/
def setPart : Piece (CharClass × Nat) :=
  after [']'] (give (s.finish? flags negated))
    (after ['['] (bracket flags n negated s)
      (after ['&', '&'] (readSet flags n negated (s.operator flags .inter))
        (after ['-', '-'] (readSet flags n negated (s.operator flags .diff))
          (after ['~', '~'] (readSet flags n negated (s.operator flags .symmDiff))
            (Piece.andThen (readSetItem flags) fun cls =>
              readSet flags n negated (s.add cls 0))))))

theorem bracket_eq (cs : List Char) : bracket flags n negated s cs = match readPosix cs with
    | some (neg, cls, rest) => (negate flags neg (fold flags cls)).bind fun cls =>
      readSet flags n negated (s.add cls 0) rest
    | none => (readSet flags n (openSet flags cs).1 (openSet flags cs).2.1
        (openSet flags cs).2.2).bind fun q => readSet flags n negated (s.add q.1.1 q.1.2) q.2 := by
  rw [readPosix_eq]
  cases hposix : posix cs with
  | some p =>
    rw [bracket, either_of_some hposix, Piece.andThen, give_eq_bind, Option.bind_assoc]
    rfl
  | none =>
    rw [bracket, either_of_none hposix, Piece.andThen, opened_eq]
    rfl

theorem readSet_succ : readSet flags (n + 1) negated s =
    (blanks flags).andThen fun _ => setPart flags n negated s := by
  funext cs
  rw [readSet]
  simp only [blanks, Piece.andThen, Option.bind_some, setPart]
  generalize skip flags cs = cs
  split
  · rfl
  · rw [after_cons_self, give_eq_bind]
    rfl
  · rw [after_cons_of_ne (by decide), after_cons_self, bracket_eq]
    rfl
  · next rest =>
    iterate 2 rw [after_cons_of_ne (by decide)]
    exact (after_append ['&', '&'] rest _ _).symm
  · next rest =>
    iterate 3 rw [after_cons_of_ne (by decide)]
    exact (after_append ['-', '-'] rest _ _).symm
  · next rest =>
    iterate 4 rw [after_cons_of_ne (by decide)]
    exact (after_append ['~', '~'] rest _ _).symm
  · next hend hopen hinter hdiff hsymm =>
    rw [after_of_forall_ne hend, after_of_forall_ne hopen, after_of_forall_ne hinter,
      after_of_forall_ne hdiff, after_of_forall_ne hsymm]
    rfl

theorem setPart_nil : setPart flags n negated s [] = none := by
  unfold setPart
  iterate 5 rw [after_nil]
  rfl

theorem readSet_nil : readSet flags n negated s [] = none := by
  cases n with
  | zero => rfl
  | succ n => rw [readSet, skip_nil]

end

theorem settled_readSet (flags : Flags) (n : Nat) (negated : Bool) (s : SetState) :
    Settled (readSet flags n negated s) := by
  induction n generalizing negated s with
  | zero => exact settles_give none
  | succ n ih =>
    -- an item may look ahead, but where it would be cut off the class is not closed
    have hitem : Settled (Piece.andThen (readSetItem flags) fun cls =>
        readSet flags n negated (s.add cls 0)) := by
      refine (settles_readSetItem flags).andThen_of_not_cut (fun _ => ih _ _) ?_
      rintro cls m p hp rfl
      cases (readSet_nil _ _ _ _).symm.trans hp
    have hbracket : Settled (bracket flags n negated s) := by
      refine exact_posix.either (fun p => (settled_give _).andThen fun _ => ih _ _) ?_
      refine (settles_opened flags).andThen_of_nil (fun p => (ih _ _).andThen fun _ => ih _ _) ?_
      intro p
      rw [Piece.andThen, readSet_nil]
      rfl
    rw [readSet_succ]
    refine (settles_blanks flags).andThen_of_nil (fun _ => ?_) fun _ => ?_
    · exact .after (by decide) (settles_give _) (.after (by decide) hbracket
        (.after (by decide) (ih _ _) (.after (by decide) (ih _ _)
          (.after (by decide) (ih _ _) hitem))))
    · exact setPart_nil flags n negated s

theorem readSet_suffix {flags : Flags} {n : Nat} {negated : Bool} {s : SetState}
    {cs : List Char} {cls : CharClass × Nat} {rest : List Char}
    (h : readSet flags n negated s cs = some (cls, rest)) : rest <:+ cs :=
  (settled_readSet flags n negated s).suffix h

section

variable {flags : Flags} {n m : Nat} {negated : Bool} {s : SetState} {cs : List Char}

theorem bracket_congr (h : ∀ negated s more, more.length ≤ cs.length →
      readSet flags n negated s more = readSet flags m negated s more) :
    bracket flags n negated s cs = bracket flags m negated s cs := by
  cases hposix : posix cs with
  | some p =>
    have hle := (exact_posix.suffix hposix).length_le
    rw [bracket, bracket, either_of_some hposix, either_of_some hposix]
    refine andThen_congr rfl fun cls more hcls => h _ _ _ ?_
    rwa [← (give_eq_some.mp hcls).2]
  | none =>
    rw [bracket, bracket, either_of_none hposix, either_of_none hposix]
    refine andThen_congr rfl fun p more hopened => ?_
    have hmore := ((settles_opened flags).suffix hopened).length_le
    refine andThen_congr (h _ _ _ hmore) fun cls rest hcls => h _ _ _ ?_
    exact (readSet_suffix hcls).length_le.trans hmore

theorem setPart_congr (h : ∀ negated s more, more.length < cs.length →
      readSet flags n negated s more = readSet flags m negated s more) :
    setPart flags n negated s cs = setPart flags m negated s cs := by
  refine after_congr (fun _ => rfl) ?_
  refine after_congr (fun hfront => bracket_congr fun _ _ more hle => h _ _ _ ?_) ?_
  · exact hle.trans_lt (length_drop_lt hfront (by decide))
  refine after_congr (fun hfront => h _ _ _ (length_drop_lt hfront (by decide))) ?_
  refine after_congr (fun hfront => h _ _ _ (length_drop_lt hfront (by decide))) ?_
  refine after_congr (fun hfront => h _ _ _ (length_drop_lt hfront (by decide))) ?_
  exact andThen_congr rfl fun cls more hitem => h _ _ _ (length_lt_of_readSetItem hitem)

/-- The number only has to be large enough. -/
theorem readSet_eq_of_lt (hn : cs.length < n) (hm : cs.length < m) :
    readSet flags n negated s cs = readSet flags m negated s cs := by
  induction n generalizing m negated s cs with
  | zero => omega
  | succ n ih =>
    obtain ⟨m, rfl⟩ : ∃ k, m = k + 1 := ⟨m - 1, by omega⟩
    have hle := (skip_suffix flags cs).length_le
    rw [readSet_succ, readSet_succ, blanks_andThen, blanks_andThen]
    exact setPart_congr fun _ _ more hmore => ih (by omega) (by omega)

end

/-- A class in brackets, behind its opening bracket. -/
def set (flags : Flags) : Piece (CharClass × Nat) := fun cs =>
  readSet flags ((openSet flags cs).2.2.length + 1) (openSet flags cs).1 (openSet flags cs).2.1
    (openSet flags cs).2.2

theorem set_eq {flags : Flags} {cs : List Char} {n : Nat} (hn : cs.length < n) :
    set flags cs = (opened flags).andThen (fun p => readSet flags n p.1 p.2) cs := by
  have hle := ((settles_opened flags).suffix (opened_eq flags cs)).length_le
  rw [Piece.andThen, opened_eq]
  exact readSet_eq_of_lt (by omega) (by omega)

theorem settled_set (flags : Flags) : (set flags).Settled := by
  have hset (n : Nat) : ((opened flags).andThen fun p => readSet flags n p.1 p.2).Settled :=
    (settles_opened flags).andThen_of_nil (fun p => settled_readSet _ _ _ _) fun p =>
      readSet_nil _ _ _ _
  constructor
  case suffix =>
    intro cs x rest h
    rw [set_eq (Nat.lt_succ_self _)] at h
    exact (hset _).suffix h
  case longer =>
    intro cs x rest h
    refine .inl fun t => ?_
    -- the number for the longer text is large enough for both
    have hn := Nat.lt_succ_self (cs ++ ')' :: t).length
    have hle := (List.prefix_append cs (')' :: t)).length_le
    rw [set_eq (hle.trans_lt hn)] at h
    rw [set_eq hn]
    exact (hset _).longer_of_false h t
  case shorter =>
    intro cs x rest t h
    have hn := Nat.lt_succ_self (cs ++ ')' :: t).length
    have hle := (List.prefix_append cs (')' :: t)).length_le
    rw [set_eq hn] at h
    rw [set_eq (hle.trans_lt hn)]
    exact (hset _).shorter h

end

end CommandGrammar.PatternReader
