import CommandGrammar.Proofs.Line

/-! Reading a line in pieces. Between two tokens the reader of a line reads on as it does from the
start of a line. The token that is still being typed is cut off at such a place, so what stands in
front of it keeps its tokens whatever is typed behind. -/

namespace CommandGrammar

open Text (size)

/-- The token, further on in the line by so many bytes. -/
def Token.shift (offset : Nat) (t : Token) : Token := { t with start := t.start + offset }

namespace Lexer

/-! ### Reading on -/

/-- Where the reader is behind the characters, and the tokens completed on the way. -/
def scan : Lexer → Nat → List Char → Lexer × List Token
  | lexer, _, [] => (lexer, [])
  | lexer, pos, c :: cs =>
    let rest := scan (lexer.step pos c).1 (pos + c.utf8Size) cs
    (rest.1, (lexer.step pos c).2 ++ rest.2)

theorem run_cons (lexer : Lexer) (pos : Nat) (c : Char) (cs : List Char) :
    lexer.run pos (c :: cs) =
      (lexer.step pos c).2 ++ (lexer.step pos c).1.run (pos + c.utf8Size) cs := rfl

theorem scan_cons (lexer : Lexer) (pos : Nat) (c : Char) (cs : List Char) :
    lexer.scan pos (c :: cs) =
      (((lexer.step pos c).1.scan (pos + c.utf8Size) cs).1,
        (lexer.step pos c).2 ++ ((lexer.step pos c).1.scan (pos + c.utf8Size) cs).2) := rfl

/-- The reader goes on from where it is behind the first characters. -/
theorem run_append (lexer : Lexer) (pos : Nat) (before behind : List Char) :
    lexer.run pos (before ++ behind) =
      (lexer.scan pos before).2 ++
        (lexer.scan pos before).1.run (pos + size before) behind := by
  induction before generalizing lexer pos with
  | nil => rfl
  | cons c cs ih =>
    rw [List.cons_append, run_cons, ih, scan_cons, Text.size_cons, List.append_assoc,
      Nat.add_assoc]

theorem run_eq_scan (lexer : Lexer) (pos : Nat) (cs : List Char) :
    lexer.run pos cs = (lexer.scan pos cs).2 ++ (lexer.scan pos cs).1.finish := by
  have h := run_append lexer pos cs []
  rw [List.append_nil] at h
  exact h

theorem Reaches.scan {lexer : Lexer} {pos : Nat} (h : lexer.Reaches pos) (cs : List Char) :
    (lexer.scan pos cs).1.Reaches (pos + size cs) := by
  induction cs generalizing lexer pos with
  | nil => exact h
  | cons c cs ih =>
    rw [scan_cons, Text.size_cons, ← Nat.add_assoc]
    exact ih (h.step c)

/-! ### Reading further on in a line -/

/-- The reader, further on in the line by so many bytes. -/
def shift (offset : Nat) : Lexer → Lexer
  | between => between
  | bare start read => bare (start + offset) read
  | quoted quote escaped start read => quoted quote escaped (start + offset) read

theorem step_shift (offset : Nat) (lexer : Lexer) (pos : Nat) (c : Char) :
    (lexer.shift offset).step (pos + offset) c =
      ((lexer.step pos c).1.shift offset, (lexer.step pos c).2.map (Token.shift offset)) := by
  cases lexer with
  | between =>
    simp only [shift, step]
    split
    · rfl
    · split <;> rfl
  | bare start read =>
    simp only [shift, step]
    split <;> rfl
  | quoted quote escaped start read =>
    simp only [shift, step]
    split
    · rfl
    · split <;> rfl

theorem finish_shift (offset : Nat) (lexer : Lexer) :
    (lexer.shift offset).finish = lexer.finish.map (Token.shift offset) := by
  cases lexer <;> rfl

/-- The tokens do not depend on where in the line the reader is. -/
theorem run_shift (offset : Nat) (lexer : Lexer) (pos : Nat) (cs : List Char) :
    (lexer.shift offset).run (pos + offset) cs =
      (lexer.run pos cs).map (Token.shift offset) := by
  induction cs generalizing lexer pos with
  | nil => exact finish_shift offset lexer
  | cons c cs ih =>
    rw [run_cons, run_cons, step_shift, List.map_append, ← ih, Nat.add_right_comm]

/-! ### The last token -/

theorem length_step_le (lexer : Lexer) (pos : Nat) (c : Char) :
    (lexer.step pos c).2.length ≤ 1 := by
  unfold step
  split
  · split
    · exact Nat.zero_le 1
    · split <;> exact Nat.zero_le 1
  · split
    · exact Nat.le_refl 1
    · exact Nat.zero_le 1
  · split
    · exact Nat.zero_le 1
    · split
      · exact Nat.le_refl 1
      · exact Nat.zero_le 1

/-- A token that is completed by a character reaches no further than that character. -/
theorem stop_le_of_mem_step {lexer : Lexer} {pos : Nat} (h : lexer.Reaches pos) {c : Char}
    {t : Token} (ht : t ∈ (lexer.step pos c).2) :
    t.stop ≤ pos + c.utf8Size ∧
      (t.stop = pos + c.utf8Size → t.text.toList = lexer.opened ++ [c]) := by
  rcases lexer.step_cases pos c with ⟨hnone, -⟩ | ⟨-, hsome⟩
  · rw [hnone] at ht
    cases ht
  · obtain ⟨hstart, behind, hb⟩ := hsome t ht
    have hsize : size lexer.opened + c.utf8Size = size t.text.toList + size behind := by
      simpa using congrArg size hb
    have hstop : t.stop = lexer.origin pos + size t.text.toList := by
      rw [Token.stop, hstart, Text.utf8ByteSize_eq]
    unfold Reaches at h
    refine ⟨by omega, fun he => ?_⟩
    have hbehind : behind = [] := by
      cases behind with
      | nil => rfl
      | cons d ds =>
        have := d.utf8Size_pos
        rw [Text.size_cons] at hsize
        omega
    rw [hb, hbehind, List.append_nil]

/-- If the last token reaches to the end, it is the one that was being read all along, or the reader
is between tokens in front of it. -/
theorem Reaches.cut_last {lexer : Lexer} {pos : Nat} {cs : List Char} (h : lexer.Reaches pos)
    {t : Token} (ht : (lexer.run pos cs).getLast? = some t) (hstop : t.stop = pos + size cs) :
    (lexer.run pos cs = [t] ∧ t.text.toList = lexer.opened ++ cs) ∨
      ∃ before, cs = before ++ t.text.toList ∧
        lexer.scan pos before = (between, (lexer.run pos cs).dropLast) := by
  induction cs generalizing lexer pos with
  | nil =>
    cases lexer with
    | between => cases ht
    | bare start read =>
      obtain rfl := Option.some.inj ht
      exact .inl ⟨rfl, by simp [opened]⟩
    | quoted quote escaped start read =>
      obtain rfl := Option.some.inj ht
      exact .inl ⟨rfl, by simp [opened]⟩
  | cons c cs ih =>
    rw [Text.size_cons, ← Nat.add_assoc] at hstop
    have hdone := length_step_le lexer pos c
    have hmem := fun hin => stop_le_of_mem_step h (c := c) (t := t) hin
    have hcases := lexer.step_cases pos c
    have hnext := h.step c
    have hscan (before : List Char) := scan_cons lexer pos c before
    rw [run_cons] at ht ⊢
    generalize hstep : lexer.step pos c = r at ht hdone hmem hcases hnext hscan ⊢
    obtain ⟨next, done⟩ := r
    dsimp only at ht hdone hmem hcases hnext hscan ⊢
    cases hrun : next.run (pos + c.utf8Size) cs with
    | nil =>
      -- the first character completes the last token, so it is the only one
      rw [hrun, List.append_nil] at ht
      obtain ⟨hle, htext⟩ := hmem (List.mem_of_getLast? ht)
      obtain rfl : cs = [] := by
        cases cs with
        | nil => rfl
        | cons d ds =>
          have := d.utf8Size_pos
          rw [Text.size_cons] at hstop
          omega
      obtain rfl : done = [t] := by
        cases done with
        | nil => cases ht
        | cons u us =>
          obtain rfl : us = [] := List.eq_nil_of_length_eq_zero (by simpa using hdone)
          obtain rfl := Option.some.inj ht
          rfl
      exact .inl ⟨rfl, htext (by rw [hstop]; rfl)⟩
    | cons u us =>
      have hne : next.run (pos + c.utf8Size) cs ≠ [] := by rw [hrun]; exact List.cons_ne_nil u us
      rw [← hrun]
      rw [List.getLast?_append, List.getLast?_eq_some_getLast hne, Option.some_or,
        ← List.getLast?_eq_some_getLast hne] at ht
      rcases ih hnext ht hstop with ⟨hone, htext⟩ | ⟨before, hcs, hbefore⟩
      · rcases hcases with ⟨rfl, hopened, -⟩ | ⟨rfl, -⟩
        · exact .inl ⟨by rw [hone]; rfl, by rw [htext, hopened]; simp⟩
        · refine .inr ⟨[c], by rw [htext]; rfl, ?_⟩
          rw [hscan, hone, List.dropLast_concat]
          exact congrArg (between, ·) (List.append_nil done)
      · refine .inr ⟨c :: before, by rw [hcs]; rfl, ?_⟩
        rw [hscan, hbefore, List.dropLast_append_of_ne_nil hne]

/-! ### Tokens are not empty -/

/-- At least one character is read of a token that is being read. -/
def Begun : Lexer → Prop
  | between => True
  | bare _ read => read ≠ []
  | quoted _ _ _ read => read ≠ []

theorem ofList_ne_empty {cs : List Char} (h : cs ≠ []) : String.ofList cs ≠ "" := by
  simpa using h

theorem Begun.step {lexer : Lexer} (h : lexer.Begun) (pos : Nat) (c : Char) :
    (lexer.step pos c).1.Begun ∧ ∀ t ∈ (lexer.step pos c).2, t.text ≠ "" := by
  unfold Lexer.step
  split
  · split
    · exact ⟨trivial, nofun⟩
    · split <;> exact ⟨List.cons_ne_nil c [], nofun⟩
  · split
    · exact ⟨trivial, List.forall_mem_singleton.mpr (ofList_ne_empty h)⟩
    · exact ⟨List.concat_ne_nil c _, nofun⟩
  · split
    · exact ⟨List.concat_ne_nil c _, nofun⟩
    · split
      · exact ⟨trivial, List.forall_mem_singleton.mpr (ofList_ne_empty (List.concat_ne_nil c _))⟩
      · exact ⟨List.concat_ne_nil c _, nofun⟩

theorem Begun.text_ne_empty {lexer : Lexer} (h : lexer.Begun) {pos : Nat} {cs : List Char}
    {t : Token} (ht : t ∈ lexer.run pos cs) : t.text ≠ "" := by
  induction cs generalizing lexer pos with
  | nil =>
    cases lexer with
    | between => cases ht
    | bare start read =>
      obtain rfl := List.mem_singleton.mp ht
      exact ofList_ne_empty h
    | quoted quote escaped start read =>
      obtain rfl := List.mem_singleton.mp ht
      exact ofList_ne_empty h
  | cons c cs ih =>
    rw [run_cons] at ht
    rcases List.mem_append.mp ht with ht | ht
    · exact (h.step pos c).2 t ht
    · exact ih (h.step pos c).1 ht

end Lexer

/-! ### Cutting off what is being typed -/

namespace Line

theorem text_ne_empty {input : String} {t : Token} (ht : t ∈ (read input).tokens) : t.text ≠ "" :=
  have hbetween : Lexer.between.Begun := trivial
  hbetween.text_ne_empty ht

/-- If the reader is inside a token at the end of the line, that token reaches to the end. -/
theorem exists_last {input : String} (h : (Lexer.between.scan 0 input.toList).1 ≠ .between) :
    ∃ t, (read input).tokens.getLast? = some t ∧ t.stop = input.utf8ByteSize := by
  have hstart : Lexer.between.Reaches 0 := rfl
  have hlast := hstart.scan input.toList
  have hrun : (read input).tokens = _ := Lexer.run_eq_scan .between 0 input.toList
  rw [hrun, Text.utf8ByteSize_eq, ← Nat.zero_add (size input.toList)]
  generalize (Lexer.between.scan 0 input.toList).1 = last at h hlast
  cases last with
  | between => exact absurd rfl h
  | bare start text =>
    refine ⟨⟨String.ofList text, start⟩, by simp [Lexer.finish], ?_⟩
    rw [Token.stop, Text.utf8ByteSize_ofList]
    exact hlast
  | quoted quote escaped start text =>
    refine ⟨⟨String.ofList text, start⟩, by simp [Lexer.finish], ?_⟩
    rw [Token.stop, Text.utf8ByteSize_ofList]
    exact hlast

theorem scan_eq_of_not_exists_last {input : String}
    (h : ¬∃ t, (read input).tokens.getLast? = some t ∧ t.stop = input.utf8ByteSize) :
    Lexer.between.scan 0 input.toList = (.between, (read input).tokens) := by
  have hbetween : (Lexer.between.scan 0 input.toList).1 = .between :=
    Classical.byContradiction fun hne => h (exists_last hne)
  have hrun : (read input).tokens = _ := Lexer.run_eq_scan .between 0 input.toList
  rw [hbetween, Lexer.finish, List.append_nil] at hrun
  exact Prod.ext hbetween hrun.symm

/-- In front of the token that is being typed the reader is between tokens, and has read the
complete ones. -/
theorem exists_scan (input : String) :
    ∃ before : List Char, input.toList = before ++ (read input).splitTrailing.2.toList ∧
      Lexer.between.scan 0 before = (.between, (read input).splitTrailing.1.tokens) := by
  unfold splitTrailing
  split
  · next t ht =>
    split
    · next hstop =>
      have hstart : Lexer.between.Reaches 0 := rfl
      have hstop : t.stop = 0 + size input.toList := by
        rw [Nat.zero_add, ← Text.utf8ByteSize_eq]
        exact hstop
      rcases hstart.cut_last ht hstop with ⟨hone, htext⟩ | ⟨before, hcs, hbefore⟩
      · have hone : (read input).tokens = [t] := hone
        exact ⟨[], htext.symm, by rw [hone]; rfl⟩
      · exact ⟨before, hcs, hbefore⟩
    · next hstop =>
      refine ⟨input.toList, by simp, scan_eq_of_not_exists_last ?_⟩
      rintro ⟨u, hu, hustop⟩
      cases ht.symm.trans hu
      exact hstop hustop
  · next hnone =>
    refine ⟨input.toList, by simp, scan_eq_of_not_exists_last ?_⟩
    rintro ⟨u, hu, -⟩
    cases hnone.symm.trans hu

/-- The line in front of the token that is being typed. -/
theorem exists_before (input : String) :
    ∃ before : String, input = before ++ (read input).splitTrailing.2 ∧
      ∀ behind : String, (read (before ++ behind)).tokens =
        (read input).splitTrailing.1.tokens ++
          (read behind).tokens.map (Token.shift before.utf8ByteSize) := by
  obtain ⟨before, hinput, hscan⟩ := exists_scan input
  refine ⟨String.ofList before, ?_, fun behind => ?_⟩
  · rw [← String.toList_inj, String.toList_append, hinput, String.toList_ofList]
  · have hshift := Lexer.run_shift (size before) .between 0 behind.toList
    change Lexer.between.run 0 (String.ofList before ++ behind).toList = _
    rw [String.toList_append, String.toList_ofList, Lexer.run_append, hscan,
      Text.utf8ByteSize_ofList]
    exact congrArg _ hshift

/-- If nothing is being typed, all tokens are complete. -/
theorem splitTrailing_eq_self {input : String} (h : (read input).splitTrailing.2 = "") :
    (read input).splitTrailing.1 = read input := by
  unfold splitTrailing at h ⊢
  split at h
  · next t ht =>
    split at h
    · exact absurd h (text_ne_empty (List.mem_of_getLast? ht))
    · next hstop => rw [if_neg hstop]
  · rfl

/-- Behind a line on which nothing is being typed, a text is read on its own. -/
theorem tokens_append {p : String} (hp : (read p).splitTrailing.2 = "") (s : String) :
    (read (p ++ s)).tokens =
      (read p).tokens ++ (read s).tokens.map (Token.shift p.utf8ByteSize) := by
  obtain ⟨before, hbefore, hread⟩ := exists_before p
  rw [hp, String.append_empty] at hbefore
  subst hbefore
  rw [hread, splitTrailing_eq_self hp]

end Line

end CommandGrammar
