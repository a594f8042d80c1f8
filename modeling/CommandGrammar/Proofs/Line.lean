import CommandGrammar.Line

/-! Where the tokens of a line stand. The reader of a line keeps the characters of the token that it
is reading, so every token is a piece of the line at the position that it tells, and a line can be
cut in front of each of its tokens. -/

namespace CommandGrammar

/-! ### Sizes in bytes -/

namespace Text

/-- The size of characters in bytes. -/
def size : List Char → Nat
  | [] => 0
  | c :: cs => c.utf8Size + size cs

@[simp] theorem size_nil : size [] = 0 := rfl

@[simp] theorem size_cons (c : Char) (cs : List Char) : size (c :: cs) = c.utf8Size + size cs := rfl

@[simp] theorem size_append (cs ds : List Char) : size (cs ++ ds) = size cs + size ds := by
  induction cs with
  | nil => simp
  | cons c cs ih => simp [ih, Nat.add_assoc]

theorem utf8ByteSize_ofList (cs : List Char) : (String.ofList cs).utf8ByteSize = size cs := by
  induction cs with
  | nil => rfl
  | cons c cs ih =>
    rw [String.ofList_cons, String.utf8ByteSize_append, String.utf8ByteSize_singleton, ih,
      size_cons]

theorem utf8ByteSize_eq (s : String) : s.utf8ByteSize = size s.toList := by
  rw [← utf8ByteSize_ofList, String.ofList_toList]

end Text

open Text (size)

/-! ### The reader -/

namespace Lexer

/-- The characters read of the token that is being read. -/
def opened : Lexer → List Char
  | between => []
  | bare _ read => read
  | quoted _ _ _ read => read

/-- Where the token that is being read starts, or else the position itself. -/
def origin : Lexer → Nat → Nat
  | between, pos => pos
  | bare start _, _ => start
  | quoted _ _ start _, _ => start

/-- The token that is being read reaches up to the position. -/
def Reaches (lexer : Lexer) (pos : Nat) : Prop := lexer.origin pos + size lexer.opened = pos

/-- One character is added to the token that is being read, or the token ends with it or in front of
it. -/
theorem step_cases (lexer : Lexer) (pos : Nat) (c : Char) :
    ((lexer.step pos c).2 = [] ∧ (lexer.step pos c).1.opened = lexer.opened ++ [c] ∧
      ∀ next, (lexer.step pos c).1.origin next = lexer.origin pos) ∨
    ((lexer.step pos c).1 = between ∧ ∀ t ∈ (lexer.step pos c).2, t.start = lexer.origin pos ∧
      ∃ behind, lexer.opened ++ [c] = t.text.toList ++ behind) := by
  cases lexer with
  | between =>
    rw [step]
    split
    · exact .inr ⟨rfl, nofun⟩
    · split
      · exact .inl ⟨rfl, rfl, fun _ => rfl⟩
      · exact .inl ⟨rfl, rfl, fun _ => rfl⟩
  | bare start read =>
    rw [step]
    split
    · refine .inr ⟨rfl, fun t ht => ?_⟩
      obtain rfl := List.mem_singleton.mp ht
      exact ⟨rfl, [c], by simp [opened]⟩
    · exact .inl ⟨rfl, rfl, fun _ => rfl⟩
  | quoted quote escaped start read =>
    rw [step]
    split
    · exact .inl ⟨rfl, rfl, fun _ => rfl⟩
    · split
      · refine .inr ⟨rfl, fun t ht => ?_⟩
        obtain rfl := List.mem_singleton.mp ht
        exact ⟨rfl, [], by simp [opened]⟩
      · exact .inl ⟨rfl, rfl, fun _ => rfl⟩

theorem Reaches.step {lexer : Lexer} {pos : Nat} (h : lexer.Reaches pos) (c : Char) :
    (lexer.step pos c).1.Reaches (pos + c.utf8Size) := by
  unfold Reaches at h ⊢
  rcases lexer.step_cases pos c with ⟨-, ho, hs⟩ | ⟨hb, -⟩
  · rw [ho, hs, Text.size_append, Text.size_cons, Text.size_nil]
    omega
  · rw [hb]
    rfl

/-- Every token is a piece of the characters read, at the position that it tells. -/
theorem Reaches.exists_of_mem_run {lexer : Lexer} {pos : Nat} {cs : List Char}
    (h : lexer.Reaches pos) {t : Token} (ht : t ∈ lexer.run pos cs) :
    ∃ before behind, lexer.opened ++ cs = before ++ (t.text.toList ++ behind) ∧
      t.start = lexer.origin pos + size before := by
  induction cs generalizing lexer pos with
  | nil =>
    cases lexer with
    | between => cases ht
    | bare start read =>
      obtain rfl := List.mem_singleton.mp ht
      exact ⟨[], [], by simp [opened], rfl⟩
    | quoted quote escaped start read =>
      obtain rfl := List.mem_singleton.mp ht
      exact ⟨[], [], by simp [opened], rfl⟩
  | cons c cs ih =>
    change t ∈ (lexer.step pos c).2 ++ (lexer.step pos c).1.run (pos + c.utf8Size) cs at ht
    rcases List.mem_append.mp ht with ht | ht
    · -- the token is completed by the first character
      rcases lexer.step_cases pos c with ⟨hd, -, -⟩ | ⟨-, hd⟩
      · rw [hd] at ht
        cases ht
      · obtain ⟨hs, behind, hb⟩ := hd t ht
        exact ⟨[], behind ++ cs, by rw [List.append_cons, hb]; simp, hs⟩
    · obtain ⟨before, behind, hb, hs⟩ := ih (h.step c) ht
      rcases lexer.step_cases pos c with ⟨-, ho, hor⟩ | ⟨hn, -⟩
      · exact ⟨before, behind, by rw [List.append_cons, ← ho, hb], by rw [hs, hor]⟩
      · rw [hn] at hb hs
        refine ⟨lexer.opened ++ c :: before, behind, ?_, ?_⟩
        · rw [List.append_assoc, List.cons_append, ← hb]
          rfl
        · unfold Reaches at h
          rw [hs, Text.size_append, Text.size_cons]
          change pos + c.utf8Size + size before = _
          omega

end Lexer

/-! ### Cutting a line -/

namespace Line

theorem splitAt_size (before behind : List Char) :
    splitAt (size before) (before ++ behind) = (before, behind) := by
  induction before with
  | nil => cases behind <;> rfl
  | cons c cs ih =>
    have hc := c.utf8Size_pos
    rw [List.cons_append, splitAt, if_neg (by rw [Text.size_cons]; omega), Text.size_cons,
      Nat.add_sub_cancel_left, ih]

theorem exists_of_mem_tokens {input : String} {t : Token} (ht : t ∈ (read input).tokens) :
    ∃ before behind, input.toList = before ++ (t.text.toList ++ behind) ∧
      t.start = size before := by
  have hstart : Lexer.between.Reaches 0 := rfl
  obtain ⟨before, behind, hb, hs⟩ := hstart.exists_of_mem_run ht
  exact ⟨before, behind, hb, hs.trans (Nat.zero_add _)⟩

/-- In front of a token that is not matched, the line is cut where the token starts. -/
theorem cut_of_token {input : String} {matched : Nat} {t : Token}
    (ht : (read input).tokens[matched]? = some t) :
    (read input).parsed matched ++ (read input).remaining matched = input ∧
      ((read input).parsed matched).utf8ByteSize = t.start ∧
      ∃ rest, (read input).remaining matched = t.text ++ rest := by
  obtain ⟨before, behind, hb, hs⟩ := exists_of_mem_tokens (List.mem_of_getElem? ht)
  have hsplit : splitAt ((read input).cursor matched) (read input).input.toList =
      (before, t.text.toList ++ behind) := by
    rw [cursor, ht]
    change splitAt t.start input.toList = _
    rw [hs, hb, splitAt_size]
  rw [parsed, remaining, hsplit, Text.utf8ByteSize_ofList, ← String.ofList_append, ← hb]
  exact ⟨String.ofList_toList, hs.symm, String.ofList behind, by simp [String.ofList_append]⟩

/-- Behind the last token nothing remains of the line. -/
theorem cut_of_end {input : String} {matched : Nat}
    (ht : (read input).tokens[matched]? = none) :
    (read input).parsed matched = input ∧ (read input).remaining matched = "" := by
  have hsplit : splitAt ((read input).cursor matched) (read input).input.toList =
      (input.toList, []) := by
    rw [cursor, ht]
    change splitAt input.utf8ByteSize input.toList = _
    rw [Text.utf8ByteSize_eq]
    simpa using splitAt_size input.toList []
  rw [parsed, remaining, hsplit]
  exact ⟨String.ofList_toList, rfl⟩

end Line

end CommandGrammar
