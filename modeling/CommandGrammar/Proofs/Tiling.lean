import CommandGrammar.Proofs.Splitting
import Mathlib.Data.List.Induction
import Mathlib.Data.List.TakeWhile

/-! The tokens of a line as a tiling of it. A line is white space, a token, white space, and so on
to its end, and where a token ends follows from its first character: a bare one reaches to the next
white space, and a quoted one to the next quote of its kind that is not escaped, or to the end of
the line. There is one such tiling for every line, and it is what the reader of lines gives. -/

namespace CommandGrammar

open Text (size isBlank isQuote endsEscaped)

/-- A member stands in the first of two lists, or behind it in the second. -/
theorem first_or_second_of_append_eq {α : Type} {l m before behind : List α} {a : α}
    (h : l ++ m = before ++ a :: behind) :
    (∃ rest, l = before ++ a :: rest) ∨
      ∃ front, before = l ++ front ∧ m = front ++ a :: behind := by
  rcases List.append_eq_append_iff.mp h with ⟨front, hbefore, hm⟩ | ⟨rest, hl, hm⟩
  · exact .inr ⟨front, hbefore, hm⟩
  · rcases List.cons_eq_append_iff.mp hm with ⟨rfl, rfl⟩ | ⟨rest, rfl, -⟩
    · exact .inr ⟨[], by rw [hl, List.append_nil, List.append_nil], rfl⟩
    · exact .inl ⟨rest, hl⟩

/-! ### Quotes that are escaped -/

namespace Text

theorem isQuote_iff {c : Char} : isQuote c = true ↔ c = '\'' ∨ c = '"' := by
  rw [isQuote, Bool.or_eq_true, beq_iff_eq, beq_iff_eq]

theorem not_isBlank_of_isQuote {c : Char} (h : isQuote c = true) : isBlank c = false := by
  rcases isQuote_iff.mp h with rfl | rfl <;> decide

/-- A character is escaped by a backslash in front of it that is not escaped itself. -/
theorem endsEscaped_concat (cs : List Char) (c : Char) :
    endsEscaped (cs ++ [c]) = (c == '\\' && !endsEscaped cs) := by
  unfold endsEscaped
  rw [List.reverse_append, List.reverse_singleton, List.singleton_append, List.takeWhile_cons]
  by_cases hc : c = '\\'
  · subst hc
    rw [if_pos (by rfl), List.length_cons, Bool.eq_iff_iff]
    simp only [beq_iff_eq, Bool.and_eq_true, Bool.not_eq_true', beq_eq_false_iff_ne, true_and]
    omega
  · have hc : (c == '\\') = false := beq_eq_false_iff_ne.mpr hc
    rw [hc, if_neg Bool.false_ne_true, Bool.false_and]
    rfl

/-- Every quote of this kind among the characters is escaped. -/
def Unclosed (quote : Char) (cs : List Char) : Prop :=
  ∀ before behind, cs = before ++ quote :: behind → endsEscaped before = true

theorem Unclosed.nil (quote : Char) : Unclosed quote [] := by
  intro before behind h
  cases before <;> cases h

theorem Unclosed.concat {quote c : Char} {cs : List Char} (h : Unclosed quote cs)
    (hc : c = quote → endsEscaped cs = true) : Unclosed quote (cs ++ [c]) := by
  intro before behind hcs
  cases behind using List.reverseRecOn with
  | nil =>
    obtain ⟨rfl, rfl⟩ := List.append_singleton_inj.mp hcs
    exact hc rfl
  | append_singleton behind d =>
    rw [← List.cons_append, ← List.append_assoc] at hcs
    exact h before behind (List.append_singleton_inj.mp hcs).1

/-- A quote stays open to the end, or a first quote of its kind that is not escaped closes it. -/
theorem unclosed_or_exists_closing (quote : Char) (cs : List Char) :
    Unclosed quote cs ∨ ∃ inner behind, cs = inner ++ quote :: behind ∧ Unclosed quote inner ∧
      endsEscaped inner = false := by
  induction cs using List.reverseRecOn with
  | nil => exact .inl (.nil quote)
  | append_singleton cs c ih =>
    rcases ih with hopen | ⟨inner, behind, rfl, hinner, hclosing⟩
    · by_cases hc : c = quote ∧ endsEscaped cs = false
      · obtain ⟨rfl, hclosing⟩ := hc
        exact .inr ⟨cs, [], rfl, hopen, hclosing⟩
      · exact .inl (hopen.concat fun hquote => Bool.of_not_eq_false fun h => hc ⟨hquote, h⟩)
    · exact .inr ⟨inner, behind ++ [c], by simp, hinner, hclosing⟩

end Text

open Text (Unclosed)

/-! ### Tokens by their characters -/

/-- The characters are those of a token in front of the other ones. -/
inductive Lexeme : List Char → List Char → Prop
  | bare {c : Char} {cs behind : List Char} (quote : isQuote c = false)
      (solid : ∀ d ∈ c :: cs, isBlank d = false) (ends : ∀ d ∈ behind.head?, isBlank d = true) :
      Lexeme (c :: cs) behind
  | closed {quote : Char} {inner behind : List Char} (opens : isQuote quote = true)
      (unclosed : Unclosed quote inner) (closes : endsEscaped inner = false) :
      Lexeme (quote :: (inner ++ [quote])) behind
  | unclosed {quote : Char} {inner : List Char} (opens : isQuote quote = true)
      (unclosed : Unclosed quote inner) : Lexeme (quote :: inner) []

/-- The tokens are those of the characters from the position on: between them, in front of the first
one and behind the last one is nothing but white space. -/
inductive Tiles : Nat → List Char → List Token → Prop
  | blank {pos : Nat} {gap : List Char} (blank : ∀ c ∈ gap, isBlank c = true) : Tiles pos gap []
  | token {pos : Nat} {gap word behind : List Char} {ts : List Token}
      (blank : ∀ c ∈ gap, isBlank c = true) (lexeme : Lexeme word behind)
      (rest : Tiles (pos + size gap + size word) behind ts) :
      Tiles pos (gap ++ (word ++ behind)) (⟨String.ofList word, pos + size gap⟩ :: ts)

namespace Lexeme

variable {word behind : List Char}

theorem ne_nil (h : Lexeme word behind) : word ≠ [] := by cases h <;> exact List.cons_ne_nil _ _

/-- No token starts with white space. -/
theorem not_isBlank_head (h : Lexeme word behind) : ∀ c ∈ word.head?, isBlank c = false := by
  intro c hc
  cases h with
  | bare _ solid => exact solid c (List.mem_of_mem_head? hc)
  | closed opens => exact Option.some.inj hc ▸ Text.not_isBlank_of_isQuote opens
  | unclosed opens => exact Option.some.inj hc ▸ Text.not_isBlank_of_isQuote opens

/-- A word in front of white space is a token. -/
theorem of_bare (hne : word ≠ []) (quote : ∀ c ∈ word.head?, isQuote c = false)
    (solid : ∀ c ∈ word, isBlank c = false) (ends : ∀ d ∈ behind.head?, isBlank d = true) :
    Lexeme word behind := by
  obtain ⟨c, cs, rfl⟩ := List.exists_cons_of_ne_nil hne
  exact .bare (quote c rfl) solid ends

/-- In front of less it is a token too. -/
theorem of_append {rest : List Char} (h : Lexeme word (behind ++ rest)) : Lexeme word behind := by
  generalize hb : behind ++ rest = more at h
  cases h with
  | bare quote solid ends =>
    refine .bare quote solid fun d hd => ends d ?_
    rw [← hb, List.head?_append, Option.mem_def.mp hd, Option.some_or]
    rfl
  | closed opens unclosed closes => exact .closed opens unclosed closes
  | unclosed opens unclosed =>
    obtain ⟨rfl, -⟩ := List.append_eq_nil_iff.mp hb
    exact .unclosed opens unclosed

/-- If something stands behind the token, white space may stand there instead. -/
theorem of_ne_nil {more : List Char} (h : Lexeme word behind) (hne : behind ≠ [])
    (hmore : ∀ d ∈ more.head?, isBlank d = true) : Lexeme word more := by
  cases h with
  | bare quote solid _ => exact .bare quote solid hmore
  | closed opens unclosed closes => exact .closed opens unclosed closes
  | unclosed => exact absurd rfl hne

/-- Characters of which the first is not white space start with a token. -/
theorem exists_append {c : Char} (hc : isBlank c = false) (cs : List Char) :
    ∃ word behind, c :: cs = word ++ behind ∧ Lexeme word behind := by
  by_cases hq : isQuote c = true
  · rcases Text.unclosed_or_exists_closing c cs with h | ⟨inner, behind, rfl, hinner, hclosing⟩
    · exact ⟨c :: cs, [], (List.append_nil _).symm, .unclosed hq h⟩
    · exact ⟨c :: (inner ++ [c]), behind, by simp, .closed hq hinner hclosing⟩
  · refine ⟨c :: cs.takeWhile (!isBlank ·), cs.dropWhile (!isBlank ·), ?_,
      .bare (Bool.of_not_eq_true hq) ?_ ?_⟩
    · rw [List.cons_append, List.takeWhile_append_dropWhile]
    · refine List.forall_mem_cons.mpr ⟨hc, fun d hd => ?_⟩
      simpa using List.mem_takeWhile_imp hd
    · intro d hd
      have hlast := List.head?_dropWhile_not (!isBlank ·) cs
      rw [Option.mem_def.mp hd] at hlast
      simpa using hlast

end Lexeme

/-! ### What the reader gives -/

namespace Lexer

/-- White space between tokens is skipped. -/
theorem run_blank {gap : List Char} (h : ∀ c ∈ gap, isBlank c = true) (pos : Nat)
    (behind : List Char) :
    between.run pos (gap ++ behind) = between.run (pos + size gap) behind := by
  induction gap generalizing pos with
  | nil => rfl
  | cons c cs ih =>
    rw [List.forall_mem_cons] at h
    have hstep : between.step pos c = (between, []) := by rw [step, if_pos h.1]
    rw [List.cons_append, run_cons, hstep, ih h.2, Text.size_cons, Nat.add_assoc]
    rfl

/-- Characters that are not white space are kept in a bare token. -/
theorem scan_bare {cs : List Char} (h : ∀ c ∈ cs, isBlank c = false) (start pos : Nat)
    (read : List Char) : (bare start read).scan pos cs = (bare start (read ++ cs), []) := by
  induction cs generalizing pos read with
  | nil => rw [scan, List.append_nil]
  | cons c cs ih =>
    rw [List.forall_mem_cons] at h
    have hstep : (bare start read).step pos c = (bare start (read ++ [c]), []) := by
      simp [step, h.1]
    rw [scan_cons, hstep, ih h.2, List.nil_append, List.append_assoc]
    rfl

/-- Inside quotes characters are kept up to a quote that is not escaped. -/
theorem scan_quoted {quote : Char} {inner cs : List Char} (h : Unclosed quote (inner ++ cs))
    (start pos : Nat) :
    (quoted quote (endsEscaped inner) start (quote :: inner)).scan pos cs =
      (quoted quote (endsEscaped (inner ++ cs)) start (quote :: (inner ++ cs)), []) := by
  induction cs generalizing inner pos with
  | nil => rw [List.append_nil]; rfl
  | cons c cs ih =>
    have hstep : (quoted quote (endsEscaped inner) start (quote :: inner)).step pos c =
        (quoted quote (endsEscaped (inner ++ [c])) start (quote :: (inner ++ [c])), []) := by
      rw [step, Text.endsEscaped_concat]
      cases hesc : endsEscaped inner with
      | true => simp
      | false =>
        have hc : (c == quote) = false := beq_eq_false_iff_ne.mpr fun hc => by
          rw [h inner cs (hc ▸ rfl)] at hesc
          cases hesc
        simp [hc]
    rw [List.append_cons] at h ⊢
    rw [scan_cons, hstep, ih h]
    rfl

/-- Behind an opening quote the reader is inside quotes. -/
theorem step_quote {quote : Char} (h : isQuote quote = true) (pos : Nat) :
    between.step pos quote = (quoted quote (endsEscaped []) pos [quote], []) := by
  rw [step, if_neg (by simp [Text.not_isBlank_of_isQuote h]), if_pos h]
  rfl

/-- The characters of a token are read as that token. -/
theorem run_lexeme {word behind : List Char} (h : Lexeme word behind) (pos : Nat) :
    between.run pos (word ++ behind) =
      ⟨String.ofList word, pos⟩ :: between.run (pos + size word) behind := by
  cases h with
  | @bare c cs behind quote solid ends =>
    rw [List.forall_mem_cons] at solid
    have hstep : between.step pos c = (bare pos [c], []) := by
      rw [step, if_neg (by simp [solid.1]), if_neg (by simp [quote])]
    rw [List.cons_append, run_cons, hstep, run_append, scan_bare solid.2, List.nil_append,
      List.nil_append, List.singleton_append, Text.size_cons, Nat.add_assoc]
    cases behind with
    | nil => rfl
    | cons d ds =>
      have hd := ends d rfl
      have hends : (bare pos (c :: cs)).step (pos + (c.utf8Size + size cs)) d =
          (between, [⟨String.ofList (c :: cs), pos⟩]) := by rw [step, if_pos hd]
      have hskip : between.step (pos + (c.utf8Size + size cs)) d = (between, []) := by
        rw [step, if_pos hd]
      rw [run_cons, hends, run_cons, hskip]
      rfl
  | @closed quote inner behind opens unclosed closes =>
    have hclose (next : Nat) : (quoted quote false pos (quote :: inner)).step next quote =
        (between, [⟨String.ofList (quote :: (inner ++ [quote])), pos⟩]) := by simp [step]
    have hscan := @scan_quoted quote [] inner unclosed pos (pos + quote.utf8Size)
    rw [List.nil_append, closes] at hscan
    rw [List.cons_append, List.append_assoc, run_cons, step_quote opens, run_append, hscan,
      List.singleton_append, run_cons, hclose]
    simp only [List.nil_append, List.singleton_append, Text.size_cons, Text.size_append,
      Text.size_nil, Nat.add_assoc, Nat.add_zero]
  | @unclosed quote inner opens unclosed =>
    have hscan := @scan_quoted quote [] inner unclosed pos (pos + quote.utf8Size)
    rw [List.append_nil, run_cons, step_quote opens, run_eq_scan, hscan]
    rfl

end Lexer

namespace Tiles

variable {pos : Nat} {cs : List Char} {ts : List Token}

theorem run_eq (h : Tiles pos cs ts) : Lexer.between.run pos cs = ts := by
  induction h with
  | @blank pos gap blank =>
    rw [← List.append_nil gap, Lexer.run_blank blank]
    rfl
  | token blank lexeme _ ih => rw [Lexer.run_blank blank, Lexer.run_lexeme lexeme, ih]

/-- All characters can be tiled, token by token. -/
theorem exists_tiles (pos : Nat) (cs : List Char) : ∃ ts, Tiles pos cs ts := by
  induction hn : cs.length using Nat.strongRecOn generalizing pos cs with
  | ind n ih =>
    have hsplit : cs = cs.takeWhile isBlank ++ cs.dropWhile isBlank :=
      List.takeWhile_append_dropWhile.symm
    have hblank : ∀ c ∈ cs.takeWhile isBlank, isBlank c = true := fun c => List.mem_takeWhile_imp
    cases hrest : cs.dropWhile isBlank with
    | nil =>
      rw [hrest, List.append_nil] at hsplit
      exact ⟨[], .blank (hsplit ▸ hblank)⟩
    | cons c rest =>
      have hc : isBlank c = false := by
        have hhead := List.head?_dropWhile_not isBlank cs
        rw [hrest] at hhead
        simpa using hhead
      obtain ⟨word, behind, hword, lexeme⟩ := Lexeme.exists_append hc rest
      rw [hrest, hword] at hsplit
      have hlt : behind.length < n := by
        have := List.length_pos_iff.mpr lexeme.ne_nil
        rw [← hn, hsplit, List.length_append, List.length_append]
        omega
      obtain ⟨ts, rest⟩ := ih _ hlt (pos + size (cs.takeWhile isBlank) + size word) behind rfl
      rw [hsplit]
      exact ⟨_, token hblank lexeme rest⟩

/-- The reader gives the tokens that tile the characters, and no others do. -/
theorem iff_run_eq : Tiles pos cs ts ↔ Lexer.between.run pos cs = ts := by
  refine ⟨run_eq, ?_⟩
  rintro rfl
  obtain ⟨ts, h⟩ := exists_tiles pos cs
  exact h.run_eq ▸ h

/-! ### Where the tokens stand -/

/-- Every token is a piece of the characters, at the position that it tells. -/
theorem exists_of_mem (h : Tiles pos cs ts) {t : Token} (ht : t ∈ ts) :
    ∃ before word behind, cs = before ++ (word ++ behind) ∧ Lexeme word behind ∧
      t = ⟨String.ofList word, pos + size before⟩ := by
  induction h with
  | blank => cases ht
  | @token pos gap word behind ts _ lexeme _ ih =>
    rcases List.mem_cons.mp ht with rfl | ht
    · exact ⟨gap, word, behind, rfl, lexeme, rfl⟩
    · obtain ⟨before, next, rest, rfl, hnext, rfl⟩ := ih ht
      refine ⟨gap ++ (word ++ before), next, rest, by simp only [List.append_assoc], hnext, ?_⟩
      simp only [Text.size_append, Nat.add_assoc]

/-- No token starts before the one in front of it ends. -/
theorem pairwise (h : Tiles pos cs ts) : ts.Pairwise fun t u => t.stop ≤ u.start := by
  induction h with
  | blank => exact .nil
  | @token pos gap word behind ts _ lexeme rest ih =>
    refine .cons (fun u hu => ?_) ih
    obtain ⟨before, next, more, -, -, rfl⟩ := rest.exists_of_mem hu
    rw [Token.stop, Text.utf8ByteSize_ofList]
    exact Nat.le_add_right _ _

/-- What is in no token is white space. -/
theorem isBlank_of_outside (h : Tiles pos cs ts) {before behind : List Char} {c : Char}
    (hcs : cs = before ++ c :: behind)
    (hout : ∀ t ∈ ts, pos + size before < t.start ∨ t.stop ≤ pos + size before) :
    isBlank c = true := by
  induction h generalizing before with
  | blank blank => exact blank c (hcs ▸ List.mem_append_right before List.mem_cons_self)
  | @token pos gap word more ts blank lexeme rest ih =>
    rcases first_or_second_of_append_eq hcs with ⟨tail, rfl⟩ | ⟨front, rfl, hword⟩
    · exact blank c (List.mem_append_right before List.mem_cons_self)
    rw [List.forall_mem_cons, Token.stop, Text.utf8ByteSize_ofList, Text.size_append,
      ← Nat.add_assoc] at hout
    rcases first_or_second_of_append_eq hword with ⟨tail, rfl⟩ | ⟨last, rfl, hmore⟩
    · have hc := c.utf8Size_pos
      have hin := hout.1
      simp only [Text.size_append, Text.size_cons] at hin
      omega
    · rw [Text.size_append, ← Nat.add_assoc] at hout
      exact ih hmore hout.2

/-- There are no more tokens than characters. -/
theorem length_le (h : Tiles pos cs ts) : ts.length ≤ cs.length := by
  induction h with
  | blank => exact Nat.zero_le _
  | @token pos gap word behind ts _ lexeme _ ih =>
    have := List.length_pos_iff.mpr lexeme.ne_nil
    simp only [List.length_cons, List.length_append]
    omega

end Tiles

/-! ### Pieces of a line by their bytes -/

/-- The text is what stands between two positions of the line, neither of which is inside a
character. -/
structure Text.IsPiece (line : String) (start stop : Nat) (text : String) : Prop where
  start_isValid : String.Pos.Raw.IsValid line ⟨start⟩
  stop_isValid : String.Pos.Raw.IsValid line ⟨stop⟩
  bytes : text.toByteArray = line.toByteArray.extract start stop

/-- A text is a piece of the line in which it stands. -/
theorem Text.isPiece_append (before text behind : String) :
    IsPiece (before ++ (text ++ behind)) before.utf8ByteSize
      (before.utf8ByteSize + text.utf8ByteSize) text where
  start_isValid := String.Pos.Raw.isValid_rawEndPos.append_right _
  stop_isValid := by
    have h : String.Pos.Raw.IsValid (before ++ text) ⟨before.utf8ByteSize + text.utf8ByteSize⟩ :=
      String.Pos.Raw.isValid_of_eq_rawEndPos (by rw [← String.utf8ByteSize_append]; rfl)
    rw [← String.append_assoc]
    exact h.append_right behind
  bytes := by
    rw [String.toByteArray_append, String.toByteArray_append, ← String.size_toByteArray,
      ← String.size_toByteArray]
    have h := @ByteArray.extract_append_size_add before.toByteArray
      (text.toByteArray ++ behind.toByteArray) 0 text.toByteArray.size
    rw [Nat.add_zero] at h
    rw [h, ByteArray.extract_append_eq_left rfl]

namespace Line

/-- The tokens and the white space around them make up the line. -/
structure Tiled (l : Line) : Prop where
  length_le : l.tokens.length ≤ l.input.toList.length
  isPiece : ∀ t ∈ l.tokens, Text.IsPiece l.input t.start t.stop t.text
  ne_empty : ∀ t ∈ l.tokens, t.text ≠ ""
  pairwise : l.tokens.Pairwise fun t u => t.stop ≤ u.start
  /-- What is in no token is white space. -/
  isBlank_of_outside : ∀ before c behind, l.input.toList = before ++ c :: behind →
    (∀ t ∈ l.tokens, size before < t.start ∨ t.stop ≤ size before) → isBlank c = true
  not_isBlank_head : ∀ t ∈ l.tokens, ∀ c ∈ t.text.toList.head?, isBlank c = false
  bare : ∀ t ∈ l.tokens, (∀ c ∈ t.text.toList.head?, isQuote c = false) →
    ∀ c ∈ t.text.toList, isBlank c = false
  /-- A quoted token ends with the first quote of its kind that is not escaped, or else where the
  line ends. -/
  quoted : ∀ t ∈ l.tokens, ∀ quote cs, t.text.toList = quote :: cs → isQuote quote = true →
    (∃ inner, cs = inner ++ [quote] ∧ Unclosed quote inner ∧ endsEscaped inner = false) ∨
      (Unclosed quote cs ∧ t.stop = l.input.utf8ByteSize)
  parsed : ∀ matched, Text.IsPiece l.input 0 (l.cursor matched) (l.parsed matched)
  remaining : ∀ matched,
    Text.IsPiece l.input (l.cursor matched) l.input.utf8ByteSize (l.remaining matched)
  parsed_append_remaining : ∀ matched, l.parsed matched ++ l.remaining matched = l.input
  cursor_le : ∀ matched more, matched ≤ more → l.cursor matched ≤ l.cursor more

theorem tiles_read (input : String) : Tiles 0 input.toList (read input).tokens :=
  Tiles.iff_run_eq.mpr rfl

/-- A line that begins with a token reads as the token and what is behind it. -/
theorem tokens_of_lexeme {word rest : String} (h : Lexeme word.toList rest.toList) :
    (read (word ++ rest)).tokens =
      ⟨word, 0⟩ :: (read rest).tokens.map (Token.shift word.utf8ByteSize) := by
  have hshift := Lexer.run_shift word.utf8ByteSize .between 0 rest.toList
  have hrun := Lexer.run_lexeme h 0
  rw [← String.toList_append, String.ofList_toList] at hrun
  rw [read, hrun, ← Text.utf8ByteSize_ofList, String.ofList_toList]
  exact congrArg _ hshift

/-- Every token stands in the line where it tells, in front of what is left of the line. -/
theorem exists_lexeme {input : String} {t : Token} (ht : t ∈ (read input).tokens) :
    ∃ before behind, input = String.ofList before ++ (t.text ++ String.ofList behind) ∧
      t.start = (String.ofList before).utf8ByteSize ∧ Lexeme t.text.toList behind := by
  obtain ⟨before, word, behind, hinput, hword, rfl⟩ := (tiles_read input).exists_of_mem ht
  refine ⟨before, behind, ?_, ?_, ?_⟩
  · rw [← String.toList_inj, hinput]
    simp
  · rw [Text.utf8ByteSize_ofList]
    exact Nat.zero_add _
  · rw [String.toList_ofList]
    exact hword

theorem isPiece_of_mem {input : String} {t : Token} (ht : t ∈ (read input).tokens) :
    Text.IsPiece input t.start t.stop t.text := by
  obtain ⟨before, behind, hinput, hstart, -⟩ := exists_lexeme ht
  rw [Token.stop, hstart, hinput]
  exact Text.isPiece_append _ _ _

/-- The line is cut at the cursor. -/
theorem cut_of_cursor (input : String) (matched : Nat) :
    (read input).parsed matched ++ (read input).remaining matched = input ∧
      ((read input).parsed matched).utf8ByteSize = (read input).cursor matched := by
  cases ht : (read input).tokens[matched]? with
  | some t =>
    obtain ⟨happend, hsize, -⟩ := cut_of_token ht
    refine ⟨happend, hsize.trans ?_⟩
    rw [cursor, ht]
  | none =>
    obtain ⟨hparsed, hremaining⟩ := cut_of_end ht
    rw [hparsed, hremaining, cursor, ht]
    exact ⟨String.append_empty, rfl⟩

theorem isPiece_parsed (input : String) (matched : Nat) :
    Text.IsPiece input 0 ((read input).cursor matched) ((read input).parsed matched) := by
  obtain ⟨happend, hsize⟩ := cut_of_cursor input matched
  have h := Text.isPiece_append "" ((read input).parsed matched) ((read input).remaining matched)
  rw [String.empty_append, happend, String.utf8ByteSize_empty, Nat.zero_add, hsize] at h
  exact h

theorem isPiece_remaining (input : String) (matched : Nat) :
    Text.IsPiece input ((read input).cursor matched) input.utf8ByteSize
      ((read input).remaining matched) := by
  obtain ⟨happend, hsize⟩ := cut_of_cursor input matched
  have h := Text.isPiece_append ((read input).parsed matched) ((read input).remaining matched) ""
  rw [String.append_empty, ← String.utf8ByteSize_append, happend, hsize] at h
  exact h

/-- The cursor does not go back when more tokens are matched. -/
theorem cursor_le_cursor (input : String) {matched more : Nat} (h : matched ≤ more) :
    (read input).cursor matched ≤ (read input).cursor more := by
  cases hm : (read input).tokens[more]? with
  | none =>
    have hend : (read input).cursor more = input.utf8ByteSize := by
      rw [cursor, hm]
      rfl
    exact hend ▸ (isPiece_parsed input matched).stop_isValid.le_utf8ByteSize
  | some u =>
    obtain ⟨hlt, hu⟩ := List.getElem?_eq_some_iff.mp hm
    rw [cursor, cursor, hm, List.getElem?_eq_getElem (Nat.lt_of_le_of_lt h hlt)]
    rcases Nat.eq_or_lt_of_le h with rfl | hlt'
    · rw [hu]
    · have hstop := List.pairwise_iff_getElem.mp (tiles_read input).pairwise matched more
        (Nat.lt_of_le_of_lt h hlt) hlt hlt'
      rw [hu] at hstop
      exact Nat.le_trans (Nat.le_add_right _ _) hstop

/-- A token in quotes reaches to the first quote that closes it, or to the end of the line. -/
theorem closed_or_open_of_mem {input : String} {t : Token} (ht : t ∈ (read input).tokens)
    {quote : Char} {cs : List Char} (htext : t.text.toList = quote :: cs)
    (hquote : isQuote quote = true) :
    (∃ inner, cs = inner ++ [quote] ∧ Unclosed quote inner ∧ endsEscaped inner = false) ∨
      (Unclosed quote cs ∧ t.stop = input.utf8ByteSize) := by
  obtain ⟨before, behind, hinput, hstart, lexeme⟩ := exists_lexeme ht
  rw [htext] at lexeme
  cases lexeme with
  | bare hbare => cases hbare.symm.trans hquote
  | closed _ unclosed closes => exact .inl ⟨_, rfl, unclosed, closes⟩
  | unclosed _ unclosed =>
    refine .inr ⟨unclosed, ?_⟩
    rw [Token.stop, hstart, hinput, String.ofList_nil, String.append_empty,
      String.utf8ByteSize_append]

/-- A line that is read is tiled by its tokens. -/
theorem read_tiled (input : String) : (read input).input = input ∧ (read input).Tiled where
  left := rfl
  right := {
    length_le := (tiles_read input).length_le
    isPiece _ ht := isPiece_of_mem ht
    ne_empty _ ht := text_ne_empty ht
    pairwise := (tiles_read input).pairwise
    isBlank_of_outside _ _ _ hinput hout :=
      (tiles_read input).isBlank_of_outside hinput fun t ht => by
        rw [Nat.zero_add]
        exact hout t ht
    not_isBlank_head _ ht := by
      obtain ⟨_, _, -, -, lexeme⟩ := exists_lexeme ht
      exact lexeme.not_isBlank_head
    bare t ht hbare := by
      obtain ⟨_, _, -, -, lexeme⟩ := exists_lexeme ht
      generalize t.text.toList = word at hbare lexeme
      cases lexeme with
      | bare _ solid => exact solid
      | closed opens => cases (hbare _ rfl).symm.trans opens
      | unclosed opens => cases (hbare _ rfl).symm.trans opens
    quoted _ ht _ _ htext hquote := closed_or_open_of_mem ht htext hquote
    parsed := isPiece_parsed input
    remaining := isPiece_remaining input
    parsed_append_remaining matched := (cut_of_cursor input matched).1
    cursor_le _ _ h := cursor_le_cursor input h }

end Line

end CommandGrammar
