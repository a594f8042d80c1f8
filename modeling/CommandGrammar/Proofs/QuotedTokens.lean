import CommandGrammar.Proofs.Conversion
import CommandGrammar.Proofs.Converting
import CommandGrammar.Proofs.Quoting

/-! Tokens in quotes as values. Where a text in quotes ends is decided three times: by the reader of
lines, by the pattern of the kind, and when the quotes are taken off. On a line without line breaks
all three agree. What stands between the quotes is written character by character, with a backslash
in front or without one, and there each of them finds the same closing quote. -/

namespace CommandGrammar

open Text (isQuote isWordChar endsEscaped Unclosed)

/-! ### What stands between quotes -/

namespace Text

/-- The characters as they are written between quotes, and those that are meant. A backslash goes
with the character behind it; no other character is a backslash or the quote itself. -/
inductive Quotes (quote : Char) : List Char → List Char → Prop
  | nil : Quotes quote [] []
  | plain {c : Char} {written meant : List Char} (hquote : c ≠ quote) (hbackslash : c ≠ '\\')
      (rest : Quotes quote written meant) : Quotes quote (c :: written) (c :: meant)
  | escaped (c : Char) {written meant : List Char} (rest : Quotes quote written meant) :
      Quotes quote ('\\' :: c :: written) (c :: meant)

/-- A character that is no backslash escapes nothing behind it, … -/
theorem endsEscaped_cons {c : Char} (h : c ≠ '\\') (cs : List Char) :
    endsEscaped (c :: cs) = endsEscaped cs := by
  have hone : endsEscaped [c] = false := by
    rw [← List.nil_append [c], endsEscaped_concat, beq_eq_false_iff_ne.mpr h, Bool.false_and]
  exact endsEscaped_append hone cs

/-- … and a backslash only the next character. -/
theorem endsEscaped_backslash (c : Char) (cs : List Char) :
    endsEscaped ('\\' :: c :: cs) = endsEscaped cs := by
  have htwo : endsEscaped ['\\', c] = false := by
    rw [← List.singleton_append, endsEscaped_concat, show endsEscaped ['\\'] = true from rfl,
      Bool.not_true, Bool.and_false]
  exact endsEscaped_append htwo cs

theorem unclosed_cons_iff {quote c : Char} (h : c ≠ '\\') {cs : List Char} :
    Unclosed quote (c :: cs) ↔ c ≠ quote ∧ Unclosed quote cs := by
  constructor
  · intro hall
    refine ⟨?_, ?_⟩
    · rintro rfl
      exact absurd (hall [] cs rfl) Bool.false_ne_true
    · rintro before behind rfl
      rw [← endsEscaped_cons h]
      exact hall (c :: before) behind rfl
  · rintro ⟨hne, hall⟩ before behind heq
    rcases List.cons_eq_append_iff.mp heq with ⟨rfl, hhead⟩ | ⟨before, rfl, hcs⟩
    · exact absurd (List.cons.inj hhead).1.symm hne
    · rw [endsEscaped_cons h]
      exact hall before behind hcs

theorem unclosed_backslash_iff {quote c : Char} (h : quote ≠ '\\') {cs : List Char} :
    Unclosed quote ('\\' :: c :: cs) ↔ Unclosed quote cs := by
  constructor
  · rintro hall before behind rfl
    rw [← endsEscaped_backslash c]
    exact hall ('\\' :: c :: before) behind rfl
  · intro hall before behind heq
    rcases List.cons_eq_append_iff.mp heq with ⟨rfl, hhead⟩ | ⟨before, rfl, hrest⟩
    · exact absurd (List.cons.inj hhead).1 h
    · rcases List.cons_eq_append_iff.mp hrest with ⟨rfl, -⟩ | ⟨before, rfl, hcs⟩
      · rfl
      · rw [endsEscaped_backslash]
        exact hall before behind hcs

namespace Quotes

variable {quote : Char} {written meant : List Char}

/-- Taking the backslashes away leaves what is meant. -/
theorem dropEscapes_eq (h : Quotes quote written meant) : dropEscapes written = meant := by
  induction h with
  | nil => rfl
  | plain _ hbackslash _ ih => rw [dropEscapes_cons hbackslash, ih]
  | escaped c _ ih => rw [dropEscapes_backslash, ih]

/-- A quote behind what is written is not escaped, and each one in it is. -/
theorem unclosed (hquote : quote ≠ '\\') (h : Quotes quote written meant) :
    Unclosed quote written ∧ endsEscaped written = false := by
  induction h with
  | nil => exact ⟨.nil quote, rfl⟩
  | plain hne hbackslash _ ih =>
    exact ⟨(unclosed_cons_iff hbackslash).mpr ⟨hne, ih.1⟩,
      (endsEscaped_cons hbackslash _).trans ih.2⟩
  | escaped c _ ih =>
    exact ⟨(unclosed_backslash_iff hquote).mpr ih.1, (endsEscaped_backslash c _).trans ih.2⟩

/-- All characters are so written if each quote among them is escaped and a quote behind them is
not. -/
theorem exists_of_unclosed (hquote : quote ≠ '\\') (h : Unclosed quote written)
    (hcloses : endsEscaped written = false) : ∃ meant, Quotes quote written meant := by
  induction written using dropEscapes.induct with
  | case1 => exact ⟨[], .nil⟩
  | case2 c hc =>
    obtain rfl := beq_iff_eq.mp hc
    cases hcloses
  | case3 c hc =>
    have hc : c ≠ '\\' := by simpa using hc
    exact ⟨[c], .plain ((unclosed_cons_iff hc).mp h).1 hc .nil⟩
  | case4 c d rest hc ih =>
    obtain rfl := beq_iff_eq.mp hc
    rw [endsEscaped_backslash] at hcloses
    obtain ⟨meant, hrest⟩ := ih ((unclosed_backslash_iff hquote).mp h) hcloses
    exact ⟨d :: meant, .escaped d hrest⟩
  | case5 c d rest hc ih =>
    have hc : c ≠ '\\' := by simpa using hc
    rw [endsEscaped_cons hc] at hcloses
    obtain ⟨hne, hall⟩ := (unclosed_cons_iff hc).mp h
    obtain ⟨meant, hrest⟩ := ih hall hcloses
    exact ⟨c :: meant, .plain hne hc hrest⟩

end Quotes

/-- The text is closed quotes with something between them. -/
def Enclosed (text meant : List Char) : Prop :=
  ∃ quote inner, isQuote quote = true ∧ text = quote :: (inner ++ [quote]) ∧
    Quotes quote inner meant

theorem exists_enclosed_iff {quote : Char} {cs : List Char} (hquote : isQuote quote = true) :
    (∃ meant, Enclosed (quote :: cs) meant) ↔
      ∃ inner, cs = inner ++ [quote] ∧ Unclosed quote inner ∧ endsEscaped inner = false := by
  have hne := ne_backslash_of_isQuote hquote
  constructor
  · rintro ⟨meant, _, inner, -, htext, hinner⟩
    obtain ⟨rfl, rfl⟩ := List.cons.inj htext
    exact ⟨inner, rfl, hinner.unclosed hne⟩
  · rintro ⟨inner, rfl, hunclosed, hcloses⟩
    obtain ⟨meant, hinner⟩ := Quotes.exists_of_unclosed hne hunclosed hcloses
    exact ⟨meant, quote, inner, hquote, rfl, hinner⟩

/-- Without quotes and backslashes the text is what is meant. -/
theorem Enclosed.unquote_eq {text : String} {meant : List Char} (h : Enclosed text.toList meant) :
    unquote text = String.ofList meant := by
  obtain ⟨quote, inner, hquote, htext, hinner⟩ := h
  have hcloses := (hinner.unclosed (ne_backslash_of_isQuote hquote)).2
  rw [unquote, htext, unquoteChars, if_pos hquote, dropClosing_concat hcloses,
    hinner.dropEscapes_eq]

/-- A word is not in quotes. -/
theorem unquote_of_word {text : String} (h : ∀ c ∈ text.toList, isWordChar c = true) :
    unquote text = text := by
  have hquotes : isWordChar '\'' = false ∧ isWordChar '"' = false := by decide +kernel
  rw [unquote]
  cases htext : text.toList with
  | nil => rw [unquoteChars, ← htext, String.ofList_toList]
  | cons c cs =>
    have hc : isWordChar c = true := h c (htext ▸ List.mem_cons_self)
    have hnot : ¬isQuote c = true := by
      rw [isQuote_iff]
      rintro (rfl | rfl)
      · rw [hquotes.1] at hc
        cases hc
      · rw [hquotes.2] at hc
        cases hc
    rw [unquoteChars, if_neg hnot, ← htext, String.ofList_toList]

end Text

open Text (Quotes Enclosed)

/-! ### The pattern -/

namespace Expr

variable {quote : Char} {before behind : Option Char} {w : List Char}

theorem exists_quotes_of_rounds {n : Nat}
    (h : Rounds (betweenQuotes quote).Matches n before w behind) :
    ∃ meant, Quotes quote w meant := by
  induction h with
  | none => exact ⟨[], .nil⟩
  | more first _ ih =>
    obtain ⟨meant, hrest⟩ := ih
    rcases matches_betweenQuotes.mp first with ⟨c, rfl, hquote, hbackslash⟩ | ⟨c, rfl, -⟩
    · exact ⟨c :: meant, .plain hquote hbackslash hrest⟩
    · exact ⟨c :: meant, .escaped c hrest⟩

/-- Only a line break cannot be escaped in the pattern. -/
theorem exists_rounds_of_quotes {meant : List Char} (h : Quotes quote w meant) (hline : '\n' ∉ w)
    (before behind : Option Char) :
    ∃ n, Rounds (betweenQuotes quote).Matches n before w behind := by
  induction h generalizing before with
  | nil => exact ⟨0, .none⟩
  | @plain c written meant hquote hbackslash _ ih =>
    obtain ⟨n, hrest⟩ := ih (List.not_mem_of_not_mem_cons hline) (some c)
    exact ⟨n + 1, .more (u := [c]) (matches_betweenQuotes.mpr (.inl ⟨c, rfl, hquote, hbackslash⟩))
      hrest⟩
  | @escaped c written meant _ ih =>
    have htail := List.not_mem_of_not_mem_cons hline
    obtain ⟨n, hrest⟩ := ih (List.not_mem_of_not_mem_cons htail) (some c)
    have hc : c ≠ '\n' := (List.ne_of_not_mem_cons htail).symm
    exact ⟨n + 1, .more (u := ['\\', c]) (matches_betweenQuotes.mpr (.inr ⟨c, rfl, hc⟩)) hrest⟩

theorem matches_inQuotes_iff (hline : '\n' ∉ w) :
    (inQuotes quote).Matches before w behind ↔
      ∃ inner meant, w = quote :: (inner ++ [quote]) ∧ Quotes quote inner meant := by
  constructor
  · rintro ⟨u, rest, rfl, hu, inner, v, rfl, ⟨n, -, -, hrounds⟩, hv⟩
    obtain rfl := matches_single.mp hu
    obtain rfl := matches_single.mp hv
    obtain ⟨meant, hinner⟩ := exists_quotes_of_rounds hrounds
    exact ⟨inner, meant, rfl, hinner⟩
  · rintro ⟨inner, meant, rfl, hinner⟩
    have hline : '\n' ∉ inner := fun h =>
      hline (List.mem_cons_of_mem _ (List.mem_append_left _ h))
    obtain ⟨n, hrounds⟩ := exists_rounds_of_quotes hinner hline _ _
    exact ⟨[quote], inner ++ [quote], rfl, matches_single.mpr rfl, inner, [quote], rfl,
      ⟨n, Nat.zero_le n, nofun, hrounds⟩, matches_single.mpr rfl⟩

/-- The pattern matches words, and what is between closed quotes of either kind. -/
theorem matches_wordOrQuoted_iff (hline : '\n' ∉ w) :
    wordOrQuoted.Matches before w behind ↔
      1 ≤ w.length ∧ (∀ c ∈ w, isWordChar c = true) ∨ ∃ meant, Enclosed w meant := by
  refine or_congr matches_rep_chars_iff ?_
  constructor
  · rintro (h | h)
    all_goals
      obtain ⟨inner, meant, hw, hinner⟩ := (matches_inQuotes_iff hline).mp h
      exact ⟨meant, _, inner, rfl, hw, hinner⟩
  · rintro ⟨meant, quote, inner, hquote, hw, hinner⟩
    rcases Text.isQuote_iff.mp hquote with rfl | rfl
    · exact .inr ((matches_inQuotes_iff hline).mpr ⟨inner, meant, hw, hinner⟩)
    · exact .inl ((matches_inQuotes_iff hline).mpr ⟨inner, meant, hw, hinner⟩)

end Expr

/-! ### The reader of lines -/

/-- The token starts with a quote and the reader completes it before the end of the line, which it
does only at the closing quote. -/
def Token.ClosedIn (t : Token) (input : String) : Prop :=
  (∃ c ∈ t.text.toList.head?, isQuote c = true) ∧ t ∈ (Lexer.between.scan 0 input.toList).2

namespace Lexer

/-- What is read of a token is not in closed quotes yet. -/
def Pending : Lexer → Prop
  | between => True
  | bare _ read => ∃ c cs, read = c :: cs ∧ isQuote c = false
  | quoted quote escaped _ read => isQuote quote = true ∧
      ∃ inner, read = quote :: inner ∧ Unclosed quote inner ∧ escaped = endsEscaped inner

/-- The token is in closed quotes if it starts with a quote at all. -/
def Settled (t : Token) : Prop :=
  (∃ c ∈ t.text.toList.head?, isQuote c = true) → ∃ meant, Enclosed t.text.toList meant

theorem settled_bare {c : Char} {cs : List Char} (h : isQuote c = false) (start : Nat) :
    Settled ⟨String.ofList (c :: cs), start⟩ := by
  rintro ⟨d, hd, hquote⟩
  rw [String.toList_ofList] at hd
  cases hd
  cases h.symm.trans hquote

/-- A quote that is not escaped closes the token, and any other character is kept in it. -/
theorem Pending.step {lexer : Lexer} (h : lexer.Pending) (pos : Nat) (c : Char) :
    (lexer.step pos c).1.Pending ∧ ∀ t ∈ (lexer.step pos c).2, Settled t := by
  unfold Lexer.step
  split
  · split
    · exact ⟨trivial, nofun⟩
    · split
      · next hquote => exact ⟨⟨hquote, [], rfl, .nil c, rfl⟩, nofun⟩
      · next hquote => exact ⟨⟨c, [], rfl, eq_false_of_ne_true hquote⟩, nofun⟩
  · next start read =>
    obtain ⟨d, ds, rfl, hd⟩ := h
    split
    · exact ⟨trivial, List.forall_mem_singleton.mpr (settled_bare hd start)⟩
    · exact ⟨⟨d, ds ++ [c], rfl, hd⟩, nofun⟩
  · next quote escaped start read =>
    obtain ⟨hquote, inner, rfl, hunclosed, rfl⟩ := h
    split
    · next hescaped =>
      refine ⟨⟨hquote, inner ++ [c], rfl, hunclosed.concat fun _ => hescaped, ?_⟩, nofun⟩
      rw [Text.endsEscaped_concat, hescaped, Bool.not_true, Bool.and_false]
    · next hescaped =>
      have hcloses := eq_false_of_ne_true hescaped
      split
      · next hc =>
        obtain rfl := beq_iff_eq.mp hc
        refine ⟨trivial, List.forall_mem_singleton.mpr fun _ => ?_⟩
        rw [String.toList_ofList]
        exact (Text.exists_enclosed_iff hquote).mpr ⟨inner, rfl, hunclosed, hcloses⟩
      · next hc =>
        refine ⟨⟨hquote, inner ++ [c], rfl, hunclosed.concat fun heq => ?_, ?_⟩, nofun⟩
        · exact absurd (beq_iff_eq.mpr heq) hc
        · rw [Text.endsEscaped_concat, hcloses, Bool.not_false, Bool.and_true]

theorem Pending.scan {lexer : Lexer} (h : lexer.Pending) (pos : Nat) (cs : List Char) :
    (lexer.scan pos cs).1.Pending ∧ ∀ t ∈ (lexer.scan pos cs).2, Settled t := by
  induction cs generalizing lexer pos with
  | nil => exact ⟨h, nofun⟩
  | cons c cs ih =>
    obtain ⟨hnext, hdone⟩ := h.step pos c
    obtain ⟨hlast, hrest⟩ := ih hnext (pos + c.utf8Size)
    rw [scan_cons]
    exact ⟨hlast, List.forall_mem_append.mpr ⟨hdone, hrest⟩⟩

/-- A token that only the end of the line ends is not in closed quotes. -/
theorem Pending.not_enclosed {lexer : Lexer} (h : lexer.Pending) {t : Token} (ht : t ∈ lexer.finish)
    {meant : List Char} : ¬Enclosed t.text.toList meant := by
  intro henclosed
  cases lexer with
  | between => cases ht
  | bare start read =>
    obtain rfl := List.mem_singleton.mp ht
    obtain ⟨c, cs, rfl, hc⟩ := h
    obtain ⟨quote, inner, hquote, htext, -⟩ := henclosed
    rw [String.toList_ofList] at htext
    obtain ⟨rfl, -⟩ := List.cons.inj htext
    cases hc.symm.trans hquote
  | quoted quote escaped start read =>
    obtain rfl := List.mem_singleton.mp ht
    obtain ⟨hquote, inner, rfl, hunclosed, -⟩ := h
    rw [String.toList_ofList] at henclosed
    obtain ⟨front, rfl, -, hcloses⟩ := (Text.exists_enclosed_iff hquote).mp ⟨meant, henclosed⟩
    rw [hunclosed front [] rfl] at hcloses
    cases hcloses

end Lexer

/-- The reader finds the closing quote exactly of the tokens that are in closed quotes. -/
theorem Line.closedIn_iff {input : String} {t : Token} (ht : t ∈ (read input).tokens) :
    t.ClosedIn input ↔ ∃ meant, Enclosed t.text.toList meant := by
  have hbetween : Lexer.between.Pending := trivial
  obtain ⟨hlast, hdone⟩ := hbetween.scan 0 input.toList
  have hread : (read input).tokens = (Lexer.between.scan 0 input.toList).2 ++
      (Lexer.between.scan 0 input.toList).1.finish := Lexer.run_eq_scan _ _ _
  constructor
  · rintro ⟨hquote, hmem⟩
    exact hdone t hmem hquote
  · rintro ⟨meant, henclosed⟩
    refine ⟨?_, ?_⟩
    · obtain ⟨quote, inner, hquote, htext, -⟩ := henclosed
      exact ⟨quote, by rw [htext]; rfl, hquote⟩
    · rw [hread] at ht
      exact (List.mem_append.mp ht).resolve_right fun hopen => hlast.not_enclosed hopen henclosed

/-! ### The kind -/

namespace Kind

theorem convert?_quoted {name t : String} {v : Value} :
    quoted.convert? name t = some v ↔
      Expr.wordOrQuoted.Matches none t.toList none ∧ v = .str (Text.unquote t) := by
  rw [convert?_eq_some_iff Expr.bounded_wordOrQuoted rfl rfl]
  refine and_congr_right fun _ => ?_
  change Except.ok (Value.str (Text.unquote t)) = .ok v ↔ _
  rw [Except.ok.injEq, eq_comm]

/-- On a line without line breaks a variable for texts in quotes has a value for the tokens that are
words and for those of which the reader found the closing quote, and for no others. A word is its
own value. The value of a token in quotes is what is meant by the characters between them. -/
theorem quoted_value_of_token {input : String} (hline : '\n' ∉ input.toList) {t : Token}
    (ht : t ∈ (Line.read input).tokens) (name : String) :
    ((quoted.convert? name t.text).isSome = true ↔
      (∀ c ∈ t.text.toList, isWordChar c = true) ∨ t.ClosedIn input) ∧
    ((∀ c ∈ t.text.toList, isWordChar c = true) →
      quoted.convert? name t.text = some (.str t.text)) ∧
    (t.ClosedIn input → ∃ quote inner meant, isQuote quote = true ∧
      t.text.toList = quote :: (inner ++ [quote]) ∧ Quotes quote inner meant ∧
      quoted.convert? name t.text = some (.str (String.ofList meant))) := by
  have hnone : '\n' ∉ t.text.toList := by
    obtain ⟨before, behind, hinput, -⟩ := Line.exists_of_mem_tokens ht
    rw [hinput] at hline
    exact fun h => hline (List.mem_append_right _ (List.mem_append_left _ h))
  have hlength : 1 ≤ t.text.toList.length :=
    List.length_pos_of_ne_nil (mt String.toList_eq_nil_iff.mp (Line.text_ne_empty ht))
  have hmatches : Expr.wordOrQuoted.Matches none t.text.toList none ↔
      (∀ c ∈ t.text.toList, isWordChar c = true) ∨ t.ClosedIn input := by
    rw [Expr.matches_wordOrQuoted_iff hnone, and_iff_right hlength, Line.closedIn_iff ht]
  have hvalue (h : Expr.wordOrQuoted.Matches none t.text.toList none) :
      quoted.convert? name t.text = some (.str (Text.unquote t.text)) :=
    convert?_quoted.mpr ⟨h, rfl⟩
  refine ⟨?_, fun hword => ?_, fun hclosed => ?_⟩
  · rw [← hmatches, Option.isSome_iff_exists]
    exact ⟨fun ⟨_, hv⟩ => (convert?_quoted.mp hv).1, fun h => ⟨_, hvalue h⟩⟩
  · rw [hvalue (hmatches.mpr (.inl hword)), Text.unquote_of_word hword]
  · obtain ⟨meant, henclosed⟩ := (Line.closedIn_iff ht).mp hclosed
    rw [hvalue (hmatches.mpr (.inr hclosed)), henclosed.unquote_eq]
    obtain ⟨quote, inner, hquote, htext, hinner⟩ := henclosed
    exact ⟨quote, inner, meant, hquote, htext, hinner, rfl⟩

/-- A word, a token in quotes with escaped quotes and a backslash at its end, and quotes that are
never closed. -/
theorem quoted_value_of_token_line :
    let input := "é_1 \"a \\\"b\\\" \\\\\" 'c \\' d"
    '\n' ∉ input.toList ∧
    (Line.read input).tokens = [⟨"é_1", 0⟩, ⟨"\"a \\\"b\\\" \\\\\"", 5⟩, ⟨"'c \\' d", 18⟩] ∧
    quoted.convert? "s" "é_1" = some (.str "é_1") ∧
    quoted.convert? "s" "\"a \\\"b\\\" \\\\\"" = some (.str "a \"b\" \\") ∧
    ¬(quoted.convert? "s" "'c \\' d").isSome = true := by
  intro input
  have hline : '\n' ∉ input.toList := by decide +kernel
  have hread : (Line.read input).tokens =
      [⟨"é_1", 0⟩, ⟨"\"a \\\"b\\\" \\\\\"", 5⟩, ⟨"'c \\' d", 18⟩] := by decide +kernel
  have hmem (t : Token) (ht : t ∈ (Line.read input).tokens) :=
    quoted_value_of_token hline ht "s"
  rw [hread] at hmem
  obtain ⟨-, hword, -⟩ := hmem ⟨"é_1", 0⟩ (by decide)
  obtain ⟨-, -, hclosed⟩ := hmem ⟨"\"a \\\"b\\\" \\\\\"", 5⟩ (by decide)
  obtain ⟨hopen, -, -⟩ := hmem ⟨"'c \\' d", 18⟩ (by decide)
  refine ⟨hline, hread, hword (List.all_eq_true.mp (by decide +kernel)), ?_, ?_⟩
  · obtain ⟨_, _, meant, -, -, -, hvalue⟩ := hclosed ⟨⟨'"', rfl, rfl⟩, by decide +kernel⟩
    have hunquote : Text.unquote "\"a \\\"b\\\" \\\\\"" = "a \"b\" \\" := by decide
    rw [hvalue, (convert?_quoted.mp hvalue).2, hunquote]
  · rw [hopen]
    rintro (hletters | ⟨-, hdone⟩)
    · exact absurd (List.all_eq_true.mpr hletters) (by decide +kernel)
    · exact absurd hdone (by decide +kernel)

end Kind

end CommandGrammar
