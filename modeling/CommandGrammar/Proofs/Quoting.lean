import CommandGrammar.Kind.Word
import CommandGrammar.Proofs.Matching
import CommandGrammar.Proofs.Tiling

/-! Quoting a text and reading it back. What is quoted is read as one token, whatever white space
and other tokens are behind it. Taking the quotes off again gives the text, with the closing quote
or without it, and so does the kind of variables that are texts in quotes. -/

namespace CommandGrammar

open Text (isBlank isQuote forcesQuotes endsEscaped Unclosed)

/-! ### Escaping -/

namespace Text

/-- A character as it stands between quotes of the given kind. -/
def escapeChar (quote c : Char) : List Char := if c == quote || c == '\\' then ['\\', c] else [c]

theorem escapeChars_cons (quote c : Char) (cs : List Char) :
    escapeChars quote (c :: cs) = escapeChar quote c ++ escapeChars quote cs := by
  rw [escapeChars, escapeChar]
  split <;> rfl

theorem escapeChar_of_special {quote c : Char} (h : c = quote ∨ c = '\\') :
    escapeChar quote c = ['\\', c] := if_pos (by simpa using h)

theorem escapeChar_of_plain {quote c : Char} (h : ¬(c = quote ∨ c = '\\')) :
    escapeChar quote c = [c] := if_neg (by simpa using h)

theorem dropEscapes_backslash (c : Char) (cs : List Char) :
    dropEscapes ('\\' :: c :: cs) = c :: dropEscapes cs := rfl

theorem dropEscapes_cons {c : Char} (h : c ≠ '\\') (cs : List Char) :
    dropEscapes (c :: cs) = c :: dropEscapes cs := by
  have hc : ¬(c == '\\') = true := by simpa using h
  cases cs with
  | nil => exact if_neg hc
  | cons d cs => exact if_neg hc

theorem dropEscapes_escapeChars (quote : Char) (cs : List Char) :
    dropEscapes (escapeChars quote cs) = cs := by
  induction cs with
  | nil => rfl
  | cons c cs ih =>
    rw [escapeChars_cons]
    by_cases h : c = quote ∨ c = '\\'
    · rw [escapeChar_of_special h, List.cons_append, List.singleton_append, dropEscapes_backslash,
        ih]
    · rw [escapeChar_of_plain h, List.singleton_append,
        dropEscapes_cons fun hc => h (.inr hc), ih]

/-- Backslashes escape nothing beyond a place that is not escaped itself. -/
theorem endsEscaped_append {cs : List Char} (h : endsEscaped cs = false) (ds : List Char) :
    endsEscaped (cs ++ ds) = endsEscaped ds := by
  induction ds using List.reverseRecOn with
  | nil => rw [List.append_nil, h]; rfl
  | append_singleton ds d ih =>
    rw [← List.append_assoc, endsEscaped_concat, endsEscaped_concat, ih]

theorem Unclosed.append {quote : Char} {cs ds : List Char} (hcs : Unclosed quote cs)
    (hends : endsEscaped cs = false) (hds : Unclosed quote ds) : Unclosed quote (cs ++ ds) := by
  intro before behind h
  rcases first_or_second_of_append_eq h with ⟨rest, rfl⟩ | ⟨front, rfl, rfl⟩
  · exact hcs before rest rfl
  · rw [endsEscaped_append hends]
    exact hds front behind rfl

theorem endsEscaped_escapeChar (quote c : Char) : endsEscaped (escapeChar quote c) = false := by
  by_cases h : c = quote ∨ c = '\\'
  · rw [escapeChar_of_special h, ← List.singleton_append, endsEscaped_concat,
      show endsEscaped ['\\'] = true from rfl, Bool.not_true, Bool.and_false]
  · rw [escapeChar_of_plain h, ← List.nil_append [c], endsEscaped_concat,
      beq_eq_false_iff_ne.mpr fun hc => h (.inr hc), Bool.false_and]

theorem unclosed_escapeChar {quote : Char} (hquote : quote ≠ '\\') (c : Char) :
    Unclosed quote (escapeChar quote c) := by
  by_cases h : c = quote ∨ c = '\\'
  · have hbackslash : Unclosed quote ['\\'] :=
      (Unclosed.nil quote).concat fun hc => absurd hc.symm hquote
    rw [escapeChar_of_special h]
    exact hbackslash.concat fun _ => rfl
  · rw [escapeChar_of_plain h]
    exact (Unclosed.nil quote).concat fun hc => absurd (.inl hc) h

/-- Behind escaped characters a quote is not escaped, … -/
theorem endsEscaped_escapeChars (quote : Char) (cs : List Char) :
    endsEscaped (escapeChars quote cs) = false := by
  induction cs with
  | nil => rfl
  | cons c cs ih => rw [escapeChars_cons, endsEscaped_append (endsEscaped_escapeChar quote c), ih]

/-- … and among them every quote is. -/
theorem unclosed_escapeChars {quote : Char} (hquote : quote ≠ '\\') (cs : List Char) :
    Unclosed quote (escapeChars quote cs) := by
  induction cs with
  | nil => exact .nil quote
  | cons c cs ih =>
    rw [escapeChars_cons]
    exact (unclosed_escapeChar hquote c).append (endsEscaped_escapeChar quote c) ih

/-! ### Taking quotes off -/

theorem ne_backslash_of_isQuote {quote : Char} (h : isQuote quote = true) : quote ≠ '\\' := by
  rintro rfl
  cases h

theorem dropClosing_concat {quote : Char} {cs : List Char} (h : endsEscaped cs = false) :
    dropClosing quote (cs ++ [quote]) = cs := by
  rw [dropClosing, List.getLast?_concat, List.dropLast_concat, h, if_pos (by simp)]

theorem dropClosing_of_unclosed {quote : Char} {cs : List Char} (h : Unclosed quote cs) :
    dropClosing quote cs = cs := by
  rw [dropClosing, if_neg]
  intro hlast
  rw [Bool.and_eq_true, beq_iff_eq, Bool.not_eq_true'] at hlast
  obtain ⟨before, rfl⟩ := List.getLast?_eq_some_iff.mp hlast.1
  rw [List.dropLast_concat, h before [] rfl] at hlast
  cases hlast.2

/-- A text is written as it is, or its characters are escaped between quotes. -/
theorem quoteChars_eq_self_or {typed : Option Char} (h : ∀ q ∈ typed, isQuote q = true)
    (cs : List Char) :
    (typed = none ∧ (∀ c ∈ cs, forcesQuotes c = false) ∧
      ∀ closed, quoteChars typed closed cs = cs) ∨
    ∃ q, isQuote q = true ∧ ∀ closed, quoteChars typed closed cs =
      q :: (escapeChars q cs ++ if closed then [q] else []) := by
  cases typed with
  | some q => exact .inr ⟨q, h q rfl, fun _ => rfl⟩
  | none =>
    cases hany : cs.any forcesQuotes with
    | true =>
      refine .inr ⟨'\'', rfl, fun closed => ?_⟩
      rw [quoteChars, hany]
      rfl
    | false =>
      refine .inl ⟨rfl, by simpa using hany, fun closed => ?_⟩
      rw [quoteChars, hany]
      rfl

theorem unquoteChars_quoteChars {typed : Option Char} (h : ∀ q ∈ typed, isQuote q = true)
    (closed : Bool) (cs : List Char) : unquoteChars (quoteChars typed closed cs) = cs := by
  rcases quoteChars_eq_self_or h cs with ⟨-, hplain, heq⟩ | ⟨q, hq, heq⟩
  · rw [heq]
    cases cs with
    | nil => rfl
    | cons c cs =>
      have hc := hplain c List.mem_cons_self
      rw [forcesQuotes, Bool.or_eq_false_iff, Bool.or_eq_false_iff] at hc
      rw [unquoteChars, hc.1.2, if_neg Bool.false_ne_true]
  · rw [heq, unquoteChars, if_pos hq]
    cases closed with
    | true =>
      rw [if_pos rfl, dropClosing_concat (endsEscaped_escapeChars q cs), dropEscapes_escapeChars]
    | false =>
      rw [if_neg Bool.false_ne_true, List.append_nil,
        dropClosing_of_unclosed (unclosed_escapeChars (ne_backslash_of_isQuote hq) cs),
        dropEscapes_escapeChars]

theorem unquote_quote {typed : Option Char} (h : ∀ q ∈ typed, isQuote q = true) (closed : Bool)
    (s : String) : unquote (quote typed closed s) = s := by
  rw [unquote, quote, String.toList_ofList, unquoteChars_quoteChars h, String.ofList_toList]

/-! ### Reading what is quoted -/

/-- In front of white space a text that is quoted is one token. -/
theorem lexeme_quoteChars {typed : Option Char} (h : ∀ q ∈ typed, isQuote q = true)
    {cs behind : List Char} (hne : cs ≠ [] ∨ typed.isSome = true)
    (hbehind : ∀ d ∈ behind.head?, isBlank d = true) :
    Lexeme (quoteChars typed true cs) behind := by
  rcases quoteChars_eq_self_or h cs with ⟨rfl, hplain, heq⟩ | ⟨q, hq, heq⟩
  · rw [heq]
    simp only [forcesQuotes, Bool.or_eq_false_iff] at hplain
    exact .of_bare (hne.resolve_right Bool.false_ne_true)
      (fun c hc => (hplain c (List.mem_of_mem_head? hc)).1.2)
      (fun c hc => (hplain c hc).1.1) hbehind
  · rw [heq]
    exact .closed hq (unclosed_escapeChars (ne_backslash_of_isQuote hq) cs)
      (endsEscaped_escapeChars q cs)

end Text

/-! ### Texts in quotes as a kind of variables -/

namespace Expr

/-- A character between quotes, `[^q\\]|\\.` for the quote `q`. -/
def betweenQuotes (quote : Char) : Expr :=
  .alt (.chars (.complement (.union (.union .none (.single quote)) (.single '\\'))))
    (.cat (.chars (.single '\\')) (.chars (.complement (.single '\n'))))

/-- A text in quotes, `q(?:[^q\\]|\\.)*q` for the quote `q`. -/
def inQuotes (quote : Char) : Expr :=
  .cat (.chars (.single quote))
    (.cat (.rep (betweenQuotes quote) 0 none) (.chars (.single quote)))

/-- A word or a text in quotes. -/
def wordOrQuoted : Expr :=
  .alt (.rep (.chars (.table Text.wordRanges)) 1 none) (.alt (inQuotes '"') (inQuotes '\''))

theorem matches_betweenQuotes {quote : Char} {before behind : Option Char} {w : List Char} :
    (betweenQuotes quote).Matches before w behind ↔
      (∃ c, w = [c] ∧ c ≠ quote ∧ c ≠ '\\') ∨ ∃ c, w = ['\\', c] ∧ c ≠ '\n' := by
  have hplain (c : Char) : (CharClass.complement (.union (.union .none (.single quote))
      (.single '\\'))).contains c.toNat = true ↔ c ≠ quote ∧ c ≠ '\\' := by
    simp [CharClass.contains, contains_single]
  have hany (c : Char) : (CharClass.complement (.single '\n')).contains c.toNat = true ↔
      c ≠ '\n' := by
    simp [CharClass.contains, contains_single]
  constructor
  · rintro (⟨c, rfl, hc⟩ | ⟨u, v, rfl, hu, c, rfl, hc⟩)
    · exact .inl ⟨c, rfl, (hplain c).mp hc⟩
    · obtain rfl := matches_single.mp hu
      exact .inr ⟨c, rfl, (hany c).mp hc⟩
  · rintro (⟨c, rfl, hc⟩ | ⟨c, rfl, hc⟩)
    · exact .inl ⟨c, rfl, (hplain c).mpr hc⟩
    · exact .inr ⟨['\\'], [c], rfl, matches_single.mpr rfl, c, rfl, (hany c).mpr hc⟩

/-- The two ways to write a character between quotes are those of the pattern. Only the quote and
the backslash are escaped, so no line break is, which `.` would not match. -/
theorem matches_escapeChar {quote : Char} (hquote : isQuote quote = true) (c : Char)
    (before behind : Option Char) :
    (betweenQuotes quote).Matches before (Text.escapeChar quote c) behind := by
  rw [matches_betweenQuotes]
  by_cases h : c = quote ∨ c = '\\'
  · have hc : c ≠ '\n' := by
      rintro rfl
      rcases h with rfl | h
      · cases hquote
      · cases h
    exact .inr ⟨c, Text.escapeChar_of_special h, hc⟩
  · exact .inl ⟨c, Text.escapeChar_of_plain h, not_or.mp h⟩

theorem rounds_escapeChars {quote : Char} (hquote : isQuote quote = true) (cs : List Char)
    (before behind : Option Char) : Rounds (betweenQuotes quote).Matches cs.length before
      (Text.escapeChars quote cs) behind := by
  induction cs generalizing before with
  | nil => exact .none
  | cons c cs ih =>
    rw [Text.escapeChars_cons]
    exact .more (matches_escapeChar hquote c _ _) (ih _)

theorem matches_inQuotes {quote : Char} (hquote : isQuote quote = true) (cs : List Char)
    (before behind : Option Char) :
    (inQuotes quote).Matches before (quote :: (Text.escapeChars quote cs ++ [quote])) behind :=
  ⟨[quote], _, rfl, matches_single.mpr rfl, Text.escapeChars quote cs, [quote], rfl,
    ⟨cs.length, Nat.zero_le _, nofun, rounds_escapeChars hquote cs _ _⟩, matches_single.mpr rfl⟩

theorem bounded_wordOrQuoted : wordOrQuoted.Bounded := by
  simp [wordOrQuoted, inQuotes, betweenQuotes, Bounded]

end Expr

namespace Kind

theorem compile?_quoted : ∃ source,
    quoted.pattern.bind Pattern.compile? = some ⟨source, Expr.wordOrQuoted.whole⟩ := ⟨_, rfl⟩

/-- A text in quotes is a text of the kind, whatever its characters are. -/
theorem accepts_quoted {quote : Char} (hquote : isQuote quote = true) (s : String) :
    ∃ p, quoted.pattern.bind Pattern.compile? = some p ∧
      p.accepts (Text.quote (some quote) true s) = true := by
  obtain ⟨source, hp⟩ := compile?_quoted
  refine ⟨_, hp, (Expr.occursIn_whole Expr.bounded_wordOrQuoted _).mpr ?_⟩
  have h := Expr.matches_inQuotes hquote s.toList none none
  rw [Text.quote, String.toList_ofList]
  rcases Text.isQuote_iff.mp hquote with rfl | rfl
  · exact .inr (.inr h)
  · exact .inr (.inl h)

end Kind

/-! ### Quoting and reading back -/

namespace Text

/-- Quoting is undone by everything that reads a quoted text: the reader of lines takes it for one
token, taking the quotes off gives the text again, and a variable for texts in quotes accepts it and
has the text as its value. -/
theorem quote_reads_back {typed : Option Char} (h : ∀ q ∈ typed, isQuote q = true) (s : String) :
    (s ≠ "" ∨ typed.isSome = true →
      (Line.read (quote typed true s)).tokens = [⟨quote typed true s, 0⟩] ∧
      ∀ rest : String, (∀ c ∈ rest.toList.head?, isBlank c = true) →
        (Line.read (quote typed true s ++ rest)).tokens = ⟨quote typed true s, 0⟩ ::
          (Line.read rest).tokens.map (Token.shift (quote typed true s).utf8ByteSize)) ∧
    (∀ closed, unquote (quote typed closed s) = s) ∧
    (typed.isSome = true → ∃ p, Kind.quoted.pattern.bind Pattern.compile? = some p ∧
      p.accepts (quote typed true s) = true ∧
      Kind.quoted.parse (quote typed true s) = .ok (.str s)) := by
  refine ⟨fun hne => ?_, fun closed => unquote_quote h closed s, fun hsome => ?_⟩
  · have hread (rest : String) (hrest : ∀ c ∈ rest.toList.head?, isBlank c = true) :
        (Line.read (quote typed true s ++ rest)).tokens = ⟨quote typed true s, 0⟩ ::
          (Line.read rest).tokens.map (Token.shift (quote typed true s).utf8ByteSize) := by
      refine Line.tokens_of_lexeme ?_
      rw [quote, String.toList_ofList]
      exact lexeme_quoteChars h (hne.imp_left (mt String.toList_eq_nil_iff.mp)) hrest
    have hend := hread "" nofun
    rw [String.append_empty] at hend
    exact ⟨hend, hread⟩
  · obtain ⟨q, rfl⟩ := Option.isSome_iff_exists.mp hsome
    obtain ⟨p, hp, haccepts⟩ := Kind.accepts_quoted (h q rfl) s
    refine ⟨p, hp, haccepts, ?_⟩
    change Except.ok (Value.str (unquote (quote (some q) true s))) = _
    rw [unquote_quote h]

/-- A text with a quote in it and a backslash at its end. -/
theorem quote_reads_back_backslash :
    quote (some '"') true "a\" \\" = "\"a\\\" \\\\\"" ∧
    (Line.read "\"a\\\" \\\\\" b").tokens = [⟨"\"a\\\" \\\\\"", 0⟩, ⟨"b", 9⟩] ∧
    unquote "\"a\\\" \\\\\"" = "a\" \\" ∧ unquote "\"a\\\" \\\\" = "a\" \\" ∧
    (∃ p, Kind.quoted.pattern.bind Pattern.compile? = some p ∧
      p.accepts "\"a\\\" \\\\\"" = true) ∧
    Kind.quoted.parse "\"a\\\" \\\\\"" = .ok (.str "a\" \\") := by
  have hquotes : ∀ q ∈ some '"', isQuote q = true := by simp [isQuote]
  obtain ⟨hread, hunquote, hkind⟩ := quote_reads_back hquotes "a\" \\"
  obtain ⟨p, hp, haccepts, hvalue⟩ := hkind rfl
  have hclosed : quote (some '"') true "a\" \\" = "\"a\\\" \\\\\"" := by decide
  have hopen : quote (some '"') false "a\" \\" = "\"a\\\" \\\\" := by decide
  have hspace : ∀ c ∈ " b".toList.head?, isBlank c = true := by
    rintro c ⟨⟩
    rfl
  have hline := (hread (.inr rfl)).2 " b" hspace
  rw [hclosed] at hline haccepts hvalue
  exact ⟨hclosed, hline, hclosed ▸ hunquote true, hopen ▸ hunquote false, ⟨p, hp, haccepts⟩,
    hvalue⟩

end Text

end CommandGrammar
