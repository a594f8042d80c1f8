import CommandGrammar.Proofs.Tiling

/-! Lines that are read again in part or put together. What is typed behind complete tokens does not
change them, a line that is cut at the cursor has the tokens in front of it, and the texts of the
tokens of a line are read as these tokens again when a space is put between them. -/

namespace CommandGrammar

open Text (size isBlank)

namespace Tiles

variable {pos : Nat} {cs : List Char} {ts : List Token}

/-- White space in front of the first token changes nothing. -/
theorem append_blank {gap : List Char} (h : Tiles (pos + size gap) cs ts)
    (hgap : ∀ c ∈ gap, isBlank c = true) : Tiles pos (gap ++ cs) ts := by
  rw [iff_run_eq, Lexer.run_blank hgap]
  exact h.run_eq

/-- The characters in front of a token are tiled by the tokens in front of it. -/
theorem exists_take (h : Tiles pos cs ts) (n : Nat) :
    ∃ before behind, cs = before ++ behind ∧ Tiles pos before (ts.take n) ∧
      (∀ t, ts[n]? = some t → t.start = pos + size before) ∧ (ts[n]? = none → behind = []) := by
  induction h generalizing n with
  | @blank pos gap blank =>
    rw [List.take_nil]
    exact ⟨gap, [], (List.append_nil gap).symm, .blank blank, nofun, fun _ => rfl⟩
  | @token pos gap word behind ts blank lexeme _ ih =>
    cases n with
    | zero =>
      refine ⟨gap, word ++ behind, rfl, .blank blank, fun t ht => ?_, nofun⟩
      cases ht
      rfl
    | succ n =>
      obtain ⟨before, rest, rfl, hbefore, hstart, hrest⟩ := ih n
      refine ⟨gap ++ (word ++ before), rest, by simp only [List.append_assoc],
        .token blank lexeme.of_append hbefore, fun t ht => ?_, hrest⟩
      rw [hstart t ht]
      simp only [Text.size_append, Nat.add_assoc]

theorem ne_nil (h : Tiles pos cs ts) (hne : ts ≠ []) : cs ≠ [] := by
  rintro rfl
  exact hne (List.eq_nil_of_length_eq_zero (Nat.le_zero.mp h.length_le))

/-- The texts of the tokens with spaces between them are tiled by tokens with these texts. -/
theorem exists_intercalate (h : Tiles pos cs ts) (start : Nat) :
    ∃ us, Tiles start ([' '].intercalate (ts.map (·.text.toList))) us ∧
      us.map (·.text) = ts.map (·.text) := by
  have hspace : ∀ c ∈ [' '], isBlank c = true := List.forall_mem_singleton.mpr rfl
  induction h generalizing start with
  | blank => exact ⟨[], .blank nofun, rfl⟩
  | @token pos gap word behind ts blank lexeme rest ih =>
    obtain ⟨us, hus, htexts⟩ := ih (start + size word + size [' '])
    rw [List.map_cons, List.map_cons, String.toList_ofList]
    by_cases hts : ts = []
    · subst hts
      have hlast : Lexeme word ([] ++ behind) := lexeme
      have hone : Tiles start ([] ++ (word ++ [])) [⟨String.ofList word, start⟩] :=
        .token nofun hlast.of_append (.blank nofun)
      rw [List.nil_append, List.append_nil] at hone
      rw [List.map_nil, List.intercalate_singleton]
      exact ⟨_, hone, rfl⟩
    · have hlexeme : Lexeme word ([' '] ++ [' '].intercalate (ts.map (·.text.toList))) := by
        refine lexeme.of_ne_nil (rest.ne_nil hts) fun c hc => ?_
        cases hc
        exact hspace ' ' (List.mem_singleton_self _)
      have hmore : Tiles start ([] ++ _) (⟨String.ofList word, start⟩ :: us) :=
        .token nofun hlexeme (hus.append_blank hspace)
      rw [List.intercalate_cons_of_ne_nil (by simpa using hts), List.append_assoc]
      refine ⟨_, hmore, ?_⟩
      rw [List.map_cons, htexts]

end Tiles

namespace Line

/-- In front of the cursor stand the tokens that are matched. -/
theorem tokens_parsed (input : String) (matched : Nat) :
    (read ((read input).parsed matched)).tokens = (read input).tokens.take matched := by
  obtain ⟨before, behind, hinput, hbefore, hstart, hend⟩ := (tiles_read input).exists_take matched
  have hcursor : (read input).cursor matched = size before := by
    cases ht : (read input).tokens[matched]? with
    | some t =>
      rw [cursor, ht]
      exact (hstart t ht).trans (Nat.zero_add _)
    | none =>
      rw [cursor, ht]
      change input.utf8ByteSize = _
      rw [Text.utf8ByteSize_eq, hinput, hend ht, List.append_nil]
  have hparsed : ((read input).parsed matched).toList = before := by
    rw [parsed, hcursor, String.toList_ofList]
    change (splitAt (size before) input.toList).1 = before
    rw [hinput, splitAt_size]
  change Lexer.between.run 0 ((read input).parsed matched).toList = _
  rw [hparsed]
  exact hbefore.run_eq

/-- The complete tokens are those of the line without the one that is being typed. -/
theorem exists_without_typed (input : String) :
    ∃ before, input = before ++ (read input).splitTrailing.2 ∧
      (read before).tokens = (read input).splitTrailing.1.tokens := by
  obtain ⟨before, hinput, hread⟩ := exists_before input
  refine ⟨before, hinput, ?_⟩
  have h := hread ""
  rw [String.append_empty] at h
  rw [h]
  exact List.append_nil _

theorem texts_intercalate (input : String) :
    (read (" ".intercalate ((read input).tokens.map (·.text)))).tokens.map (·.text) =
      (read input).tokens.map (·.text) := by
  obtain ⟨us, hus, htexts⟩ := (tiles_read input).exists_intercalate 0
  have hread : (read (" ".intercalate ((read input).tokens.map (·.text)))).tokens = us := by
    change Lexer.between.run 0 (" ".intercalate ((read input).tokens.map (·.text))).toList = us
    rw [String.toList_intercalate, List.map_map]
    exact hus.run_eq
  rw [hread, htexts]

/-- Reading agrees with putting lines together and with cutting them. Behind a line on which nothing
is being typed a text is read on its own, in front of the cursor are the tokens that are matched, in
front of the token that is being typed are the complete ones, and the texts of tokens with spaces
between them are read as these texts. -/
theorem tokens_compositional :
    (∀ p s, (read p).splitTrailing.2 = "" → (read (p ++ s)).tokens =
      (read p).tokens ++ (read s).tokens.map (Token.shift p.utf8ByteSize)) ∧
    (∀ input matched, (read ((read input).parsed matched)).tokens =
      (read input).tokens.take matched) ∧
    (∀ input, ∃ before, input = before ++ (read input).splitTrailing.2 ∧
      (read before).tokens = (read input).splitTrailing.1.tokens) ∧
    ∀ input, (read (" ".intercalate ((read input).tokens.map (·.text)))).tokens.map (·.text) =
      (read input).tokens.map (·.text) :=
  ⟨fun _ s hp => tokens_append hp s, tokens_parsed, exists_without_typed, texts_intercalate⟩

/-- A token that ends with its closing quote, and one that is not closed. -/
theorem tokens_compositional_quotes :
    (read "'a b'c \t").splitTrailing.2 = "" ∧
      (read ("'a b'c \t" ++ "\"d e")).tokens = [⟨"'a b'", 0⟩, ⟨"c", 5⟩, ⟨"\"d e", 8⟩] := by
  have hp : (read "'a b'c \t").splitTrailing.2 = "" := by decide +kernel
  refine ⟨hp, ?_⟩
  rw [tokens_compositional.1 _ _ hp]
  decide +kernel

end Line

end CommandGrammar
