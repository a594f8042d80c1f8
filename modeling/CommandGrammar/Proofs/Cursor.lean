import CommandGrammar.Proofs.Agreement
import CommandGrammar.Proofs.LongerLine
import CommandGrammar.Proofs.Splitting

/-! Where callbacks see a line cut. While a line is matched, what a context tells as parsed ends in
front of the first token that is not matched yet. While a line is being typed, its last token is
taken away before the others are matched, but the text of the line stays whole. A context that has
matched all tokens in front of the last one then tells that the whole line is parsed. -/

namespace CommandGrammar

variable {σ ε : Type}

namespace Line

/-- The line is cut where the first token that is not matched starts, or at its end if all tokens
are matched. -/
structure Cuts (input : String) (matched : Nat) (before behind : String) : Prop where
  whole : before ++ behind = input
  token : ∀ t, (read input).tokens[matched]? = some t →
    before.utf8ByteSize = t.start ∧ ∃ rest, behind = t.text ++ rest
  atEnd : (read input).tokens[matched]? = none → behind = ""

theorem cuts_read (input : String) (matched : Nat) :
    Cuts input matched ((read input).parsed matched) ((read input).remaining matched) := by
  cases ht : (read input).tokens[matched]? with
  | some t =>
    obtain ⟨hwhole, hsize, hrest⟩ := cut_of_token ht
    refine ⟨hwhole, fun u hu => ?_, fun hnone => by simp [ht] at hnone⟩
    obtain rfl : t = u := by simpa [ht] using hu
    exact ⟨hsize, hrest⟩
  | none =>
    obtain ⟨hparsed, hremaining⟩ := cut_of_end ht
    refine ⟨?_, fun u hu => by simp [ht] at hu, fun _ => hremaining⟩
    rw [hparsed, hremaining, String.append_empty]

/-- A line that is cut in front of a token does not end there. -/
theorem Cuts.behind_ne_empty {input before behind : String} {matched : Nat} {t : Token}
    (h : Cuts input matched before behind) (ht : (read input).tokens[matched]? = some t) :
    behind ≠ "" := by
  intro hempty
  obtain ⟨-, rest, hrest⟩ := h.token t ht
  rw [hempty] at hrest
  have htext : t.text = "" := (String.append_eq_empty_iff.mp hrest.symm).1
  exact text_ne_empty (List.mem_of_getElem? ht) htext

/-! ### Behind the complete tokens -/

/-- The token that is being typed is the last one, and it is taken away, or nothing is being
typed. -/
theorem splitTrailing_cases (input : String) :
    (read input).splitTrailing = (read input, "") ∨
      ∃ ts t, (read input).tokens = ts ++ [t] ∧
        (read input).splitTrailing = (⟨input, ts⟩, t.text) := by
  unfold splitTrailing
  cases hlast : (read input).tokens.getLast? with
  | none => exact .inl rfl
  | some t =>
    dsimp only
    split
    · have hconcat := List.dropLast_append_getLast? t hlast
      exact .inr ⟨(read input).tokens.dropLast, t, hconcat.symm, rfl⟩
    · exact .inl rfl

/-- Behind all of its tokens a line is parsed to the end of its text, whatever the text holds. -/
theorem parsed_of_length_le (input : String) {ts : List Token} {matched : Nat}
    (h : ts.length ≤ matched) :
    (⟨input, ts⟩ : Line).parsed matched = input ∧ (⟨input, ts⟩ : Line).remaining matched = "" := by
  have hcursor : (⟨input, ts⟩ : Line).cursor matched = Text.size input.toList := by
    rw [cursor, List.getElem?_eq_none h, ← Text.utf8ByteSize_eq]
  have hsplit : splitAt (Text.size input.toList) input.toList = (input.toList, []) := by
    simpa using splitAt_size input.toList []
  constructor
  · rw [parsed, hcursor, hsplit, String.ofList_toList]
  · rw [remaining, hcursor, hsplit, String.ofList_nil]

/-- In front of the token that is being typed a line is cut where it should be, but behind all
complete tokens it is only if nothing is being typed. -/
theorem cuts_splitTrailing_iff (input : String) {matched : Nat}
    (h : matched ≤ (read input).splitTrailing.1.tokens.length) :
    Cuts input matched ((read input).splitTrailing.1.parsed matched)
        ((read input).splitTrailing.1.remaining matched) ↔
      matched < (read input).splitTrailing.1.tokens.length ∨ (read input).splitTrailing.2 = "" := by
  rcases splitTrailing_cases input with hsplit | ⟨ts, t, htokens, hsplit⟩
  · rw [hsplit]
    exact ⟨fun _ => .inr rfl, fun _ => cuts_read input matched⟩
  · rw [hsplit] at h ⊢
    dsimp only at h ⊢
    rcases Nat.lt_or_ge matched ts.length with hlt | hge
    · -- the tokens up to this one are those of the whole line
      have hcursor : (⟨input, ts⟩ : Line).cursor matched = (read input).cursor matched := by
        have hin : ts[matched]? = (read input).tokens[matched]? := by
          rw [htokens, List.getElem?_append_left hlt]
        simp only [cursor, hin]
        rfl
      have hcuts := cuts_read input matched
      rw [parsed, remaining, ← hcursor] at hcuts
      exact ⟨fun _ => .inl hlt, fun _ => hcuts⟩
    · have hmatched : matched = ts.length := by omega
      have ht : (read input).tokens[matched]? = some t := by
        rw [htokens, hmatched, List.getElem?_concat_length]
      have htext : t.text ≠ "" := text_ne_empty (List.mem_of_getElem? ht)
      constructor
      · intro hcuts
        exact absurd (parsed_of_length_le input hge).2 (hcuts.behind_ne_empty ht)
      · rintro (hlt | hempty)
        · omega
        · exact absurd hempty htext

end Line

/-! ### Contexts -/

namespace Context

/-- What the context tells as parsed ends, and what remains begins, in front of the first token of
the line that is not matched. -/
def CutsInFront (c : Context σ) (input : String) : Prop :=
  Line.Cuts input c.consumed c.parsed c.remaining

/-- What the context tells while the line is being typed: it cuts the line in front of the first
token that is not matched, unless that is the token being typed. In front of that one it tells that
the whole line is parsed. -/
structure CutsWhileTyping (c : Context σ) (input : String) : Prop where
  inFront_iff : c.CutsInFront input ↔
    c.consumed < (Line.read input).splitTrailing.1.tokens.length ∨
      (Line.read input).splitTrailing.2 = ""
  whole : ¬c.CutsInFront input → c.parsed = input ∧ c.remaining = ""

end Context

namespace Grammar

variable {g : Grammar σ ε} {input : String} {user : Option σ}

theorem cutsInFront_of_follow? (hg : g.Numbered) {way : List Nat} {c : Context σ}
    (h : g.follow? (g.start (.read input) user) way = some c) : c.CutsInFront input := by
  have hrec := (records_of_follow? hg h).1
  have hcuts := Line.cuts_read input c.consumed
  rwa [← hrec.line] at hcuts

theorem cutsWhileTyping_of_follow? (hg : g.Numbered) {way : List Nat} {c : Context σ}
    (h : g.follow? (g.typingStart input user) way = some c) : c.CutsWhileTyping input := by
  have hrec := (records_of_follow? hg h).1
  have hle : c.consumed ≤ (Line.read input).splitTrailing.1.tokens.length := by
    rw [hrec.consumed]
    exact length_le_of_follow? h
  have hiff : c.CutsInFront input ↔
      c.consumed < (Line.read input).splitTrailing.1.tokens.length ∨
        (Line.read input).splitTrailing.2 = "" := by
    rw [Context.CutsInFront, Context.parsed, Context.remaining, hrec.line]
    exact Line.cuts_splitTrailing_iff input hle
  refine ⟨hiff, fun hnot => ?_⟩
  rw [hiff, not_or, Nat.not_lt] at hnot
  rw [Context.parsed, Context.remaining, hrec.line]
  rcases Line.splitTrailing_cases input with hsplit | ⟨ts, t, -, hsplit⟩
  · rw [hsplit] at hnot
    exact absurd rfl hnot.2
  · rw [hsplit] at hnot ⊢
    exact Line.parsed_of_length_le input hnot.1

/-- What holds behind all ways holds of every context that is met. -/
theorem forall_metWith_of_follow? (hg : g.Numbered) {l : Line} {P : Context σ → Prop}
    (h : ∀ way c, g.follow? (g.start l user) way = some c → P c) :
    ∀ c ∈ g.metWith (g.start l user).pending (g.start l user), P c := by
  intro c hc
  obtain ⟨⟨way, d⟩, hway, rfl⟩ := List.mem_map.mp hc
  exact h way d ((mem_ways hg).mp hway)

theorem cutsInFront_check (hg : g.Numbered) : (g.check input user).CutsInFront input := by
  rcases check_cases hg input user with ⟨way, place, d, n, hway, hcheck⟩ | ⟨-, way, hway⟩
  · have hcuts := cutsInFront_of_follow? hg hway.follows
    rw [hcheck]
    exact hcuts
  · exact cutsInFront_of_follow? hg hway.follows

end Grammar

/-- While a line is matched, callbacks are asked only about contexts that cut it in front of the
first token that is not matched. While a line is being typed, they are asked only about contexts
that cut it there if another token than the one being typed comes next, and tell that the whole
line is parsed otherwise: a grammar whose callbacks agree on these contexts answers the same. -/
theorem callbacks_cut {b : Builder σ ε} {g : Grammar σ ε} (h : b.build = .ok g) (input : String)
    (user : Option σ) :
    (∀ way c, g.follow? (g.start (.read input) user) way = some c → c.CutsInFront input) ∧
    (∀ g' : Grammar σ ε, g.AgreeOn (·.CutsInFront input) g' →
      g.check input user = g'.check input user ∧ g.parse input user = g'.parse input user) ∧
    (∀ way c, g.follow? (g.typingStart input user) way = some c → c.CutsWhileTyping input) ∧
    (∀ g' : Grammar σ ε, g.AgreeOn (·.CutsWhileTyping input) g' →
      g.complete input user = g'.complete input user ∧ g.help input user = g'.help input user) := by
  have hg := b.numbered_of_build h
  have hfront : ∀ way c, g.follow? (g.start (.read input) user) way = some c →
      c.CutsInFront input := fun _ _ => Grammar.cutsInFront_of_follow? hg
  have htyping : ∀ way c, g.follow? (g.typingStart input user) way = some c →
      c.CutsWhileTyping input := fun _ _ => Grammar.cutsWhileTyping_of_follow? hg
  refine ⟨hfront, fun g' hagree => ?_, htyping, fun g' hagree => ?_⟩
  · have hcheck := hagree.check_eq hg (Grammar.forall_metWith_of_follow? hg hfront)
    exact ⟨hcheck, hagree.parse_eq hcheck (Grammar.cutsInFront_check hg)⟩
  · have hmet := Grammar.forall_metWith_of_follow? hg htyping
    have hall : ∀ c ∈ (g.typing input user).1, c.CutsWhileTyping input := by
      intro c hc
      have hevery := Grammar.positions_subset_everyPosition hg (g.onLine_start _ user) hc
      rw [Grammar.everyPosition_eq] at hevery
      exact hmet c (g.arrivalsWith_subset_metWith _ _ hevery)
    have heq := hagree.typing_eq hg hmet
    exact ⟨hagree.complete_eq heq hall, hagree.help_eq heq hall⟩

namespace Sample

/-- The command `go` is there only while it is what remains of the line. -/
def awaited : Builder Unit String where
  elements := [
    .node
      { body := .literal
        name := some "go"
        condition := some fun c => c.remaining.startsWith "go" } [
      .node { body := .action fun _ => ⟨["go"], .ok ()⟩, name := none } []]]
  merges := []

theorem callbacks_cut_awaited :
    ∃ g, awaited.build = .ok g ∧ (g.follow? (g.typingStart "go now" none) [0]).isSome = true ∧
      (∀ way c, g.follow? (g.start (.read "go now") none) way = some c →
        c.CutsInFront "go now") ∧
      ∀ way c, g.follow? (g.typingStart "go now" none) way = some c →
        c.CutsWhileTyping "go now" := by
  obtain ⟨g, hg, hway⟩ := awaited.exists_build
    (f := fun g => (g.follow? (g.typingStart "go now" none) [0]).isSome) (v := true)
    (by decide +kernel)
  obtain ⟨hfront, -, htyping, -⟩ := callbacks_cut hg "go now" none
  exact ⟨g, hg, hway, hfront, htyping⟩

/-- The token being typed is told as parsed: the condition of the command, which holds when the line
is matched, is asked about a context in which nothing of the line remains. -/
theorem typed_token_parsed :
    ∃ g, awaited.build = .ok g ∧ (g.check "go" none).isComplete = true ∧
      g.complete "go" none = [] ∧
      ∃ c ∈ (g.typing "go" none).1, c.parsed = "go" ∧ c.remaining = "" ∧ ¬c.CutsInFront "go" := by
  obtain ⟨g, hg, hval⟩ := awaited.exists_build
    (f := fun g => ((g.check "go" none).isComplete, g.complete "go" none,
      (g.typing "go" none).1.map fun c => (c.consumed, c.parsed, c.remaining)))
    (v := (true, [], [(0, "go", "")])) (by decide +kernel)
  obtain ⟨hcheck, hval⟩ := Prod.mk.inj hval
  obtain ⟨hcomplete, htyping⟩ := Prod.mk.inj hval
  obtain ⟨c, hc, hcut⟩ : ∃ c ∈ (g.typing "go" none).1,
      (c.consumed, c.parsed, c.remaining) = (0, "go", "") := by
    rw [← List.mem_map, htyping]
    exact List.mem_singleton_self _
  obtain ⟨hconsumed, hparsed, hremaining⟩ :
      c.consumed = 0 ∧ c.parsed = "go" ∧ c.remaining = "" := by
    simpa using hcut
  refine ⟨g, hg, hcheck, hcomplete, c, hc, hparsed, hremaining, fun hcuts => ?_⟩
  have ht : (Line.read "go").tokens[c.consumed]? = some ⟨"go", 0⟩ := by
    rw [hconsumed]
    decide +kernel
  exact hcuts.behind_ne_empty ht hremaining

end Sample

end CommandGrammar
