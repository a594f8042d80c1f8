import CommandGrammar.Proofs.Escape
import CommandGrammar.Proofs.LongerLine
import CommandGrammar.Proofs.Tiling
import CommandGrammar.Kind.Clock
import CommandGrammar.Kind.File
import Mathlib.Data.List.DropRight

/-! Whether what is offered matches once it is typed. A candidate typed in place of the token at the
end of a line keeps the tokens in front as they were. The line is then matched to its end if and
only if the candidate reads as one token and a node that may follow takes that token.

A candidate that is a word and a space, and reads as that word, is taken by the node that offered
it, unless the node accepts only what is offered and does not offer the word again. Nothing makes a
word read as one token: a word with a space in it is offered as it is. -/

namespace CommandGrammar

variable {σ ε : Type}

/-! ### Words that are offered again -/

/-- A word is offered again once it is typed. -/
theorem Candidate.mem_ofWords_trimEnd {words : List String} {typed c : String}
    (hc : c ∈ ofWords words typed) (hspace : c = Text.trimEnd c ++ " ") :
    c ∈ ofWords words (Text.trimEnd c) := by
  obtain ⟨w, hw, hword⟩ := List.mem_map.mp hc
  obtain ⟨hmem, hfit⟩ := List.mem_filter.mp hw
  rw [Bool.and_eq_true] at hfit
  have htrim : Text.trimEnd c = String.ofList (w.toList.rdropWhile (· == ' ')) := by
    rw [hspace] at hword
    exact (String.append_left_inj _).mp hword.symm
  have hprefix : w.startsWith (Text.trimEnd c) = true := by
    rw [String.startsWith_string_iff, htrim, String.toList_ofList]
    exact List.rdropWhile_prefix _ _
  refine List.mem_map.mpr ⟨w, List.mem_filter.mpr ⟨hmem, ?_⟩, hword⟩
  rw [Bool.and_eq_true]
  exact ⟨hfit.1, hprefix⟩

/-- The kind offers a word again once it is typed. -/
def Kind.Steady (k : Kind) : Prop :=
  ∀ typed c, c ∈ k.candidates typed → c = Text.trimEnd c ++ " " →
    ∃ w ∈ k.candidates (Text.trimEnd c), Text.trimEnd w = Text.trimEnd c

namespace Node

/-- What the node offers does not keep it from being entered: a name that is offered has a value,
and is not looked for among candidates, and a kind whose candidates alone are accepted offers them
again. -/
structure Steady (n : Node σ ε) : Prop where
  name : n.literal = true → n.candidates = none →
    n.matchCandidates = false ∧ ∀ k, n.body = .var k → ∃ v, k.parse n.name = .ok v
  kind : n.candidates = none → n.matchCandidates = true → ∀ k, n.body = .var k → k.Steady

theorem isSome_value?_iff {n : Node σ ε} {text : String} :
    (n.value? text).isSome = true ↔ ∀ k, n.body = .var k → ∃ v, k.parse text = .ok v := by
  unfold value?
  cases n.body with
  | var kind => cases h : kind.parse text <;> simp [h, Except.toOption]
  | _ => simp

theorem accepts_eq_and (n : Node σ ε) (text : String) :
    n.accepts text = (n.fits text && (n.value? text).isSome) := by
  unfold accepts value?
  cases n.body with
  | var kind => cases h : kind.parse text <;> simp [h, Except.toOption]
  | _ => rfl

theorem isSome_enter?_iff {n : Node σ ε} {c : Context σ} {text : String} :
    (n.enter? c text).isSome = true ↔ n.isAction = false ∧ n.isOpen c = true ∧
      n.fits text = true ∧ n.isOffered c text = true ∧ (n.value? text).isSome = true := by
  unfold enter?
  rw [step?_eq]
  cases n.isAction <;> cases n.isOpen c <;> cases n.fits text <;> cases n.isOffered c text <;> simp

/-- A word that a source or a kind offers is offered again once it is typed. -/
theorem Steady.isOffered {n : Node σ ε} (h : n.Steady) (hs : n.isStateless = true) {d : Context σ}
    {typed c : String} (hc : c ∈ n.candidatesFor d typed) (hspace : c = Text.trimEnd c ++ " ") :
    n.isOffered d (Text.trimEnd c) = true := by
  cases hm : n.matchCandidates with
  | false => simp [Node.isOffered, hm]
  | true =>
    have hagain : ∃ w ∈ n.candidatesFor d (Text.trimEnd c), Text.trimEnd w = Text.trimEnd c := by
      unfold candidatesFor at hc ⊢
      cases hsource : n.candidates with
      | some source =>
        rw [hsource] at hc
        cases source with
        | fixed words => exact ⟨c, Candidate.mem_ofWords_trimEnd hc hspace, rfl⟩
        | dynamic offer => simp [isStateless, hsource] at hs
      | none =>
        rw [hsource] at hc
        cases hbody : n.body with
        | var k =>
          rw [hbody] at hc
          exact h.kind hsource hm k hbody typed c hc hspace
        | _ => simp [hbody] at hc
    simpa [Node.isOffered, hm] using hagain

/-- A node that is named by its pattern takes nothing but its name. -/
def NamedByPattern [Text.Properties] (n : Node σ ε) : Prop :=
  n.literal = true → n.pattern = Pattern.compile? (Pattern.escape n.name)

theorem NamedByPattern.fits_eq [Text.Properties] {n : Node σ ε} (h : n.NamedByPattern)
    (hl : n.literal = true)
    (text : String) : n.fits text = decide (text = n.name) := by
  rw [fits, h hl, Pattern.compile?_escape]
  exact Pattern.accepts_escape (Pattern.compile?_escape n.name) text

/-- A word that a node offers is taken by it. -/
theorem Steady.enter?_of_mem {n : Node σ ε} (h : n.Steady) (hnamed : n.NamedByPattern)
    (hs : n.isStateless = true) {d : Context σ} (ha : n.isAction = false)
    (ho : n.isOpen d = true) {typed c : String} (hc : c ∈ Grammar.nodeCandidates d typed n)
    (hend : c.endsWith " " = true) (hspace : c = Text.trimEnd c ++ " ") :
    (n.enter? d (Text.trimEnd c)).isSome = true := by
  rw [isSome_enter?_iff]
  unfold Grammar.nodeCandidates at hc
  split at hc
  · next hname =>
    rw [Bool.and_eq_true, Option.isNone_iff_eq_none] at hname
    obtain ⟨hl, hsource⟩ := hname
    obtain ⟨hm, hvalue⟩ := h.name hl hsource
    have hcname : c = n.name ++ " " := by
      split at hc
      · exact List.mem_singleton.mp hc
      · cases hc
    have htrim : Text.trimEnd c = n.name :=
      (String.append_left_inj _).mp (hspace.symm.trans hcname)
    refine ⟨ha, ho, ?_, by simp [Node.isOffered, hm], ?_⟩
    · rw [hnamed.fits_eq hl, htrim, decide_eq_true rfl]
    · rw [htrim]
      exact isSome_value?_iff.mpr hvalue
  · obtain ⟨hmem, haccepts⟩ := List.mem_filter.mp hc
    rw [hend, Bool.not_true, Bool.false_or, accepts_eq_and, Bool.and_eq_true] at haccepts
    exact ⟨ha, ho, haccepts.1, h.isOffered hs hmem hspace, haccepts.2⟩

end Node

/-- What is declared as a literal has its own name as a pattern. -/
theorem Draft.patternSource_of_isLiteral {decl : NodeDecl σ ε} (h : isLiteral decl = true)
    (name : String) : patternSource decl name = Pattern.escape name := by
  rw [isLiteral, Bool.and_eq_true, Option.isNone_iff_eq_none] at h
  obtain ⟨hnone, hkind⟩ := h
  rw [patternSource, hnone]
  cases hbody : decl.body with
  | var kind =>
    rw [hbody] at hkind
    dsimp only at hkind ⊢
    rw [Option.isNone_iff_eq_none.mp hkind, Option.getD_none]
  | _ => rfl

theorem Builder.namedByPattern_of_build [PatternDialect] {b : Builder σ ε} {g : Grammar σ ε}
    (h : b.build = .ok g) {i : Nat} {n : Node σ ε} (hi : g.node? i = some n) :
    n.NamedByPattern := by
  refine b.each_of_build h (P := fun _ n => n.NamedByPattern) nofun ?_ (fun _ hn => hn)
    (fun _ hn => hn) hi
  intro decl inherited id parent name path pattern hp hl
  have hliteral : Draft.isLiteral decl = true := hl
  change pattern = Pattern.compile? (Pattern.escape name)
  unfold Draft.compilePattern at hp
  split at hp
  · next run hbody => simp [Draft.isLiteral, hbody] at hliteral
  · rw [Draft.patternSource_of_isLiteral hliteral] at hp
    split at hp
    · next p hcompile =>
      cases hp
      exact (Pattern.new?_eq_some_iff.mp hcompile).1.symm
    · cases hp

namespace Grammar

variable {g : Grammar σ ε}

/-- The line has one token more than the other one, and is matched to its end. -/
structure MatchesOneMore (g : Grammar σ ε) (user : Option σ) (l : Line) (input : String) :
    Prop where
  tokens : ∃ t, (Line.read input).tokens = l.tokens ++ [t]
  consumed : (g.check input user).consumed = (Line.read input).tokens.length

/-- A candidate is offered in one of the contexts in which the token being typed can be entered. -/
theorem mem_complete_iff {input : String} {user : Option σ} {c : String} :
    c ∈ g.complete input user ↔
      ∃ d ∈ (g.typing input user).1, c ∈ g.contextCandidates d (g.typing input user).2 := by
  unfold complete
  rw [mem_inOrder, List.mem_flatMap]

/-- All contexts behind the ways that match the complete tokens may be asked. -/
theorem mem_complete_iff_every (hg : g.Numbered) {input : String} {user : Option σ} {c : String} :
    c ∈ g.complete input user ↔ ∃ d ∈ g.everyPosition (g.typingStart input user),
      c ∈ g.contextCandidates d (Line.read input).splitTrailing.2 := by
  rw [mem_complete_iff]
  exact exists_position_iff hg (g.onLine_start _ user) fun hs d e hde hc =>
    hde.contextCandidates hg hs _ ▸ hc

theorem mem_contextCandidates_iff {d : Context σ} {typed c : String} :
    c ∈ g.contextCandidates d typed ↔ ∃ n ∈ g.following d.position,
      n.isAction = false ∧ n.isOpen d = true ∧ c ∈ nodeCandidates d typed n := by
  simp [contextCandidates, List.mem_flatMap, and_assoc]

/-- If a node behind a context takes a text, one behind an alike context does. -/
theorem Alike.exists_enter? {d e : Context σ} (h : g.Alike d e) (hg : g.Numbered)
    (hs : g.isStateless = true) {text : String}
    (he : ∃ n ∈ g.following e.position, (n.enter? e text).isSome = true) :
    ∃ n ∈ g.following d.position, (n.enter? d text).isSome = true := by
  obtain ⟨n, hn, he⟩ := he
  refine ⟨n, h.position ▸ hn, ?_⟩
  have hrel := h.enter? hg hs (node?_of_mem_following hg hn) text
  generalize n.enter? d text = x, n.enter? e text = y at hrel he ⊢
  cases hrel with
  | none => exact he
  | some _ => rfl

/-- A text typed behind the complete tokens is one more token that is matched if and only if it
reads as one token and a node that may follow takes it. -/
theorem matchesOneMore_iff (hg : g.Numbered) (hs : g.isStateless = true) {input before : String}
    (hbefore : ∀ behind, (Line.read (before ++ behind)).tokens =
      (Line.read input).splitTrailing.1.tokens ++
        (Line.read behind).tokens.map (Token.shift before.utf8ByteSize))
    (user : Option σ) (c : String) :
    g.MatchesOneMore user (Line.read input).splitTrailing.1 (before ++ c) ↔
      ∃ w, (Line.read c).tokens = [w] ∧ ∃ d ∈ (g.typing input user).1,
        ∃ n ∈ g.following d.position, (n.enter? d w.text).isSome = true := by
  have hpositions (text : String) :
      (∃ d ∈ g.positions (g.start (Line.read input).splitTrailing.1 user),
        ∃ n ∈ g.following d.position, (n.enter? d text).isSome = true) ↔
      ∃ d ∈ g.everyPosition (g.start (Line.read input).splitTrailing.1 user),
        ∃ n ∈ g.following d.position, (n.enter? d text).isSome = true :=
    exists_position_iff hg (g.onLine_start _ user) fun hs d e hde => hde.exists_enter? hg hs
  constructor
  · rintro ⟨⟨t, ht⟩, hconsumed⟩
    have hc := hbefore c
    rw [ht, List.append_cancel_left_eq] at hc
    obtain ⟨w, hw, rfl⟩ := List.map_eq_singleton_iff.mp hc.symm
    exact ⟨w, hw, (hpositions w.text).mpr ((consumed_check_concat_iff hg hs ht user).mp hconsumed)⟩
  · rintro ⟨w, hw, hd⟩
    have ht := hbefore c
    rw [hw, List.map_singleton] at ht
    exact ⟨⟨_, ht⟩,
      (consumed_check_concat_iff hg hs ht user).mpr ((hpositions w.text).mp hd)⟩

end Grammar

/-! ### Texts that read as one word -/

/-- The text is a word and a space, and reads as that word. -/
structure ReadsAsWord (c : String) : Prop where
  space : c = Text.trimEnd c ++ " "
  tokens : (Line.read c).tokens = [⟨Text.trimEnd c, 0⟩]

theorem Text.dropTrailing_eq_rdropWhile (p : Char → Bool) (cs : List Char) :
    dropTrailing p cs = cs.rdropWhile p := by
  induction cs with
  | nil => rfl
  | cons c cs ih =>
    rw [dropTrailing, ih, List.rdropWhile, List.rdropWhile, List.reverse_cons,
      List.dropWhile_append]
    cases cs.reverse.dropWhile p with
    | nil => cases h : p c <;> simp [h]
    | cons d ds => simp

theorem Text.dropTrailing_eq_self {p : Char → Bool} {cs : List Char}
    (h : ∀ c ∈ cs.getLast?, p c = false) : dropTrailing p cs = cs := by
  rw [dropTrailing_eq_rdropWhile, List.rdropWhile_eq_self_iff]
  intro hne
  simp [h _ (List.getLast?_eq_some_getLast hne)]

theorem Text.dropTrailing_append {p : Char → Bool} {ds : List Char} (h : ∀ c ∈ ds, p c = true)
    (cs : List Char) : dropTrailing p (cs ++ ds) = dropTrailing p cs := by
  induction ds using List.reverseRecOn with
  | nil => rw [List.append_nil]
  | append_singleton ds d ih =>
    rw [List.forall_mem_append, List.forall_mem_singleton] at h
    rw [← ih h.1, ← List.append_assoc, dropTrailing_eq_rdropWhile, dropTrailing_eq_rdropWhile,
      List.rdropWhile_concat_pos _ _ _ h.2]

/-- A text that does not end with white space is left as it is, … -/
theorem Text.trimEnd_eq_self {w : String} (h : ∀ c ∈ w.toList.getLast?, isBlank c = false) :
    trimEnd w = w := by
  rw [trimEnd, dropTrailing_eq_self h, String.ofList_toList]

/-- … and a space behind it is taken off. -/
theorem Text.trimEnd_append_space {w : String} (h : ∀ c ∈ w.toList.getLast?, isBlank c = false) :
    trimEnd (w ++ " ") = w := by
  have hspace : (w ++ " ").toList = w.toList ++ [' '] := String.toList_append
  have hblank : ∀ c ∈ [' '], isBlank c = true := List.forall_mem_singleton.mpr rfl
  rw [trimEnd, hspace, dropTrailing_append hblank, dropTrailing_eq_self h, String.ofList_toList]

theorem Text.not_blank_of_all {w : String} (h : (w.toList.all fun d => !isBlank d) = true) :
    ∀ d ∈ w.toList, isBlank d = false :=
  fun d hd => Bool.not_eq_true' _ |>.mp (List.all_eq_true.mp h d hd)

/-- A word without white space that does not start with a quote reads as that word. -/
theorem readsAsWord_of_bare {w : String} {c : Char} {cs : List Char} (hw : w.toList = c :: cs)
    (hquote : Text.isQuote c = false) (hblank : ∀ d ∈ w.toList, Text.isBlank d = false) :
    ReadsAsWord (w ++ " ") := by
  have htrim : Text.trimEnd (w ++ " ") = w :=
    Text.trimEnd_append_space fun d hd => hblank d (List.mem_of_mem_getLast? hd)
  refine ⟨by rw [htrim], ?_⟩
  have hspace : ∀ d ∈ " ".toList.head?, Text.isBlank d = true := by
    rintro d ⟨⟩
    rfl
  have hlexeme : Lexeme w.toList " ".toList := by
    rw [hw] at hblank ⊢
    exact .bare hquote hblank hspace
  rw [htrim, Line.tokens_of_lexeme hlexeme]
  rfl

/-! ### Lines -/

/-- A complete candidate of a stateless grammar matches, once it is typed, if and only if it reads
as one token and a node that may follow takes it. This is so if it reads as the word that it is, and
no node keeps what it offers from being entered. -/
theorem complete_match_iff {b : Builder σ ε} {g : Grammar σ ε} (h : b.build = .ok g)
    (hs : g.isStateless = true) (input : String) (user : Option σ) {c : String}
    (hc : c ∈ g.complete input user) (hend : c.endsWith " " = true) :
    ∃ before, input = before ++ (Line.read input).splitTrailing.2 ∧
      (g.MatchesOneMore user (Line.read input).splitTrailing.1 (before ++ c) ↔
        ∃ w, (Line.read c).tokens = [w] ∧ ∃ d ∈ (g.typing input user).1,
          ∃ n ∈ g.following d.position, (n.enter? d w.text).isSome = true) ∧
      ((∀ i n, g.node? i = some n → n.Steady) → ReadsAsWord c →
        g.MatchesOneMore user (Line.read input).splitTrailing.1 (before ++ c)) := by
  have hg := b.numbered_of_build h
  obtain ⟨before, hinput, hbefore⟩ := Line.exists_before input
  have hiff := Grammar.matchesOneMore_iff hg hs hbefore user c
  refine ⟨before, hinput, hiff, fun hsteady hword => hiff.mpr ⟨_, hword.tokens, ?_⟩⟩
  obtain ⟨d, hd, hc⟩ := Grammar.mem_complete_iff.mp hc
  obtain ⟨n, hn, ha, ho, hc⟩ := Grammar.mem_contextCandidates_iff.mp hc
  have hnode := Grammar.node?_of_mem_following hg hn
  exact ⟨d, hd, n, hn, (hsteady _ n hnode).enter?_of_mem (Builder.namedByPattern_of_build h hnode)
    (Grammar.isStateless_of_node? hs hnode) ha ho hc hend hword.space⟩

theorem complete_tags_match :
    ∃ g, Sample.tags.build = .ok g ∧ "end " ∈ g.complete "tags a e" none ∧
      g.MatchesOneMore none (Line.read "tags a e").splitTrailing.1 "tags a end " := by
  obtain ⟨g, hg, hval⟩ := Sample.tags.exists_build
    (f := fun g =>
      (g.isStateless, g.nodes.all (fun n => !n.matchCandidates && !(n.literal && n.isVariable)),
        (g.everyPosition (g.typingStart "tags a e" none)).any fun d =>
          (g.contextCandidates d (Line.read "tags a e").splitTrailing.2).contains "end "))
    (v := (true, true, true)) (by decide +kernel)
  obtain ⟨hs, hval⟩ := Prod.mk.inj hval
  obtain ⟨hall, hoffered⟩ := Prod.mk.inj hval
  have hc : "end " ∈ g.complete "tags a e" none := by
    rw [Grammar.mem_complete_iff_every (Sample.tags.numbered_of_build hg)]
    simpa only [List.any_eq_true, List.contains_iff_mem] using hoffered
  have hsteady (i : Nat) (n : Node Unit String) (hn : g.node? i = some n) : n.Steady := by
    have := Array.all_eq_true_iff_forall_mem.mp hall n (Array.mem_of_getElem? hn)
    simp only [Bool.and_eq_true, Bool.not_eq_true'] at this
    refine ⟨fun hl _ => ⟨this.1, fun k hk => ?_⟩, fun _ hm => ?_⟩
    · simp [hl, Node.isVariable, hk] at this
    · simp [this.1] at hm
  obtain ⟨before, hinput, -, hmatch⟩ :=
    complete_match_iff hg hs "tags a e" none hc (by decide +kernel)
  have hbefore : before = "tags a " := by
    have hfragment : (Line.read "tags a e").splitTrailing.2 = "e" := by decide +kernel
    rw [hfragment] at hinput
    exact (String.append_left_inj "e").mp hinput.symm
  have hchars : "end".toList = 'e' :: ['n', 'd'] := by decide +kernel
  have hblank := Text.not_blank_of_all (w := "end") (by decide +kernel)
  have hword : ReadsAsWord "end " := readsAsWord_of_bare hchars (by decide) hblank
  rw [hbefore] at hmatch
  exact ⟨g, hg, hc, hmatch hsteady hword⟩

/-! ### A word with a space in it -/

namespace Sample

/-- A command that takes the name of the one file that is offered. -/
def files : Builder Unit String where
  elements := [
    .node
      { body := .var (.file .empty ⟨[], [], true, true⟩)
        name := some "file"
        candidates := some (.fixed ["my file.txt"]) } [
      .node { body := .action fun _ => ⟨["open"], .ok ()⟩, name := none } []]]
  merges := []

end Sample

/-- A word with a space in it is offered, and once it is typed it is two tokens, of which none
matches. -/
theorem offered_word_with_space :
    ∃ g, Sample.files.build = .ok g ∧ g.isStateless = true ∧ "my file.txt " ∈ g.complete "" none ∧
      "my file.txt ".endsWith " " = true ∧ (Line.read "my file.txt ").tokens.length = 2 ∧
      (g.check "my file.txt " none).consumed = 0 ∧
      ¬g.MatchesOneMore none (Line.read "").splitTrailing.1 "my file.txt " := by
  obtain ⟨g, hg, hval⟩ := Sample.files.exists_build
    (f := fun g =>
      (g.isStateless,
        (g.everyPosition (g.typingStart "" none)).any (fun d =>
          (g.contextCandidates d (Line.read "").splitTrailing.2).contains "my file.txt "),
        (g.seekPending (g.start (.read "my file.txt ") none)).consumed))
    (v := (true, true, 0)) (by decide +kernel)
  obtain ⟨hs, hval⟩ := Prod.mk.inj hval
  obtain ⟨hoffered, hconsumed⟩ := Prod.mk.inj hval
  have hnumbered := Sample.files.numbered_of_build hg
  have hc : "my file.txt " ∈ g.complete "" none := by
    rw [Grammar.mem_complete_iff_every hnumbered]
    simpa only [List.any_eq_true, List.contains_iff_mem] using hoffered
  have hseek : g.check "my file.txt " none = g.seekPending (g.start (.read "my file.txt ") none) :=
    Grammar.matchPending_eq_seekPending hnumbered (g.onLine_start _ none)
  have hlength : (Line.read "my file.txt ").tokens.length = 2 := by decide +kernel
  refine ⟨g, hg, hs, hc, by decide +kernel, hlength, by rw [hseek, hconsumed], fun hmatch => ?_⟩
  have := hmatch.consumed
  rw [hseek, hconsumed, hlength] at this
  cases this

end CommandGrammar
