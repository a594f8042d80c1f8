import CommandGrammar.Proofs.DeadEnds
import CommandGrammar.Proofs.EndOfLine
import CommandGrammar.Proofs.Narrowing

/-! Candidates beside help. Both ask the nodes that may follow, each in its own way: help lists what
cannot be typed in angle brackets, and lists every key once. In a grammar that shows nothing but the
names of its nodes they agree: the candidates are the keys of help that can be typed, each with a
space behind it, whatever conditions the nodes have. -/

namespace CommandGrammar

variable {σ ε : Type}

/-! ### Keys that can be typed -/

/-- The key is typed as it is. Any other stands for something that is typed in its place. -/
def HelpEntry.isWord (e : HelpEntry) : Bool := !e.key.startsWith "<"

/-- The keys that are typed as they are, in order. -/
def HelpTable.words (t : HelpTable) : List String := (t.entries.filter (·.isWord)).map (·.key)

theorem HelpTable.mem_words_iff {t : HelpTable} {w : String} :
    w ∈ t.words ↔ w.startsWith "<" = false ∧ (t.get? w).isSome = true := by
  simp only [words, get?, HelpEntry.isWord, List.mem_map, List.mem_filter, Bool.not_eq_true',
    List.find?_isSome, beq_iff_eq]
  constructor
  · rintro ⟨e, ⟨he, hword⟩, rfl⟩
    exact ⟨hword, e, he, rfl⟩
  · rintro ⟨hword, e, he, rfl⟩
    exact ⟨e, ⟨he, hword⟩, rfl⟩

/-! ### Nodes -/

namespace Node

/-- Nothing is shown of the node but its name, which does not look like a key that cannot be
typed. -/
structure Plain (n : Node σ ε) : Prop where
  static : ∀ entries, n.help ≠ some (.dynamic entries)
  noSource : n.candidates = none
  noOffer : ∀ kind, n.body = .var kind → ∀ typed, kind.candidates typed = []
  name : n.literal = true → n.name.startsWith "<" = false

variable {n : Node σ ε}

/-- The name of a literal is the only key that can be typed. -/
theorem Plain.startsWith_helpKey (h : n.Plain) :
    n.helpKey.startsWith "<" = (n.isAction || !n.literal) := by
  unfold helpKey
  split
  · next ha =>
    rw [ha, Bool.true_or]
    decide +kernel
  · next ha =>
    rw [eq_false_of_ne_true ha, Bool.false_or]
    split
    · next hl => rw [hl, h.name hl, Bool.not_true]
    · next hl =>
      rw [eq_false_of_ne_true hl, Bool.not_false, String.startsWith_string_iff, String.append_assoc,
        String.toList_append]
      exact List.prefix_append _ _

theorem Plain.candidatesFor_eq (h : n.Plain) (c : Context σ) (typed : String) :
    n.candidatesFor c typed = [] := by
  unfold candidatesFor
  rw [h.noSource]
  cases hbody : n.body with
  | var kind => exact h.noOffer kind hbody typed
  | _ => rfl

/-- Only a literal is offered, … -/
theorem Plain.mem_nodeCandidates_iff (h : n.Plain) {c : Context σ} {typed w : String} :
    w ∈ Grammar.nodeCandidates c typed n ↔
      n.literal = true ∧ n.name.startsWith typed = true ∧ w = n.name ++ " " := by
  unfold Grammar.nodeCandidates
  rw [h.noSource, Option.isNone_none, Bool.and_true]
  cases hl : n.literal with
  | true =>
    rw [if_pos rfl]
    split <;> simp_all
  | false => simp [h.candidatesFor_eq]

/-- … and only the key of a literal is listed that can be typed. -/
theorem Plain.exists_word_iff (h : n.Plain) (ha : n.isAction = false) {c : Context σ}
    {typed w : String} :
    (∃ e ∈ Grammar.nodeHelp c typed n, e.isWord = true ∧ e.key = w) ↔
      n.literal = true ∧ n.name.startsWith typed = true ∧ w = n.name := by
  rw [Grammar.nodeHelp_of_static h.static]
  cases hl : n.literal with
  | true =>
    have hname : n.helpKey = n.name := by simp [helpKey, ha, hl]
    cases n.name.startsWith typed with
    | true =>
      simp only [Bool.not_true, Bool.and_false, Bool.false_eq_true, if_false, List.mem_singleton,
        exists_eq_left, HelpEntry.isWord, hname, h.name hl, Bool.not_false, true_and]
      exact eq_comm
    | false => simp
  | false =>
    have hkey : n.helpKey.startsWith "<" = true := by rw [h.startsWith_helpKey, ha, hl]; rfl
    simp only [Bool.false_and, Bool.false_eq_true, if_false, List.mem_singleton, exists_eq_left,
      HelpEntry.isWord, hkey, Bool.not_true, false_and]

end Node

/-! ### Contexts -/

namespace Grammar

variable {g : Grammar σ ε}

/-- The nodes of the grammar are plain. -/
def Plain (g : Grammar σ ε) : Prop := ∀ i n, g.node? i = some n → n.Plain

/-- A context offers what it lists and can be typed. Actions are asked by help alone, and their key
cannot be typed. -/
theorem Plain.mem_contextCandidates_iff (h : g.Plain) (hg : g.Numbered) {c : Context σ}
    {typed w : String} :
    w ∈ g.contextCandidates c typed ↔
      ∃ e ∈ g.contextHelp c typed, e.isWord = true ∧ w = e.key ++ " " := by
  have hplain {n : Node σ ε} (hn : n ∈ g.following c.position) : n.Plain :=
    h n.id n (node?_of_mem_following hg hn)
  rw [Grammar.mem_contextCandidates_iff]
  constructor
  · rintro ⟨n, hn, ha, ho, hw⟩
    obtain ⟨hl, htyped, rfl⟩ := (hplain hn).mem_nodeCandidates_iff.mp hw
    obtain ⟨e, he, hword, hkey⟩ :=
      ((hplain hn).exists_word_iff ha (c := c)).mpr ⟨hl, htyped, rfl⟩
    refine ⟨e, List.mem_flatMap.mpr ⟨n, ?_, he⟩, hword, by rw [hkey]⟩
    exact List.mem_filter.mpr ⟨hn, by simp [ho, ha]⟩
  · rintro ⟨e, he, hword, rfl⟩
    obtain ⟨n, hn, he⟩ := List.mem_flatMap.mp he
    obtain ⟨hn, hasked⟩ := List.mem_filter.mp hn
    have ha : n.isAction = false := by
      have hkey := (hplain hn).startsWith_helpKey
      rw [← key_of_mem_nodeHelp (hplain hn).static he, Bool.not_eq_true' _ |>.mp hword] at hkey
      exact (Bool.or_eq_false_iff.mp hkey.symm).1
    obtain ⟨hl, htyped, hkey⟩ := ((hplain hn).exists_word_iff ha).mp ⟨e, he, hword, rfl⟩
    refine ⟨n, hn, ha, (Bool.and_eq_true_iff.mp hasked).1, ?_⟩
    exact (hplain hn).mem_nodeCandidates_iff.mpr ⟨hl, htyped, by rw [hkey]⟩

end Grammar

/-- In a grammar of which nothing is shown but names, the candidates for a line that is being typed
are the keys of its help that can be typed, each with a space behind it. -/
theorem complete_eq_words_of_help {b : Builder σ ε} {g : Grammar σ ε} (h : b.build = .ok g)
    (hplain : g.Plain) (input : String) (user : Option σ) :
    g.complete input user = Grammar.inOrder ((g.help input user).words.map (· ++ " ")) := by
  have hg := b.numbered_of_build h
  rw [Grammar.complete]
  refine Grammar.inOrder_congr fun w => ?_
  rw [List.mem_map]
  constructor
  · intro hw
    obtain ⟨d, hd, hw⟩ := List.mem_flatMap.mp hw
    obtain ⟨e, he, hword, rfl⟩ := (hplain.mem_contextCandidates_iff hg).mp hw
    refine ⟨e.key, HelpTable.mem_words_iff.mpr ⟨Bool.not_eq_true' _ |>.mp hword, ?_⟩, rfl⟩
    exact (g.get?_help_isSome input user e.key).mpr ⟨d, hd, e, he, rfl⟩
  · rintro ⟨key, hkey, rfl⟩
    obtain ⟨hword, hlisted⟩ := HelpTable.mem_words_iff.mp hkey
    obtain ⟨d, hd, e, he, rfl⟩ := (g.get?_help_isSome input user key).mp hlisted
    refine List.mem_flatMap.mpr ⟨d, hd, (hplain.mem_contextCandidates_iff hg).mpr ?_⟩
    exact ⟨e, he, Bool.not_eq_true' _ |>.mpr hword, rfl⟩

namespace Sample

/-- The command `open` can be repeated, and `order` is for users. -/
def counter : Builder Unit String where
  elements := [
    .node { body := .literal, name := some "open", traversals := some 0 } [
      .link { target := "../../*" }],
    .node { body := .literal, name := some "order", condition := some fun c => c.user.isSome } [],
    .node { body := .var .integer, name := some "count" } []]
  merges := []

theorem counter_plain {g : Grammar Unit String} (h : counter.build = .ok g)
    (hall : g.nodes.all (fun n => n.help.isNone && n.candidates.isNone &&
      !(n.literal && n.name.startsWith "<")) = true) : g.Plain := by
  intro i n hn
  have hnode := Array.all_eq_true_iff_forall_mem.mp hall n (Array.mem_of_getElem? hn)
  simp only [Bool.and_eq_true, Option.isNone_iff_eq_none, Bool.not_eq_true'] at hnode
  obtain ⟨⟨hhelp, hsource⟩, hname⟩ := hnode
  refine ⟨by simp [hhelp], hsource, fun k hk => ?_, fun hl => by simpa [hl] using hname⟩
  refine Builder.forall_kind_of_build h (P := fun k => ∀ typed, k.candidates typed = [])
    (fun e he decl inherited k item hk => ?_) hn hk
  change e ∈ [_, _, _, _] at he
  simp only [List.mem_cons, List.not_mem_nil, or_false] at he
  rcases he with rfl | rfl | rfl | rfl <;> cases item <;> cases hk
  exact fun _ => rfl

end Sample

theorem complete_eq_words_of_help_counter :
    ∃ g, Sample.counter.build = .ok g ∧ g.Plain ∧
      (g.help "open o" (some ())).pairs = [("open", ""), ("order", ""), ("<count>", "")] ∧
      g.complete "open o" (some ()) = Grammar.inOrder ["open ", "order "] ∧
      g.complete "open o" none = Grammar.inOrder ["open "] := by
  obtain ⟨g, hg, hval⟩ := Sample.counter.exists_build
    (f := fun g =>
      ((g.nodes.all (fun n => n.help.isNone && n.candidates.isNone &&
          !(n.literal && n.name.startsWith "<")), g.isStateless),
        (g.helpEvery "open o" (some ())).pairs,
        (g.helpEvery "open o" (some ())).words, (g.helpEvery "open o" none).words))
    (v := ((true, false), [("open", ""), ("order", ""), ("<count>", "")], ["open", "order"],
      ["open"])) (by decide +kernel)
  obtain ⟨hnodes, hval⟩ := Prod.mk.inj hval
  obtain ⟨hall, hs⟩ := Prod.mk.inj hnodes
  obtain ⟨hpairs, hwords⟩ := Prod.mk.inj hval
  obtain ⟨hwith, hwithout⟩ := Prod.mk.inj hwords
  have hhelp (user : Option Unit) : g.help "open o" user = g.helpEvery "open o" user := by
    rw [Grammar.helpEvery, ← Grammar.positions_eq_everyPosition hs]
    rfl
  have hplain := Sample.counter_plain hg hall
  have heq (user : Option Unit) := complete_eq_words_of_help hg hplain "open o" user
  refine ⟨g, hg, hplain, by rw [hhelp, hpairs], ?_, ?_⟩
  · rw [heq, hhelp, hwith]
    rfl
  · rw [heq, hhelp, hwithout]
    rfl

end CommandGrammar
