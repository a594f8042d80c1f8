import CommandGrammar.Proofs.Check
import CommandGrammar.Proofs.Completion
import CommandGrammar.Proofs.Splitting

/-! When help tells that a line may end. Matching a line stops at the first complete way, and help
asks what follows all ways that match the complete tokens. They agree: if nothing is being typed,
help lists the end of the line if and only if the line reaches an action. -/

namespace CommandGrammar

variable {σ ε : Type}

namespace Grammar

/-- Only actions are listed under the key for the end of the line. -/
structure MarksEnds (g : Grammar σ ε) : Prop where
  static : ∀ i n entries, g.node? i = some n → n.help ≠ some (.dynamic entries)
  helpKey_ne : ∀ i n, g.node? i = some n → n.isAction = false → n.helpKey ≠ "<eol>"

variable {g : Grammar σ ε}

theorem nodeHelp_of_static {n : Node σ ε} (h : ∀ entries, n.help ≠ some (.dynamic entries))
    (c : Context σ) (typed : String) :
    nodeHelp c typed n = if n.literal && !n.name.startsWith typed then []
      else [⟨n.helpKey, n.helpText?.getD "", n.group⟩] := by
  unfold nodeHelp
  split
  · next entries he => exact absurd he (h entries)
  · rfl

theorem MarksEnds.helpKey_eq_iff (h : g.MarksEnds) {i : Nat} {n : Node σ ε}
    (hn : g.node? i = some n) : n.helpKey = "<eol>" ↔ n.isAction = true := by
  cases ha : n.isAction with
  | false => simp [h.helpKey_ne i n hn ha]
  | true => simp [Node.helpKey, ha]

theorem finish?_ne_none_iff {c : Context σ} :
    g.finish? c ≠ none ↔
      ∃ n ∈ g.following c.position, n.isAction = true ∧ n.isOpen c = true := by
  simp [finish?]

/-- The end of the line is listed in a context if and only if an action can be reached. -/
theorem MarksEnds.exists_contextHelp_iff (h : g.MarksEnds) (hg : g.Numbered) (c : Context σ) :
    (∃ e ∈ g.contextHelp c "", e.key = "<eol>") ↔ g.finish? c ≠ none := by
  rw [finish?_ne_none_iff, contextHelp]
  have hhelp {n : Node σ ε} (hn : n ∈ g.following c.position) :
      nodeHelp c "" n = [⟨n.helpKey, n.helpText?.getD "", n.group⟩] := by
    rw [nodeHelp_of_static fun entries => h.static n.id n entries (node?_of_mem_following hg hn),
      if_neg (by simp)]
  constructor
  · rintro ⟨e, he, hkey⟩
    obtain ⟨n, hn, he⟩ := List.mem_flatMap.mp he
    obtain ⟨hmem, hasked⟩ := List.mem_filter.mp hn
    rw [hhelp hmem, List.mem_singleton] at he
    subst he
    exact ⟨n, hmem, (h.helpKey_eq_iff (node?_of_mem_following hg hmem)).mp hkey,
      (Bool.and_eq_true_iff.mp hasked).1⟩
  · rintro ⟨n, hmem, ha, ho⟩
    refine ⟨⟨n.helpKey, n.helpText?.getD "", n.group⟩, List.mem_flatMap.mpr ⟨n, ?_, ?_⟩,
      (h.helpKey_eq_iff (node?_of_mem_following hg hmem)).mpr ha⟩
    · exact List.mem_filter.mpr ⟨hmem, by simp [ho]⟩
    · rw [hhelp hmem]
      exact List.mem_singleton_self _

theorem answerWith_ne_none_iff {c : Context σ} :
    g.answerWith c.pending c ≠ none ↔ ∃ d ∈ g.everyPosition c, g.finish? d ≠ none := by
  have hevery : g.everyPosition c = g.arrivalsWith c.pending c := everyPosition_eq g c
  rw [hevery, answerWith, ne_eq, List.findSome?_eq_none_iff]
  simp

theorem isComplete_check_iff (hg : g.Numbered) (input : String) (user : Option σ) :
    (g.check input user).isComplete = true ↔
      g.answerWith (g.start (.read input) user).pending (g.start (.read input) user) ≠ none := by
  rw [ne_eq, answerWith_eq_none_iff hg]
  rcases check_cases hg input user with ⟨way, place, d, n, hw, hc⟩ | ⟨hno, way, hw⟩
  · rw [hc]
    exact ⟨fun _ hno => hno ⟨way, place, d, n, hw.toCompletes⟩, fun _ => rfl⟩
  · have ha := (records_of_follow? hg hw.follows).2.2
    simp [Context.isComplete, ha, hno]

/-- An entry is in the help for a line if it is listed in one of the contexts. -/
theorem get?_help_isSome (g : Grammar σ ε) (input : String) (user : Option σ) (key : String) :
    ((g.help input user).get? key).isSome = true ↔
      ∃ d ∈ (g.typing input user).1, ∃ e ∈ g.contextHelp d (g.typing input user).2,
        e.key = key := by
  unfold help
  rw [HelpTable.get?_foldl_insert_isSome]
  simp [HelpTable.empty, HelpTable.get?]

theorem typing_of_fragment {input : String} (h : (Line.read input).splitTrailing.2 = "")
    (user : Option σ) : g.typing input user = (g.positions (g.start (.read input) user), "") := by
  change (g.positions (g.start (Line.read input).splitTrailing.1 user),
    (Line.read input).splitTrailing.2) = _
  rw [Line.splitTrailing_eq_self h, h]

end Grammar

/-- If nothing is being typed, help lists the end of the line if and only if the line reaches an
action. -/
theorem help_end_iff_check {b : Builder σ ε} {g : Grammar σ ε} (h : b.build = .ok g)
    (hstatic : ∀ i n entries, g.node? i = some n → n.help ≠ some (.dynamic entries))
    (hkey : ∀ i n, g.node? i = some n → n.isAction = false → n.helpKey ≠ "<eol>")
    {input : String} (hfragment : (Line.read input).splitTrailing.2 = "") (user : Option σ) :
    ((g.help input user).get? "<eol>").isSome = true ↔
      (g.check input user).isComplete = true := by
  have hg := b.numbered_of_build h
  have hends : g.MarksEnds := ⟨hstatic, hkey⟩
  have hc := g.onLine_start (.read input) user
  rw [Grammar.get?_help_isSome, Grammar.typing_of_fragment hfragment,
    Grammar.isComplete_check_iff hg, Grammar.answerWith_ne_none_iff]
  simp only [hends.exists_contextHelp_iff hg]
  refine Grammar.exists_position_iff hg hc fun hs d e hde he hd => ?_
  exact he ((hde.finish?_eq_none_iff hg hs).mp hd)

theorem help_tags_end :
    ∃ g, Sample.tags.build = .ok g ∧ (Line.read "tags a end ").splitTrailing.2 = "" ∧
      ((g.help "tags a end " none).get? "<eol>").isSome = true := by
  obtain ⟨g, hg, hval⟩ := Sample.tags.exists_build
    (f := fun g =>
      (g.nodes.all (fun n => n.help.isNone && (n.isAction || n.helpKey != "<eol>")),
        (g.answerWith (g.start (.read "tags a end ") none).pending
          (g.start (.read "tags a end ") none)).isSome))
    (v := (true, true)) (by decide +kernel)
  obtain ⟨hall, hanswer⟩ := Prod.mk.inj hval
  have hfragment : (Line.read "tags a end ").splitTrailing.2 = "" := by decide +kernel
  have hnode (i : Nat) (n : Node Unit String) (hn : g.node? i = some n) :
      n.help = none ∧ (n.isAction = false → n.helpKey ≠ "<eol>") := by
    have := Array.all_eq_true_iff_forall_mem.mp hall n (Array.mem_of_getElem? hn)
    simp only [Bool.and_eq_true, Option.isNone_iff_eq_none, Bool.or_eq_true, bne_iff_ne] at this
    exact ⟨this.1, fun ha => this.2.resolve_left (by rw [ha]; exact Bool.false_ne_true)⟩
  have hiff := help_end_iff_check hg
    (fun i n entries hn he => by rw [(hnode i n hn).1] at he; cases he)
    (fun i n hn => (hnode i n hn).2) hfragment none
  refine ⟨g, hg, hfragment, hiff.mpr ?_⟩
  rw [Grammar.isComplete_check_iff (Sample.tags.numbered_of_build hg)]
  exact Option.isSome_iff_ne_none.mp hanswer

end CommandGrammar
