import CommandGrammar.Proofs.Check
import CommandGrammar.Proofs.Completion

/-! Which contexts the callbacks of a grammar are asked about. Two grammars agree on some contexts
if they have the same nodes, except that their conditions, candidates, help and actions may differ
in other contexts. If they agree on the contexts behind all ways, they match, complete and run a
line alike, so that nothing depends on what a callback says about any other context. -/

namespace CommandGrammar

variable {σ ε : Type}

/-! ### Agreeing callbacks -/

/-- The same source of candidates, as far as the contexts with a property can tell. -/
inductive CandidateSource.AgreeOn (P : Context σ → Prop) :
    CandidateSource σ → CandidateSource σ → Prop where
  | fixed (words : List String) : AgreeOn P (.fixed words) (.fixed words)
  | dynamic {offer offer' : Context σ → String → List String}
      (h : ∀ c, P c → offer c = offer' c) : AgreeOn P (.dynamic offer) (.dynamic offer')

/-- The same help, as far as the contexts with a property can tell. -/
inductive Help.AgreeOn (P : Context σ → Prop) : Help σ → Help σ → Prop where
  | text (text : String) : AgreeOn P (.text text) (.text text)
  | dynamic {entries entries' : Context σ → List (String × String)}
      (h : ∀ c, P c → entries c = entries' c) : AgreeOn P (.dynamic entries) (.dynamic entries')

/-- The same body, as far as the contexts with a property can tell. -/
inductive NodeBody.AgreeOn (P : Context σ → Prop) : NodeBody σ ε → NodeBody σ ε → Prop where
  | root : AgreeOn P .root .root
  | literal : AgreeOn P .literal .literal
  | var (kind : Kind) : AgreeOn P (.var kind) (.var kind)
  | action {run run' : Action σ ε} (h : ∀ c, P c → run c = run' c) :
      AgreeOn P (.action run) (.action run')

/-- The same node, as far as the contexts with a property can tell. -/
structure Node.AgreeOn (P : Context σ → Prop) (n m : Node σ ε) : Prop where
  toSite : n.toSite = m.toSite
  body : n.body.AgreeOn P m.body
  pattern : n.pattern = m.pattern
  literal : n.literal = m.literal
  help : Option.Rel (Help.AgreeOn P) n.help m.help
  candidates : Option.Rel (CandidateSource.AgreeOn P) n.candidates m.candidates
  matchCandidates : n.matchCandidates = m.matchCandidates
  conditions : List.Forall₂ (fun f f' => ∀ c, P c → f c = f' c) n.conditions m.conditions

/-- The same grammar, as far as the contexts with a property can tell. -/
structure Grammar.AgreeOn (P : Context σ → Prop) (g g' : Grammar σ ε) : Prop where
  node? : ∀ id, Option.Rel (Node.AgreeOn P) (g.node? id) (g'.node? id)
  labels : g.labels = g'.labels

namespace Node.AgreeOn

variable {P : Context σ → Prop} {n m : Node σ ε}

theorem isAction_eq (h : n.AgreeOn P m) : n.isAction = m.isAction := by
  have hbody := h.body
  unfold isAction
  generalize n.body = b, m.body = b' at hbody
  cases hbody <;> rfl

theorem value?_eq (h : n.AgreeOn P m) (text : String) : n.value? text = m.value? text := by
  have hbody := h.body
  unfold value?
  generalize n.body = b, m.body = b' at hbody
  cases hbody <;> rfl

theorem isStateless_eq (h : n.AgreeOn P m) : n.isStateless = m.isStateless := by
  have hempty : n.conditions.isEmpty = m.conditions.isEmpty := by
    rw [Bool.eq_iff_iff, List.isEmpty_iff_length_eq_zero, List.isEmpty_iff_length_eq_zero,
      h.conditions.length_eq]
  have hcandidates := h.candidates
  have hhelp := h.help
  unfold isStateless
  rw [hempty]
  generalize n.candidates = s, m.candidates = s', n.help = e, m.help = e' at hcandidates hhelp
  rcases hcandidates with (_ | _) | _ <;> rcases hhelp with (_ | _) | _ <;> rfl

theorem all_conditions_eq (h : n.AgreeOn P m) {c : Context σ} (hc : P c) :
    (n.conditions.all (· c)) = m.conditions.all (· c) := by
  have hconditions := h.conditions
  generalize n.conditions = fs, m.conditions = fs' at hconditions
  induction hconditions with
  | nil => rfl
  | cons hf _ ih => rw [List.all_cons, List.all_cons, hf c hc, ih]

theorem isOpen_eq (h : n.AgreeOn P m) {c : Context σ} (hc : P c) : n.isOpen c = m.isOpen c := by
  unfold isOpen
  rw [h.isAction_eq, h.toSite, h.all_conditions_eq hc]

theorem candidatesFor_eq (h : n.AgreeOn P m) {c : Context σ} (hc : P c) (typed : String) :
    n.candidatesFor c typed = m.candidatesFor c typed := by
  have hcandidates := h.candidates
  have hbody := h.body
  unfold candidatesFor
  generalize n.candidates = s, m.candidates = s', n.body = b, m.body = b' at hcandidates hbody
  cases hcandidates with
  | none => cases hbody <;> rfl
  | some hsource =>
    cases hsource with
    | fixed words => rfl
    | dynamic hoffer => exact congrFun (hoffer c hc) typed

theorem accepts_eq (h : n.AgreeOn P m) (text : String) : n.accepts text = m.accepts text := by
  have hbody := h.body
  unfold accepts fits
  rw [h.pattern]
  generalize n.body = b, m.body = b' at hbody
  cases hbody <;> rfl

theorem enter?_eq (h : n.AgreeOn P m) {c : Context σ} (hc : P c) (text : String) :
    n.enter? c text = m.enter? c text := by
  have hfits : n.fits text = m.fits text := by
    unfold fits
    rw [h.pattern]
  have hoffered : n.isOffered c text = m.isOffered c text := by
    unfold isOffered
    rw [h.matchCandidates, h.candidatesFor_eq hc]
  unfold enter?
  rw [h.isAction_eq, h.isOpen_eq hc, step?_eq, step?_eq, hfits, hoffered, h.value?_eq, h.toSite]

theorem nodeCandidates_eq (h : n.AgreeOn P m) {c : Context σ} (hc : P c) (typed : String) :
    Grammar.nodeCandidates c typed n = Grammar.nodeCandidates c typed m := by
  have hnone : n.candidates.isNone = m.candidates.isNone := by
    have hcandidates := h.candidates
    generalize n.candidates = s, m.candidates = s' at hcandidates
    cases hcandidates <;> rfl
  unfold Grammar.nodeCandidates
  rw [h.literal, hnone, h.toSite, h.candidatesFor_eq hc]
  simp only [h.accepts_eq]

theorem nodeHelp_eq (h : n.AgreeOn P m) {c : Context σ} (hc : P c) (typed : String) :
    Grammar.nodeHelp c typed n = Grammar.nodeHelp c typed m := by
  have hkey : n.helpKey = m.helpKey := by
    unfold helpKey
    rw [h.isAction_eq, h.literal, h.toSite]
  have hhelp := h.help
  unfold Grammar.nodeHelp helpText?
  rw [h.literal, hkey, h.toSite]
  generalize n.help = e, m.help = e' at hhelp
  cases hhelp with
  | none => rfl
  | some hentries =>
    cases hentries with
    | text text => rfl
    | dynamic hentries => simp only [hentries c hc]

end Node.AgreeOn

/-! ### Agreeing grammars -/

theorem Grammar.isStateless_iff {g : Grammar σ ε} :
    g.isStateless = true ↔ ∀ i n, g.node? i = some n → n.isStateless = true := by
  refine ⟨fun hs i n hn => isStateless_of_node? hs hn, fun h => ?_⟩
  refine Array.all_eq_true_iff_forall_mem.mpr fun n hn => ?_
  obtain ⟨i, hi⟩ := Array.getElem?_of_mem hn
  exact h i n hi

namespace Grammar.AgreeOn

variable {P : Context σ → Prop} {g g' : Grammar σ ε}

theorem following (h : g.AgreeOn P g') (id : Nat) :
    List.Forall₂ (Node.AgreeOn P) (g.following id) (g'.following id) := by
  have hid := h.node? id
  unfold Grammar.following
  generalize g.node? id = x, g'.node? id = y at hid
  cases hid with
  | none => exact .nil
  | some hn =>
    dsimp only
    rw [hn.toSite]
    refine List.rel_filterMap (R := Eq) ?_ (List.forall₂_refl _)
    rintro i _ rfl
    exact h.node? i

theorem outline_eq (h : g.AgreeOn P g') : g.outline = g'.outline := by
  have hsites : g.nodes.map (·.toSite) = g'.nodes.map (·.toSite) := by
    refine Array.ext_getElem? fun i => ?_
    have hi : Option.Rel (Node.AgreeOn P) g.nodes[i]? g'.nodes[i]? := h.node? i
    rw [Array.getElem?_map, Array.getElem?_map]
    generalize g.nodes[i]? = x, g'.nodes[i]? = y at hi
    cases hi with
    | none => rfl
    | some hn => exact congrArg some hn.toSite
  unfold outline
  rw [hsites, h.labels]

theorem exists_node? (h : g.AgreeOn P g') {i : Nat} {m : Node σ ε} (hm : g'.node? i = some m) :
    ∃ n, g.node? i = some n ∧ n.AgreeOn P m := by
  have hi := h.node? i
  rw [hm] at hi
  generalize g.node? i = x at hi ⊢
  cases hi with
  | some hn => exact ⟨_, rfl, hn⟩

theorem numbered (h : g.AgreeOn P g') (hg : g.Numbered) : g'.Numbered where
  id_eq hm := by
    obtain ⟨n, hn, hagree⟩ := h.exists_node? hm
    rw [← hagree.toSite]
    exact hg.id_eq hn
  pattern_of_isAction hm ha := by
    obtain ⟨n, hn, hagree⟩ := h.exists_node? hm
    rw [← hagree.pattern]
    exact hg.pattern_of_isAction hn (hagree.isAction_eq.trans ha)

theorem isStateless_eq (h : g.AgreeOn P g') : g.isStateless = g'.isStateless := by
  rw [Bool.eq_iff_iff, isStateless_iff, isStateless_iff]
  refine forall_congr' fun i => ?_
  have hi := h.node? i
  generalize g.node? i = x, g'.node? i = y at hi
  cases hi with
  | none => simp
  | some hn => simp [hn.isStateless_eq]

/-- Where two grammars agree, they reach the same action. -/
theorem finish?_eq (h : g.AgreeOn P g') {c : Context σ} (hc : P c) :
    g.finish? c = g'.finish? c := by
  have hfollowing := h.following c.position
  unfold finish?
  generalize g.following c.position = ns, g'.following c.position = ms at hfollowing
  induction hfollowing with
  | nil => rfl
  | cons hn _ ih =>
    rw [List.find?_cons, List.find?_cons, hn.isAction_eq, hn.isOpen_eq hc]
    split
    · simp only [Option.map_some, hn.toSite]
    · exact ih

/-- Where two grammars agree, they go on with the same contexts. -/
theorem filterMap_enter?_eq (h : g.AgreeOn P g') {c : Context σ} (hc : P c) (text : String) :
    (g.following c.position).filterMap (·.enter? c text) =
      (g'.following c.position).filterMap (·.enter? c text) := by
  refine List.forall₂_eq_eq_eq ▸ List.rel_filterMap ?_ (h.following c.position)
  intro n m hn
  dsimp only
  rw [hn.enter?_eq hc]
  cases m.enter? c text with
  | none => exact .none
  | some d => exact .some rfl

theorem metWith_eq (h : g.AgreeOn P g') {tokens : List Token} {c : Context σ}
    (hmet : ∀ d ∈ g.metWith tokens c, P d) : g.metWith tokens c = g'.metWith tokens c := by
  induction tokens generalizing c with
  | nil => rfl
  | cons token tokens ih =>
    rw [metWith_cons, List.forall_mem_cons] at hmet
    obtain ⟨hc, hrest⟩ := hmet
    rw [metWith_cons, metWith_cons, ← h.filterMap_enter?_eq hc]
    refine congrArg (c :: ·) (List.flatMap_congr fun d hd => ih fun e he => ?_)
    exact hrest e (List.mem_flatMap.mpr ⟨d, hd, he⟩)

theorem arrivalsWith_eq (h : g.AgreeOn P g') {tokens : List Token} {c : Context σ}
    (hmet : ∀ d ∈ g.metWith tokens c, P d) :
    g.arrivalsWith tokens c = g'.arrivalsWith tokens c := by
  induction tokens generalizing c with
  | nil => rfl
  | cons token tokens ih =>
    rw [metWith_cons, List.forall_mem_cons] at hmet
    obtain ⟨hc, hrest⟩ := hmet
    rw [arrivalsWith_cons, arrivalsWith_cons, ← h.filterMap_enter?_eq hc]
    refine List.flatMap_congr fun d hd => ih fun e he => ?_
    exact hrest e (List.mem_flatMap.mpr ⟨d, hd, he⟩)

end Grammar.AgreeOn

namespace Grammar

theorem arrivalsWith_subset_metWith (g : Grammar σ ε) (tokens : List Token) (c : Context σ) :
    g.arrivalsWith tokens c ⊆ g.metWith tokens c :=
  List.map_subset _ (List.filter_subset_self _)

namespace AgreeOn

variable {P : Context σ → Prop} {g g' : Grammar σ ε}

theorem answerWith_eq (h : g.AgreeOn P g') {tokens : List Token} {c : Context σ}
    (hmet : ∀ d ∈ g.metWith tokens c, P d) : g.answerWith tokens c = g'.answerWith tokens c := by
  unfold answerWith
  rw [← h.arrivalsWith_eq hmet]
  have hall : ∀ d ∈ g.arrivalsWith tokens c, P d :=
    fun d hd => hmet d (g.arrivalsWith_subset_metWith tokens c hd)
  generalize g.arrivalsWith tokens c = ds at hall
  induction ds with
  | nil => rfl
  | cons d ds ih =>
    rw [List.forall_mem_cons] at hall
    rw [List.findSome?_cons, List.findSome?_cons, h.finish?_eq hall.1, ih hall.2]

/-! ### Lines -/

theorem start_eq (h : g.AgreeOn P g') (l : Line) (user : Option σ) :
    g.start l user = g'.start l user := by
  rw [start, start, h.outline_eq]

theorem onLine (h : g.AgreeOn P g') {l : Line} {c : Context σ} (hc : g.OnLine l c) :
    g'.OnLine l c :=
  ⟨hc.consistent, hc.outline.trans h.outline_eq, hc.line⟩

theorem matchPending_eq (h : g.AgreeOn P g') (hg : g.Numbered) {l : Line} {c : Context σ}
    (hc : g.OnLine l c) (hmet : ∀ d ∈ g.metWith c.pending c, P d) :
    g.matchPending c = g'.matchPending c := by
  rw [Grammar.matchPending_eq hg hc, Grammar.matchPending_eq (h.numbered hg) (h.onLine hc),
    h.answerWith_eq hmet, h.metWith_eq hmet]

theorem positions_eq (h : g.AgreeOn P g') (hg : g.Numbered) {l : Line} {c : Context σ}
    (hc : g.OnLine l c) (hmet : ∀ d ∈ g.metWith c.pending c, P d) :
    g.positions c = g'.positions c := by
  have hevery : g.everyPosition c = g'.everyPosition c := by
    rw [everyPosition_eq, everyPosition_eq]
    exact h.arrivalsWith_eq hmet
  cases hs : g.isStateless with
  | true =>
    rw [Grammar.positions_eq hg hs hc,
      Grammar.positions_eq (h.numbered hg) (h.isStateless_eq ▸ hs) (h.onLine hc), hevery]
  | false =>
    rw [positions_eq_everyPosition hs, positions_eq_everyPosition (h.isStateless_eq ▸ hs), hevery]

theorem check_eq (h : g.AgreeOn P g') (hg : g.Numbered) {input : String} {user : Option σ}
    (hmet : ∀ d ∈ g.metWith (g.start (.read input) user).pending (g.start (.read input) user),
      P d) : g.check input user = g'.check input user := by
  change g.matchPending (g.start (.read input) user) =
    g'.matchPending (g'.start (.read input) user)
  rw [← h.start_eq]
  exact h.matchPending_eq hg (g.onLine_start _ user) hmet

theorem typing_eq (h : g.AgreeOn P g') (hg : g.Numbered) {input : String} {user : Option σ}
    (hmet : ∀ d ∈ g.metWith (g.typingStart input user).pending (g.typingStart input user), P d) :
    g.typing input user = g'.typing input user := by
  change (g.positions (g.typingStart input user), _) = (g'.positions (g'.typingStart input user), _)
  have hstart : g.typingStart input user = g'.typingStart input user := h.start_eq _ user
  rw [← hstart]
  exact congrArg (·, _) (h.positions_eq hg (g.onLine_start _ user) hmet)

/-- Where two grammars agree, they run the same action. -/
theorem execute_eq (h : g.AgreeOn P g') {c : Context σ} (hc : P c) :
    g.execute c = g'.execute c := by
  unfold execute
  cases c.action with
  | none => rfl
  | some id =>
    have hid := h.node? id
    rw [Option.bind_some, Option.bind_some]
    generalize g.node? id = x, g'.node? id = y at hid
    cases hid with
    | none => rfl
    | @some n m hn =>
      have hbody := hn.body
      dsimp only
      generalize n.body = b, m.body = b' at hbody
      cases hbody with
      | action hrun => simp only [hrun c hc]
      | _ => rfl

/-- Where two grammars agree, they ask the same nodes. -/
theorem flatMap_filter_eq (h : g.AgreeOn P g') {c : Context σ} (hc : P c) {α : Type}
    (asked : Bool → Bool → Bool) {f : Node σ ε → List α} (hf : ∀ n m, n.AgreeOn P m → f n = f m) :
    ((g.following c.position).filter fun n => asked n.isAction (n.isOpen c)).flatMap f =
      ((g'.following c.position).filter fun n => asked n.isAction (n.isOpen c)).flatMap f := by
  refine List.forall₂_eq_eq_eq ▸ List.rel_flatMap (R := Node.AgreeOn P) ?_ fun n m hn => ?_
  · refine List.rel_filter (fun n m hn => ?_) (h.following c.position)
    dsimp only
    rw [hn.isAction_eq, hn.isOpen_eq hc]
  · rw [hf n m hn]
    exact List.forall₂_refl _

theorem contextCandidates_eq (h : g.AgreeOn P g') {c : Context σ} (hc : P c) (typed : String) :
    g.contextCandidates c typed = g'.contextCandidates c typed :=
  h.flatMap_filter_eq hc (fun isAction isOpen => !isAction && isOpen)
    fun _ _ hn => hn.nodeCandidates_eq hc typed

theorem contextHelp_eq (h : g.AgreeOn P g') {c : Context σ} (hc : P c) (typed : String) :
    g.contextHelp c typed = g'.contextHelp c typed :=
  h.flatMap_filter_eq hc (fun isAction isOpen => isOpen && !(isAction && !typed.isEmpty))
    fun _ _ hn => hn.nodeHelp_eq hc typed

theorem parse_eq (h : g.AgreeOn P g') {input : String} {user : Option σ}
    (hcheck : g.check input user = g'.check input user) (hc : P (g.check input user)) :
    g.parse input user = g'.parse input user := by
  unfold parse
  dsimp only
  rw [← hcheck, h.execute_eq hc]

theorem complete_eq (h : g.AgreeOn P g') {input : String} {user : Option σ}
    (htyping : g.typing input user = g'.typing input user)
    (hall : ∀ c ∈ (g.typing input user).1, P c) :
    g.complete input user = g'.complete input user := by
  unfold complete
  rw [← htyping]
  exact congrArg inOrder (List.flatMap_congr fun c hc => h.contextCandidates_eq (hall c hc) _)

theorem help_eq (h : g.AgreeOn P g') {input : String} {user : Option σ}
    (htyping : g.typing input user = g'.typing input user)
    (hall : ∀ c ∈ (g.typing input user).1, P c) : g.help input user = g'.help input user := by
  unfold help
  rw [← htyping]
  exact congrArg (List.foldl HelpTable.insert .empty)
    (List.flatMap_congr fun c hc => h.contextHelp_eq (hall c hc) _)

end AgreeOn

end Grammar

end CommandGrammar
