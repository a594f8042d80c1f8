import CommandGrammar.Proofs.Trail

/-! Edges that lead nowhere. An edge leads to an action, to a node that has a pattern, or to the
root: the root has no pattern, so no token gets past such an edge. It is there if and only if an
alias in the node denotes the root, by the target of a single slash or by enough double points. Only
help tells of it: for the root it lists an empty name in brackets. -/

namespace CommandGrammar

variable {σ ε : Type}

namespace Node

/-- The node is an action, or has a pattern that a token may match. -/
def LeadsOn (n : Node σ ε) : Prop := n.isAction = true ∨ n.pattern.isSome = true

end Node

/-! ### Aliases that denote the root -/

namespace Listing

variable {l : Listing σ ε}

/-- An alias in the node at the place denotes the root. -/
def ReturnsToRoot (l : Listing σ ε) (place : List String) : Prop :=
  ∃ e ∈ l.under place, ∃ decl, e.item = .link decl ∧ l.denoted e.place decl.target = []

/-- Names that lead to the root are no names. -/
theorem nil_mem_targets_iff {names : List String} : [] ∈ l.targets names ↔ names = [] := by
  refine ⟨fun h => ?_, ?_⟩
  · cases hlast : names.getLast? with
    | none => exact List.getLast?_eq_none_iff.mp hlast
    | some last =>
      rw [targets, hlast] at h
      dsimp only at h
      split at h
      · split at h
        · obtain ⟨e, -, he⟩ := List.mem_map.mp h
          exact absurd he e.place_ne_nil
        · cases h
      · exact (List.mem_singleton.mp h).symm
  · rintro rfl
    exact List.mem_singleton_self _

theorem nil_mem_leads_iff {e : Entry σ ε} :
    [] ∈ l.leads e ↔ ∃ decl, e.item = .link decl ∧ l.denoted e.place decl.target = [] := by
  unfold leads
  cases item : e.item with
  | node decl inherited => simp [e.place_ne_nil.symm]
  | link decl => simp [nil_mem_targets_iff]

/-- The root follows a place if and only if an alias denotes it there. -/
theorem follows_root_iff {p : List String} : l.Follows p [] ↔ l.ReturnsToRoot p := by
  simp only [Follows, ReturnsToRoot, List.mem_flatMap, nil_mem_leads_iff]

end Listing

/-! ### Edges -/

theorem Draft.isSome_of_compilePattern {decl : NodeDecl σ ε} {name path : String}
    {pattern : Option Pattern} (h : compilePattern decl name path = .ok pattern) :
    declaresAction decl = true ∨ pattern.isSome = true := by
  unfold compilePattern at h
  split at h
  · next run hbody =>
    rw [declaresAction, hbody]
    exact .inl rfl
  · split at h
    · cases h
      exact .inr rfl
    · cases h

/-- A node that is no root is an action or has a pattern. -/
theorem Listing.Makes.leadsOn {l : Listing σ ε} {i : Nat} {n : Node σ ε} (h : l.Makes i n)
    (hi : i ≠ 0) : n.LeadsOn := by
  cases h with
  | root => exact absurd rfl hi
  | node children edges entry item parent_le parent_place compiled =>
    exact Draft.isSome_of_compilePattern compiled

namespace Grammar

/-- Every edge leads to an action or to a node that has a pattern, and none leads to the root. -/
def NoDeadEnds (g : Grammar σ ε) : Prop :=
  ∀ i n, g.node? i = some n → ∀ j ∈ n.edges, j ≠ 0 ∧ ∃ m, g.node? j = some m ∧ m.LeadsOn

namespace Shows

variable {g : Grammar σ ε} {l : Listing σ ε}

theorem root_mem_edges_iff (h : g.Shows l) {i : Nat} {n : Node σ ε} (hn : g.node? i = some n)
    {place : List String} (hi : l.places[i]? = some place) :
    0 ∈ n.edges ↔ l.ReturnsToRoot place := by
  rw [(h.edges hn hi).mem_iff h.clean Listing.root_place, ← Listing.follows_root_iff]
  rfl

/-- An edge that does not lead to the root leads on. -/
theorem leadsOn_of_mem_edges (h : g.Shows l) {i j : Nat} {n : Node σ ε} (hn : g.node? i = some n)
    (hj : j ∈ n.edges) (hroot : j ≠ 0) : ∃ m, g.node? j = some m ∧ m.LeadsOn := by
  obtain ⟨place, hi⟩ := h.exists_place hn
  obtain ⟨q, -, hq⟩ := (h.edges hn hi).exists_place hj
  obtain ⟨m, hm⟩ := h.exists_node hq
  exact ⟨m, hm, (h.made hm).leadsOn hroot⟩

theorem noDeadEnds_iff (h : g.Shows l) : g.NoDeadEnds ↔ ∀ place, ¬l.ReturnsToRoot place := by
  constructor
  · intro hno place hreturns
    have hlink := hreturns
    obtain ⟨e, he, -⟩ := hlink
    obtain ⟨hmem, rfl⟩ := Listing.mem_under.mp he
    obtain ⟨i, hi⟩ := List.mem_iff_getElem?.mp (h.clean.parents e hmem)
    obtain ⟨n, hn⟩ := h.exists_node hi
    exact (hno i n hn 0 ((h.root_mem_edges_iff hn hi).mpr hreturns)).1 rfl
  · intro hno i n hn j hj
    obtain ⟨place, hi⟩ := h.exists_place hn
    have hroot : j ≠ 0 := by
      rintro rfl
      exact hno place ((h.root_mem_edges_iff hn hi).mp hj)
    exact ⟨hroot, h.leadsOn_of_mem_edges hn hj hroot⟩

/-! ### Help -/

theorem exists_place_of_mem_following (h : g.Shows l) {i : Nat} {n : Node σ ε}
    (hn : n ∈ g.following i) : ∃ place, l.places[i]? = some place := by
  unfold following at hn
  split at hn
  · next m hm => exact h.exists_place hm
  · cases hn

/-- A node that follows leads on, or it is the root, which has an empty key, and an alias denotes
it. -/
theorem leadsOn_of_mem_following (h : g.Shows l) {i : Nat} {n : Node σ ε}
    (hn : n ∈ g.following i) :
    n.LeadsOn ∨ n.helpKey = "<>" ∧ g.node? 0 = some n ∧
      ∃ place, l.places[i]? = some place ∧ l.ReturnsToRoot place := by
  obtain ⟨place, hi⟩ := h.exists_place_of_mem_following hn
  obtain ⟨j, q, hj, hq, hfollows⟩ := (h.mem_following hi).mp hn
  by_cases hroot : j = 0
  · subst hroot
    obtain rfl : [] = q := Option.some.inj hq
    refine .inr ⟨?_, hj, place, hi, Listing.follows_root_iff.mp hfollows⟩
    cases h.made hj with
    | root => rfl
  · exact .inl ((h.made hj).leadsOn hroot)

end Shows

theorem key_of_mem_nodeHelp {c : Context σ} {typed : String} {n : Node σ ε} {e : HelpEntry}
    (hstatic : ∀ entries, n.help ≠ some (.dynamic entries)) (he : e ∈ nodeHelp c typed n) :
    e.key = n.helpKey := by
  unfold nodeHelp at he
  split at he
  · next entries hhelp => exact absurd hhelp (hstatic entries)
  · split at he
    · cases he
    · rw [List.mem_singleton.mp he]

end Grammar

theorem HelpTable.mem_of_mem_foldl_insert {es : List HelpEntry} {t : HelpTable} {e : HelpEntry}
    (h : e ∈ (es.foldl insert t).entries) : e ∈ t.entries ∨ e ∈ es := by
  induction es generalizing t with
  | nil => exact .inl h
  | cons f es ih =>
    rcases ih h with h | h
    · rw [insert] at h
      split at h
      · exact .inl h
      · rcases List.mem_append.mp h with h | h
        · exact .inl h
        · exact .inr (List.mem_singleton.mp h ▸ List.mem_cons_self)
    · exact .inr (List.mem_cons_of_mem _ h)

/-- What help lists is the help of a node that follows one of the contexts. -/
theorem Grammar.exists_of_mem_help {g : Grammar σ ε} {input : String} {user : Option σ}
    {e : HelpEntry} (h : e ∈ (g.help input user).entries) :
    ∃ c ∈ (g.typing input user).1, ∃ n ∈ g.following c.position,
      e ∈ nodeHelp c (g.typing input user).2 n := by
  rcases HelpTable.mem_of_mem_foldl_insert h with h | h
  · cases h
  · obtain ⟨c, hc, he⟩ := List.mem_flatMap.mp h
    obtain ⟨n, hn, he⟩ := List.mem_flatMap.mp he
    exact ⟨c, hc, n, (List.mem_filter.mp hn).1, he⟩

/-- In a grammar that is built, every edge but those to the root leads to an action or to a node
that has a pattern, and there are none to the root exactly if no alias denotes it. What help lists
for nodes with fixed help belongs to such a node, of which a literal one takes its own name; or it
is the empty name of the root, behind a node in which an alias denotes the root. -/
theorem Builder.edges_lead_on {b : Builder σ ε} {g : Grammar σ ε} (h : b.build = .ok g) :
    (g.NoDeadEnds ↔ ∀ place, ¬b.listing.ReturnsToRoot place) ∧
    (∀ i n, g.node? i = some n → ∀ j ∈ n.edges, j ≠ 0 →
      ∃ m, g.node? j = some m ∧ m.LeadsOn) ∧
    ∀ input user, ∀ e ∈ (g.help input user).entries,
      ∃ c ∈ (g.typing input user).1, ∃ n ∈ g.following c.position,
        e ∈ Grammar.nodeHelp c (g.typing input user).2 n ∧
        ((∀ entries, n.help ≠ some (.dynamic entries)) → e.key = n.helpKey ∧
          (n.LeadsOn ∧ (n.literal = true → n.fits n.name = true) ∨
            e.key = "<>" ∧ g.node? 0 = some n ∧
              ∃ place, b.listing.places[c.position]? = some place ∧
                b.listing.ReturnsToRoot place)) := by
  have hg := b.shows_of_build h
  refine ⟨hg.noDeadEnds_iff, fun i n hn j hj => hg.leadsOn_of_mem_edges hn hj, ?_⟩
  intro input user e he
  obtain ⟨c, hc, n, hn, he⟩ := Grammar.exists_of_mem_help he
  refine ⟨c, hc, n, hn, he, fun hstatic => ?_⟩
  have hkey := Grammar.key_of_mem_nodeHelp hstatic he
  refine ⟨hkey, ?_⟩
  rcases hg.leadsOn_of_mem_following hn with hleads | ⟨hempty, hroot⟩
  · refine .inl ⟨hleads, fun hliteral => ?_⟩
    have hid := Grammar.node?_of_mem_following (b.numbered_of_build h) hn
    rw [(Builder.namedByPattern_of_build h hid).fits_eq hliteral, decide_eq_true rfl]
  · exact .inr ⟨hkey.trans hempty, hroot⟩

namespace Sample

theorem edges_lead_on_tags :
    ∃ g, tags.build = .ok g ∧ g.NoDeadEnds ∧ (∀ place, ¬tags.listing.ReturnsToRoot place) := by
  obtain ⟨g, hg, hval⟩ := tags.exists_build
    (f := fun g => g.nodes.all fun n => n.edges.all fun j =>
      j != 0 && (g.node? j).any fun m => m.isAction || m.pattern.isSome)
    (v := true) (by decide +kernel)
  have hno : g.NoDeadEnds := by
    intro i n hn j hj
    have hedges := Array.all_eq_true_iff_forall_mem.mp hval n (Array.mem_of_getElem? hn)
    obtain ⟨hroot, hleads⟩ := Bool.and_eq_true_iff.mp (List.all_eq_true.mp hedges j hj)
    obtain ⟨m, hm, hleads⟩ := (Option.any_eq_true _ _).mp hleads
    exact ⟨by simpa using hroot, m, hm, by simpa [Node.LeadsOn] using hleads⟩
  exact ⟨g, hg, hno, (Builder.edges_lead_on hg).1.mp hno⟩

/-- A node that is meant to start again. -/
def restart : Builder Unit String where
  elements := [.node { body := .literal, name := some "a" } [.link { target := "/" }]]
  merges := []

/-- Behind the node help lists the root, which no token matches. -/
theorem restart_dead_end :
    ∃ g root, restart.build = .ok g ∧ (g.node? 1).map (·.edges) = some [0] ∧ ¬g.NoDeadEnds ∧
      g.node? 0 = some root ∧ root.isAction = false ∧ root.help.isNone = true ∧
      root.pattern = none ∧ root.helpKey = "<>" ∧
      ((g.help "a " none).get? "<>").isSome = true := by
  obtain ⟨g, hg, hval⟩ := restart.exists_build
    (f := fun g =>
      ((g.node? 1).map (·.edges),
        (g.node? 0).map fun n => (n.isAction, n.help.isNone, n.helpKey),
        (g.everyPosition (g.typingStart "a " none)).any fun c =>
          (g.contextHelp c "").any (·.key == "<>")))
    (v := (some [0], some (false, true, "<>"), true)) (by decide +kernel)
  obtain ⟨hedges, hval⟩ := Prod.mk.inj hval
  obtain ⟨hroot, hlisted⟩ := Prod.mk.inj hval
  obtain ⟨root, hnode, hroot⟩ := Option.map_eq_some_iff.mp hroot
  obtain ⟨haction, hroot⟩ := Prod.mk.inj hroot
  obtain ⟨hstatic, hkey⟩ := Prod.mk.inj hroot
  refine ⟨g, root, hg, hedges, fun hno => ?_, hnode, haction, hstatic,
    restart.pattern_of_root hg hnode, hkey, ?_⟩
  · obtain ⟨n, hn, hedges⟩ := Option.map_eq_some_iff.mp hedges
    exact (hno 1 n hn 0 (hedges ▸ List.mem_singleton_self 0)).1 rfl
  · have hnumbered := restart.numbered_of_build hg
    have hfragment : (Line.read "a ").splitTrailing.2 = "" := by decide +kernel
    rw [Grammar.get?_help_isSome, Grammar.typing_of_fragment hfragment]
    have hevery := (Grammar.exists_position_iff hnumbered (g.onLine_start (.read "a ") none)
      (P := fun c => ∃ e ∈ g.contextHelp c "", e.key = "<>")
      fun hs d e hde he => hde.contextHelp hnumbered hs "" ▸ he).mpr
    refine hevery ?_
    simpa [Grammar.typingStart, Line.splitTrailing_eq_self hfragment] using hlisted

end Sample

end CommandGrammar
