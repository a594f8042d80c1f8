import CommandGrammar.Proofs.Survey

/-! What is offered for a line that is being typed. In a stateless grammar contexts in the same
state offer the same candidates and the same help, so that only the first context in each state is
needed: the candidates and the help are those of all ways that match the complete tokens. -/

namespace CommandGrammar

variable {σ ε : Type}

/-! ### Help tables -/

namespace HelpTable

theorem get?_insert_isSome (t : HelpTable) (e : HelpEntry) (key : String) :
    ((t.insert e).get? key).isSome = ((t.get? key).isSome || e.key == key) := by
  unfold insert
  split
  · next h =>
    by_cases hk : e.key = key
    · rw [← hk, h, Bool.true_or]
    · simp [hk]
  · rw [get?, List.find?_append, Option.isSome_or, List.find?_singleton]
    cases e.key == key <;> rfl

theorem get?_foldl_insert_isSome (es : List HelpEntry) (t : HelpTable) (key : String) :
    ((es.foldl insert t).get? key).isSome = ((t.get? key).isSome || es.any (·.key == key)) := by
  induction es generalizing t with
  | nil => simp
  | cons e es ih => rw [List.foldl_cons, ih, get?_insert_isSome, List.any_cons, Bool.or_assoc]

/-- Entries whose keys are in the table add nothing to it. -/
theorem foldl_insert_eq_self {es : List HelpEntry} {t : HelpTable}
    (h : ∀ e ∈ es, (t.get? e.key).isSome = true) : es.foldl insert t = t := by
  induction es with
  | nil => rfl
  | cons e es ih =>
    rw [List.forall_mem_cons] at h
    rw [List.foldl_cons, insert, if_pos h.1, ih h.2]

end HelpTable

/-! ### Texts in order -/

namespace Grammar

/-- The order of texts. -/
def notAfter (a b : String) : Bool := !decide (b < a)

theorem notAfter_trans (a b c : String) (hab : notAfter a b = true) (hbc : notAfter b c = true) :
    notAfter a c = true := by
  simp only [notAfter, Bool.not_eq_true', decide_eq_false_iff_not] at hab hbc ⊢
  exact String.le_trans hab hbc

theorem notAfter_total (a b : String) : (notAfter a b || notAfter b a) = true := by
  simp only [notAfter, Bool.or_eq_true, Bool.not_eq_true', decide_eq_false_iff_not]
  exact String.le_total a b

theorem eraseReps_loop (a : String) (as acc : List String) (h : (a :: as).Pairwise (notAfter · ·))
    (hacc : (a :: acc).Pairwise fun x y => y < x) :
    ((List.eraseRepsBy.loop (· == ·) a as acc).Pairwise fun x y => x < y) ∧
      ∀ x, x ∈ List.eraseRepsBy.loop (· == ·) a as acc ↔ x = a ∨ x ∈ as ∨ x ∈ acc := by
  induction as generalizing a acc with
  | nil =>
    refine ⟨?_, fun x => ?_⟩
    · exact List.pairwise_reverse.mpr hacc
    · simp [List.eraseRepsBy.loop, or_comm]
  | cons b as ih =>
    obtain ⟨ha, hbs⟩ := List.pairwise_cons.mp h
    rw [List.eraseRepsBy.loop]
    split
    · next heq =>
      obtain rfl : a = b := by simpa using heq
      obtain ⟨hsorted, hmem⟩ := ih a acc hbs hacc
      exact ⟨hsorted, fun x => by rw [hmem, List.mem_cons]; tauto⟩
    · next hne =>
      have hlt : a < b := by
        have hab : notAfter a b = true := ha b List.mem_cons_self
        simp only [notAfter, Bool.not_eq_true', decide_eq_false_iff_not] at hab
        have hne : a ≠ b := by simpa using hne
        by_contra hnot
        exact hne (String.le_antisymm hab hnot)
      have hacc' : (b :: a :: acc).Pairwise fun x y => y < x := by
        refine List.pairwise_cons.mpr ⟨fun x hx => ?_, hacc⟩
        rcases List.mem_cons.mp hx with rfl | hx
        · exact hlt
        · exact String.lt_trans ((List.pairwise_cons.mp hacc).1 x hx) hlt
      obtain ⟨hsorted, hmem⟩ := ih b (a :: acc) hbs hacc'
      exact ⟨hsorted, fun x => by rw [hmem, List.mem_cons, List.mem_cons]; tauto⟩

/-- The texts stand in strictly increasing order. -/
theorem pairwise_inOrder (texts : List String) : (inOrder texts).Pairwise fun x y => x < y := by
  have hsorted : (texts.mergeSort notAfter).Pairwise (notAfter · ·) :=
    List.pairwise_mergeSort notAfter_trans notAfter_total texts
  change (texts.mergeSort notAfter).eraseReps.Pairwise _
  cases hs : texts.mergeSort notAfter with
  | nil => exact .nil
  | cons a as => exact (eraseReps_loop a as [] (hs ▸ hsorted) (List.pairwise_singleton _ a)).1

theorem mem_inOrder {texts : List String} {x : String} : x ∈ inOrder texts ↔ x ∈ texts := by
  have hsorted : (texts.mergeSort notAfter).Pairwise (notAfter · ·) :=
    List.pairwise_mergeSort notAfter_trans notAfter_total texts
  have hsort : x ∈ texts.mergeSort notAfter ↔ x ∈ texts := List.mem_mergeSort
  rw [← hsort]
  change x ∈ (texts.mergeSort notAfter).eraseReps ↔ _
  cases hs : texts.mergeSort notAfter with
  | nil => rfl
  | cons a as =>
    have hmem := (eraseReps_loop a as [] (hs ▸ hsorted) (List.pairwise_singleton _ a)).2 x
    rw [List.mem_cons]
    exact hmem.trans (by simp)

/-- Lists in strictly increasing order that have the same members are the same list. -/
theorem eq_of_pairwise_lt {l m : List String} (hl : l.Pairwise fun x y => x < y)
    (hm : m.Pairwise fun x y => x < y) (h : ∀ x, x ∈ l ↔ x ∈ m) : l = m := by
  have hperm : l.Perm m :=
    (List.perm_ext_iff_of_nodup (hl.imp String.ne_of_lt) (hm.imp String.ne_of_lt)).mpr h
  refine hperm.eq_of_pairwise (fun a b _ _ hab hba => ?_) hl hm
  exact absurd (String.lt_trans hab hba) (String.lt_irrefl a)

/-- The same texts in order are the same list. -/
theorem inOrder_congr {texts others : List String} (h : ∀ x, x ∈ texts ↔ x ∈ others) :
    inOrder texts = inOrder others :=
  eq_of_pairwise_lt (pairwise_inOrder texts) (pairwise_inOrder others) fun x => by
    rw [mem_inOrder, mem_inOrder, h]

/-! ### Alike contexts -/

namespace Alike

variable {g : Grammar σ ε} {c d : Context σ}

/-- In alike contexts the same of the nodes that may follow are asked. -/
theorem filter_following (h : g.Alike c d) (hg : g.Numbered) (hs : g.isStateless = true)
    (asked : Node σ ε → Bool → Bool) :
    ((g.following c.position).filter fun n => asked n (n.isOpen c)) =
      (g.following d.position).filter fun n => asked n (n.isOpen d) := by
  rw [h.position]
  refine List.filter_congr fun n hn => ?_
  rw [h.isOpen_eq hg hs (node?_of_mem_following hg hn)]

/-- Alike contexts offer the same candidates. -/
theorem contextCandidates (h : g.Alike c d) (hg : g.Numbered) (hs : g.isStateless = true)
    (typed : String) : g.contextCandidates c typed = g.contextCandidates d typed := by
  unfold Grammar.contextCandidates
  rw [h.filter_following hg hs fun n isOpen => !n.isAction && isOpen]
  refine List.flatMap_congr fun n hn => ?_
  have hid := node?_of_mem_following hg (List.mem_of_mem_filter hn)
  simp only [nodeCandidates, candidatesFor_eq (isStateless_of_node? hs hid) c d typed]

/-- Alike contexts are given the same help. -/
theorem contextHelp (h : g.Alike c d) (hg : g.Numbered) (hs : g.isStateless = true)
    (typed : String) : g.contextHelp c typed = g.contextHelp d typed := by
  unfold Grammar.contextHelp
  rw [h.filter_following hg hs fun n isOpen => isOpen && !(n.isAction && !typed.isEmpty)]
  refine List.flatMap_congr fun n hn => ?_
  have hstateless := isStateless_of_node? hs
    (node?_of_mem_following hg (List.mem_of_mem_filter hn))
  simp only [Node.isStateless, Bool.and_eq_true] at hstateless
  have hhelp := hstateless.2
  unfold nodeHelp
  split
  · next entries hn => simp [hn] at hhelp
  · rfl

end Alike

/-- A table of help is the same if only the first context in each state is asked for its lines. -/
theorem table_foldl_addNew {P : Context σ → Prop} {f : Context σ → List HelpEntry}
    (hf : ∀ c d, P c → P d → c.state = d.state → f c = f d) {found ds : List (Context σ)}
    (hfound : ∀ c ∈ found, P c) (hds : ∀ c ∈ ds, P c) :
    ((ds.foldl addNew found).reverse.flatMap f).foldl HelpTable.insert .empty =
      (ds.flatMap f).foldl .insert ((found.reverse.flatMap f).foldl .insert .empty) := by
  induction ds generalizing found with
  | nil => rfl
  | cons c ds ih =>
    rw [List.forall_mem_cons] at hds
    rw [List.foldl_cons, List.flatMap_cons, List.foldl_append]
    by_cases hin : c.state ∈ found.map Context.state
    · obtain ⟨d, hd, hstate⟩ := List.mem_map.mp hin
      have hsame : (f c).foldl HelpTable.insert ((found.reverse.flatMap f).foldl .insert .empty) =
          (found.reverse.flatMap f).foldl .insert .empty := by
        refine HelpTable.foldl_insert_eq_self fun e he => ?_
        rw [← hf d c (hfound d hd) hds.1 hstate] at he
        rw [HelpTable.get?_foldl_insert_isSome, Bool.or_eq_true, List.any_eq_true]
        exact .inr ⟨e, List.mem_flatMap.mpr ⟨d, List.mem_reverse.mpr hd, he⟩, beq_self_eq_true _⟩
      rw [addNew, if_pos hin, ih hfound hds.2, hsame]
    · rw [addNew, if_neg hin, ih (List.forall_mem_cons.mpr ⟨hds.1, hfound⟩) hds.2,
        List.reverse_cons, List.flatMap_append, List.foldl_append, List.flatMap_singleton]

/-! ### Lines -/

/-- The context in which the complete tokens of a line are matched. -/
def typingStart (g : Grammar σ ε) (input : String) (user : Option σ) : Context σ :=
  g.start (Line.read input).splitTrailing.1 user

/-- The candidates for the token at the end of a line, if every context is asked. -/
def completeEvery (g : Grammar σ ε) (input : String) (user : Option σ) : List String :=
  inOrder ((g.everyPosition (g.typingStart input user)).flatMap fun c =>
    g.contextCandidates c (Line.read input).splitTrailing.2)

/-- The help for the token at the end of a line, if every context is asked. -/
def helpEvery (g : Grammar σ ε) (input : String) (user : Option σ) : HelpTable :=
  ((g.everyPosition (g.typingStart input user)).flatMap fun c =>
    g.contextHelp c (Line.read input).splitTrailing.2).foldl .insert .empty

end Grammar

open Grammar in
/-- In a stateless grammar no two positions are in the same state. Nothing that is offered is lost
by this: the candidates and the help are those of all ways that match the complete tokens. -/
theorem complete_help_eq_every {b : Builder σ ε} {g : Grammar σ ε} (h : b.build = .ok g)
    (hs : g.isStateless = true) (input : String) (user : Option σ) :
    ((g.typing input user).1.map Context.state).Nodup ∧
    g.everyPosition (g.typingStart input user) =
      (g.fullWays (g.typingStart input user)).map (·.2) ∧
    (g.fullWays (g.typingStart input user)).Pairwise (fun v w => v.1 < w.1) ∧
    (∀ way d, (way, d) ∈ g.fullWays (g.typingStart input user) ↔
      g.follow? (g.typingStart input user) way = some d ∧
        way.length = (g.typingStart input user).pending.length) ∧
    g.complete input user = g.completeEvery input user ∧
    g.help input user = g.helpEvery input user := by
  have hg := b.numbered_of_build h
  have hc : g.OnLine _ (g.typingStart input user) := g.onLine_start _ user
  have htyping : g.typing input user =
    (g.positions (g.typingStart input user), (Line.read input).splitTrailing.2) := rfl
  refine ⟨nodup_positions hg hs hc, everyPosition_eq _ _, pairwise_fullWays _ _,
    fun way d => mem_fullWays hg, ?_, ?_⟩
  · rw [complete, htyping]
    refine inOrder_congr fun text => ?_
    rw [List.mem_flatMap, List.mem_flatMap]
    constructor
    · rintro ⟨d, hd, ht⟩
      exact ⟨d, mem_everyPosition_of_mem_positions hg hs hc hd, ht⟩
    · rintro ⟨d, hd, ht⟩
      obtain ⟨e, he, halike⟩ := exists_alike_position hg hs hc hd
      exact ⟨e, he, halike.contextCandidates hg hs _ ▸ ht⟩
  · rw [help, htyping, positions_eq hg hs hc]
    refine table_foldl_addNew (P := g.OnLine _) (fun c d hc hd hstate => ?_) nofun
      fun c => hc.of_mem_everyPosition
    exact ((hc.alike_iff hd).mpr hstate).contextHelp hg hs _

theorem help_tags :
    ∃ g, Sample.tags.build = .ok g ∧ g.isStateless = true ∧
      ((g.typing "tags a b " none).1.map Context.state).Nodup ∧
      g.complete "tags a b " none = g.completeEvery "tags a b " none ∧
      (g.help "tags a b " none).pairs = [("<word>", ""), ("end", ""), ("<text>", "")] := by
  obtain ⟨g, hg, hval⟩ := Sample.tags.exists_build
    (f := fun g => (g.isStateless, (g.helpEvery "tags a b " none).pairs))
    (v := (true, [("<word>", ""), ("end", ""), ("<text>", "")])) (by decide +kernel)
  obtain ⟨hs, hpairs⟩ := Prod.mk.inj hval
  obtain ⟨hnodup, -, -, -, hcomplete, hhelp⟩ := complete_help_eq_every hg hs "tags a b " none
  exact ⟨g, hg, hs, hnodup, hcomplete, by rw [hhelp, hpairs]⟩

end CommandGrammar
