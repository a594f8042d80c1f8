import CommandGrammar.Kind.Number
import CommandGrammar.Proofs.Collected
import Mathlib.Data.List.Dedup

/-! The order of the values that are collected. A value that accumulates stays where its name was
stored first, and one that replaces another moves to the end. So the names stand in the order in
which each was last put at the end, and this is the order in which they were first stored as long as
only the name at the end is replaced. On a line this cannot fail unless a variable that is matched
once shares its name with another one. -/

namespace CommandGrammar

variable {σ ε : Type}

namespace Vars

/-- The names in order. -/
def names (vars : Vars) : List String := vars.entries.map (·.1)

/-! ### One value -/

theorem contains_iff {vars : Vars} {name : String} :
    vars.contains name = true ↔ name ∈ vars.names := by
  simp only [contains, value?, List.lookup_isSome_iff, beq_iff_eq, names, List.mem_map]
  exact exists_congr fun e => and_congr_right fun _ => eq_comm

theorem names_insert (vars : Vars) (name : String) (v : Value) :
    (vars.insert name v).names = vars.names.filter (· != name) ++ [name] := by
  simp only [names, insert, List.map_append, List.filter_map]
  rfl

theorem names_modify (vars : Vars) (name : String) (change : Value → Value) :
    (vars.modify name change).names = vars.names := by
  simp only [names, modify, List.map_map]
  refine List.map_congr_left fun e _ => ?_
  simp only [Function.comp_apply]
  split <;> rfl

/-- A value that joins others leaves the names as they are, and any other is put at the end. -/
theorem names_store (vars : Vars) (name : String) (v : Value) (accumulate : Bool) :
    (vars.store name v accumulate).names =
      if accumulate && vars.names.contains name then vars.names
      else vars.names.filter (· != name) ++ [name] := by
  have hcontains : vars.contains name = vars.names.contains name := by
    rw [Bool.eq_iff_iff, contains_iff, List.contains_iff_mem]
  unfold store
  rw [← hcontains]
  cases accumulate with
  | false => exact names_insert vars name v
  | true =>
    cases vars.contains name with
    | true => exact names_modify vars name (append v)
    | false => exact names_insert vars name _

/-! ### Many values -/

/-- A value to be stored under a name. -/
structure Storing where
  name : String
  value : Value
  accumulate : Bool

/-- The values stored one after the other. -/
def storeAll (calls : List Storing) : Vars :=
  calls.foldl (fun vars s => vars.store s.name s.value s.accumulate) empty

/-- The names in the order in which they were first stored. -/
def firstStored (calls : List Storing) : List String := (calls.map (·.name)).eraseDups

/-- The names that are put at the end, one after the other. -/
def putLast (calls : List Storing) : List String :=
  calls.foldl (fun put s => if s.accumulate && put.contains s.name then put else put ++ [s.name]) []

variable {calls : List Storing} {s : Storing}

theorem names_storeAll_concat :
    (storeAll (calls ++ [s])).names =
      if s.accumulate && (storeAll calls).names.contains s.name then (storeAll calls).names
      else (storeAll calls).names.filter (· != s.name) ++ [s.name] := by
  rw [storeAll, List.foldl_append, List.foldl_cons, List.foldl_nil, names_store]
  rfl

theorem putLast_concat :
    putLast (calls ++ [s]) = if s.accumulate && (putLast calls).contains s.name then putLast calls
      else putLast calls ++ [s.name] := by
  rw [putLast, List.foldl_append, List.foldl_cons, List.foldl_nil]
  rfl

theorem firstStored_concat :
    firstStored (calls ++ [s]) =
      if s.name ∈ firstStored calls then firstStored calls
      else firstStored calls ++ [s.name] := by
  simp only [firstStored, List.map_append, List.map_singleton, List.eraseDups_append,
    List.mem_eraseDups]
  generalize calls.map (·.name) = stored
  by_cases h : s.name ∈ stored <;> simp [List.removeAll, List.eraseDups_cons, h]

theorem dedup_concat (l : List String) (x : String) :
    (l ++ [x]).dedup = l.dedup.filter (· != x) ++ [x] := by
  induction l with
  | nil => rfl
  | cons y l ih =>
    rw [List.cons_append]
    by_cases hy : y ∈ l
    · rw [List.dedup_cons_of_mem (List.mem_append_left _ hy), List.dedup_cons_of_mem hy, ih]
    · by_cases hx : y = x
      · subst hx
        rw [List.dedup_cons_of_mem (by simp), List.dedup_cons_of_notMem hy, ih]
        simp
      · rw [List.dedup_cons_of_notMem (by simp [hy, hx]), List.dedup_cons_of_notMem hy, ih]
        simp [hx]

/-- The names stand in the order in which each was last put at the end. -/
theorem names_storeAll (calls : List Storing) :
    (storeAll calls).names = (putLast calls).dedup := by
  induction calls using List.reverseRecOn with
  | nil => rfl
  | append_singleton calls s ih =>
    have hmem : (putLast calls).contains s.name = (putLast calls).dedup.contains s.name := by
      rw [Bool.eq_iff_iff, List.contains_iff_mem, List.contains_iff_mem, List.mem_dedup]
    rw [names_storeAll_concat, putLast_concat, ih, hmem]
    split
    · rfl
    · rw [dedup_concat]

theorem nodup_names_storeAll (calls : List Storing) : (storeAll calls).names.Nodup := by
  rw [names_storeAll]
  exact List.nodup_dedup _

theorem mem_names_storeAll {x : String} : x ∈ (storeAll calls).names ↔ ∃ s ∈ calls, s.name = x := by
  induction calls using List.reverseRecOn with
  | nil => exact ⟨nofun, fun ⟨_, h, _⟩ => nomatch h⟩
  | append_singleton calls s ih =>
    have hconcat : (∃ t ∈ calls ++ [s], t.name = x) ↔ (∃ t ∈ calls, t.name = x) ∨ s.name = x := by
      simp [List.mem_append, or_and_right, exists_or]
    rw [hconcat, ← ih, names_storeAll_concat]
    split
    · next h =>
      rw [Bool.and_eq_true, List.contains_iff_mem] at h
      exact ⟨.inl, fun hx => hx.elim id fun hx => hx ▸ h.2⟩
    · by_cases hx : s.name = x
      · simp [hx]
      · simp [hx, Ne.symm hx]

/-! ### The order of first storing -/

/-- No name is replaced while another one stands behind it. -/
def ReplacesLast (calls : List Storing) : Prop :=
  ∀ before s, before ++ [s] <+: calls → s.accumulate = false → (∃ t ∈ before, t.name = s.name) →
    (firstStored before).getLast? = some s.name

theorem mem_firstStored {x : String} : x ∈ firstStored calls ↔ ∃ s ∈ calls, s.name = x := by
  simp [firstStored, List.mem_eraseDups]

theorem filter_ne_of_notMem {l : List String} {x : String} (h : x ∉ l) :
    l.filter (· != x) = l := by
  refine List.filter_eq_self.mpr fun y hy => bne_iff_ne.mpr ?_
  rintro rfl
  exact h hy

/-- Moving a name to the end changes nothing exactly if it stands there. -/
theorem filter_ne_append_iff {l : List String} {x : String} (h : l.Nodup) :
    l.filter (· != x) ++ [x] = l ↔ l.getLast? = some x := by
  constructor
  · intro heq
    rw [← heq, List.getLast?_concat]
  · intro hlast
    obtain ⟨front, rfl⟩ := List.getLast?_eq_some_iff.mp hlast
    have hnot : x ∉ front := fun hx =>
      (List.nodup_append.mp h).2.2 x hx x (List.mem_singleton_self x) rfl
    rw [List.filter_append, filter_ne_of_notMem hnot]
    simp

/-- If the names stand in the order of first storing, one more value keeps them so exactly if it
does not replace a value in front of another one. -/
theorem names_eq_firstStored_concat (h : (storeAll calls).names = firstStored calls) :
    (storeAll (calls ++ [s])).names = firstStored (calls ++ [s]) ↔
      (s.accumulate = false → (∃ t ∈ calls, t.name = s.name) →
        (firstStored calls).getLast? = some s.name) := by
  have hnodup : (firstStored calls).Nodup := h ▸ nodup_names_storeAll calls
  rw [names_storeAll_concat, firstStored_concat, h, ← mem_firstStored]
  by_cases hmem : s.name ∈ firstStored calls
  · rw [if_pos hmem, List.contains_iff_mem.mpr hmem, Bool.and_true]
    cases s.accumulate with
    | true => simp
    | false =>
      simp only [Bool.false_eq_true, if_false, hmem, forall_const]
      exact filter_ne_append_iff hnodup
  · have hcontains : (firstStored calls).contains s.name = false := by
      simpa using hmem
    rw [if_neg hmem, hcontains, Bool.and_false, if_neg Bool.false_ne_true, filter_ne_of_notMem hmem]
    exact iff_of_true rfl fun _ hstored => absurd hstored hmem

/-- All along the names stand in the order in which they were first stored exactly if no name is
replaced while another one stands behind it. -/
theorem names_eq_firstStored_iff (calls : List Storing) :
    (∀ before, before <+: calls → (storeAll before).names = firstStored before) ↔
      ReplacesLast calls := by
  induction calls using List.reverseRecOn with
  | nil =>
    refine iff_of_true (fun before h => ?_) fun before s h => ?_
    · rw [List.prefix_nil.mp h]
      rfl
    · simpa using List.prefix_nil.mp h
  | append_singleton calls s ih =>
    constructor
    · intro h before t hpre
      have hfront := h before ((List.prefix_append _ _).trans hpre)
      exact (names_eq_firstStored_concat hfront).mp (h _ hpre)
    · intro h before hpre
      have hcalls : ∀ before, before <+: calls → (storeAll before).names = firstStored before :=
        ih.mpr fun before t hpre => h before t (hpre.trans (List.prefix_append _ _))
      rcases List.prefix_concat_iff.mp hpre with rfl | hpre
      · exact (names_eq_firstStored_concat (hcalls calls List.prefix_rfl)).mpr
          (h calls s List.prefix_rfl)
      · exact hcalls before hpre

end Vars

/-! ### Values of a line -/

namespace Grammar

/-- What a node stores from a token. -/
def storing? (g : Grammar σ ε) (id : Nat) (text : String) : Option Vars.Storing :=
  match g.node? id with
  | some n =>
    match n.value? text with
    | some (some v) => some ⟨n.varName, v, n.traversals != 1⟩
    | _ => none
  | none => none

/-- What nodes store, each from one of the tokens in order. -/
def storings (g : Grammar σ ε) (ids : List Nat) (tokens : List Token) : List Vars.Storing :=
  (ids.zip tokens).filterMap fun e => g.storing? e.1 e.2.text

variable {g : Grammar σ ε}

theorem collect_eq_storeAll (g : Grammar σ ε) (ids : List Nat) (tokens : List Token) :
    g.collect .empty ids tokens = Vars.storeAll (g.storings ids tokens) := by
  rw [Vars.storeAll, storings, List.foldl_filterMap, collect]
  congr 1
  funext vars e
  unfold collectOne storing?
  cases g.node? e.1 with
  | none => rfl
  | some n =>
    dsimp only
    split <;> simp_all

/-- A variable that is matched at most once shares its name with no other one. -/
def NamesOnce (g : Grammar σ ε) : Prop :=
  ∀ i n j m, g.node? i = some n → g.node? j = some m → n.isVariable = true → m.isVariable = true →
    n.traversals = 1 → m.varName = n.varName → j = i

theorem exists_node?_of_storing? {id : Nat} {text : String} {s : Vars.Storing}
    (h : g.storing? id text = some s) : ∃ n, g.node? id = some n ∧ n.isVariable = true ∧
      n.varName = s.name ∧ (n.traversals != 1) = s.accumulate := by
  unfold storing? at h
  split at h
  · next n hn =>
    split at h
    · next v hv =>
      cases h
      refine ⟨n, hn, ?_, rfl, rfl⟩
      unfold Node.value? at hv
      unfold Node.isVariable
      cases hbody : n.body <;> simp_all
    · cases h
  · cases h

/-- Every node that was entered took a token. -/
theorem Sound.length_history_le {l : Line} {user : Option σ} {c : Context σ}
    (h : g.Sound l user c) : c.history.length ≤ l.tokens.length := by
  by_contra hlt
  rw [Nat.not_le] at hlt
  obtain ⟨-, token, -, htoken, -⟩ := h.taken _ _ (List.getElem?_eq_getElem hlt)
  rw [List.getElem?_eq_none le_rfl] at htoken
  cases htoken

/-- On a line nothing is replaced if no variable that is matched at most once shares its name. -/
theorem Sound.replacesLast {l : Line} {user : Option σ} {c : Context σ} (h : g.Sound l user c)
    (hg : g.NamesOnce) : Vars.ReplacesLast (g.storings c.history l.tokens) := by
  rintro before s hpre haccumulate ⟨t, ht, hname⟩
  exfalso
  obtain ⟨behind, hstored⟩ := hpre
  rw [List.append_assoc, List.singleton_append] at hstored
  obtain ⟨front, back, hzip, hfront, hback⟩ := List.filterMap_eq_append_iff.mp hstored.symm
  obtain ⟨skipped, e, rest, rfl, -, he, -⟩ := List.filterMap_eq_cons_iff.mp hback
  obtain ⟨d, hd, htd⟩ := List.mem_filterMap.mp (hfront ▸ ht)
  obtain ⟨n, hn, hvar, hnname, honce⟩ := exists_node?_of_storing? he
  obtain ⟨m, hm, hmvar, hmname, -⟩ := exists_node?_of_storing? htd
  have honce : n.traversals = 1 := by simpa [haccumulate] using honce
  have hsame : d.1 = e.1 :=
    hg e.1 n d.1 m hn hm hvar hmvar honce (hmname.trans (hname.trans hnname.symm))
  -- the node is then entered twice, against its limit
  have hids : c.history = (front ++ (skipped ++ e :: rest)).map Prod.fst := by
    rw [← hzip, List.map_fst_zip h.length_history_le]
  have hcount : 2 ≤ c.history.count e.1 := by
    have hfirst : 0 < (front.map Prod.fst).count e.1 :=
      List.count_pos_iff.mpr (List.mem_map.mpr ⟨d, hd, hsame⟩)
    rw [hids, List.map_append, List.map_append, List.map_cons, List.count_append,
      List.count_append, List.count_cons_self]
    omega
  have hlimit := h.limited e.1 n hn (by omega)
  rw [h.traversed] at hlimit
  omega

end Grammar

/-- The values of a line are stored one after the other. Their names stand in the order in which
each was last put at the end, every stored name once. All along this is the order in which they were
first stored exactly if no name is replaced while another one stands behind it; so it is if no
variable that is matched at most once shares its name with another one. -/
theorem names_in_order {b : Builder σ ε} {g : Grammar σ ε} (h : b.build = .ok g) :
    (∀ calls : List Vars.Storing,
      (Vars.storeAll calls).names.Nodup ∧
      (∀ x, x ∈ (Vars.storeAll calls).names ↔ ∃ s ∈ calls, s.name = x) ∧
      (Vars.storeAll calls).names = (Vars.putLast calls).dedup ∧
      ((∀ before, before <+: calls →
          (Vars.storeAll before).names = Vars.firstStored before) ↔ Vars.ReplacesLast calls)) ∧
    ∀ (input : String) (user : Option σ),
      (g.check input user).vars = Vars.storeAll
        (g.storings (g.check input user).history (Line.read input).tokens) ∧
      (g.NamesOnce → (g.check input user).vars.names = Vars.firstStored
        (g.storings (g.check input user).history (Line.read input).tokens)) := by
  refine ⟨fun calls => ⟨Vars.nodup_names_storeAll calls, fun x => Vars.mem_names_storeAll,
    Vars.names_storeAll calls, Vars.names_eq_firstStored_iff calls⟩, fun input user => ?_⟩
  have hvars : (g.check input user).vars = Vars.storeAll
      (g.storings (g.check input user).history (Line.read input).tokens) := by
    rw [Grammar.vars_check h, Grammar.collect_eq_storeAll]
  refine ⟨hvars, fun honce => ?_⟩
  have hsound : g.Sound (.read input) user (g.check input user) := Grammar.sound_check h input
  rw [hvars]
  exact (Vars.names_eq_firstStored_iff _).mpr (hsound.replacesLast honce) _ List.prefix_rfl

namespace Sample

/-- Three numbers in a row, of which the last is stored under the given name. -/
def numbers (third : String) : Builder Unit String where
  elements := [
    .node { body := .var .integer, name := some "a" } [
      .node { body := .var .integer, name := some "b" } [
        .node { body := .var .integer, name := some "c", varName := some third } [
          .node { body := .action fun _ => ⟨["sum"], .ok ()⟩, name := none } []]]]]
  merges := []

theorem check_numbers {third : String} {g : Grammar Unit String}
    (h : (numbers third).build = .ok g) :
    g.check "1 2 3" none = g.seekPending (g.start (.read "1 2 3") none) :=
  Grammar.matchPending_eq_seekPending (Builder.numbered_of_build h) (g.onLine_start _ none)

end Sample

theorem names_in_order_numbers :
    ∃ g, (Sample.numbers "c").build = .ok g ∧ g.NamesOnce ∧
      (g.check "1 2 3" none).vars.names = ["a", "b", "c"] := by
  obtain ⟨g, hg, hval⟩ := (Sample.numbers "c").exists_build
    (f := fun g =>
      ((List.range g.nodes.size).map fun i => (g.node? i).map (·.varName),
        Vars.firstStored (g.storings
          (g.seekPending (g.start (.read "1 2 3") none)).history (Line.read "1 2 3").tokens)))
    (v := ([some "", some "a", some "b", some "c", some "@0"], ["a", "b", "c"]))
    (by decide +kernel)
  obtain ⟨hnames, hstored⟩ := Prod.mk.inj hval
  have honce : g.NamesOnce := by
    intro i n j m hn hm _ _ _ hname
    have hname_at : ∀ k d, g.node? k = some d →
        [some "", some "a", some "b", some "c", some "@0"][k]? = some (some d.varName) := by
      intro k d hd
      obtain ⟨hk, -⟩ := Array.getElem?_eq_some_iff.mp hd
      rw [← hnames, List.getElem?_map, List.getElem?_range hk, Option.map_some, hd, Option.map_some]
    exact (List.getElem?_inj (List.getElem?_eq_some_iff.mp (hname_at j m hm)).1 (by decide)).mp
      ((hname_at j m hm).trans (hname ▸ (hname_at i n hn).symm))
  refine ⟨g, hg, honce, ?_⟩
  rw [((names_in_order hg).2 "1 2 3" none).2 honce, Sample.check_numbers hg, hstored]

/-- The name that is stored first and stored again comes last. -/
theorem stored_again_moves :
    ∃ g, (Sample.numbers "a").build = .ok g ∧
      (g.check "1 2 3" none).vars.names = ["b", "a"] ∧
      Vars.firstStored (g.storings (g.check "1 2 3" none).history (Line.read "1 2 3").tokens) =
        ["a", "b"] := by
  obtain ⟨g, hg, hval⟩ := (Sample.numbers "a").exists_build
    (f := fun g =>
      ((g.seekPending (g.start (.read "1 2 3") none)).vars.names,
        Vars.firstStored (g.storings
          (g.seekPending (g.start (.read "1 2 3") none)).history (Line.read "1 2 3").tokens)))
    (v := (["b", "a"], ["a", "b"])) (by decide +kernel)
  obtain ⟨hnames, hstored⟩ := Prod.mk.inj hval
  rw [← Sample.check_numbers hg] at hnames hstored
  exact ⟨g, hg, hnames, hstored⟩

end CommandGrammar
