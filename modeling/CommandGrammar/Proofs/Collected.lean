import CommandGrammar.Proofs.Sound

/-! Which values a line leaves. The values under a name are those that the nodes on the way give for
it, each from the token that it matched: all of them in a list if these nodes may be entered more
than once, and the last of them as it is if they may not. -/

namespace CommandGrammar

variable {σ ε : Type}

/-! ### Values by name -/

namespace Vars

theorem lookup_filter_ne (name other : String) (entries : List (String × Value)) :
    (entries.filter (·.1 != name)).lookup other =
      if other = name then none else entries.lookup other := by
  induction entries with
  | nil => simp
  | cons e entries ih =>
    obtain ⟨key, v⟩ := e
    rw [lookup_cons_eq_ite, List.filter_cons]
    split
    · next hkey =>
      have hkey : key ≠ name := by simpa using hkey
      rw [lookup_cons_eq_ite, ih]
      by_cases h : other = key
      · simp [h, hkey]
      · simp [h]
    · next hkey =>
      obtain rfl : key = name := by simpa using hkey
      rw [ih]
      split <;> rfl

theorem value?_insert (vars : Vars) (name other : String) (v : Value) :
    (vars.insert name v).value? other = if other = name then some v else vars.value? other := by
  rw [value?, insert, List.lookup_append, lookup_filter_ne, lookup_cons_eq_ite]
  split
  · rfl
  · exact Option.or_none

theorem value?_modify (vars : Vars) (name other : String) (change : Value → Value) :
    (vars.modify name change).value? other =
      if other = name then (vars.value? other).map change else vars.value? other := by
  unfold modify value?
  induction vars.entries with
  | nil => simp
  | cons e entries ih =>
    obtain ⟨key, v⟩ := e
    rw [List.map_cons, lookup_cons_eq_ite]
    dsimp only
    split
    · next hkey =>
      obtain rfl : key = name := by simpa using hkey
      rw [lookup_cons_eq_ite, ih]
      split <;> rfl
    · next hkey =>
      have hkey : key ≠ name := by simpa using hkey
      rw [lookup_cons_eq_ite, ih]
      by_cases h : other = key
      · simp [h, hkey]
      · simp [h]

/-- What is found under a name once a value is collected under a name. -/
theorem value?_store (vars : Vars) (name other : String) (v : Value) (accumulate : Bool) :
    (vars.store name v accumulate).value? other =
      if other = name then
        some (if accumulate then (vars.value? name).elim (.list [v]) (append v) else v)
      else vars.value? other := by
  unfold store
  cases accumulate with
  | false => exact value?_insert vars name other v
  | true =>
    cases h : vars.value? name with
    | none => simp [contains, h, value?_insert]
    | some w =>
      simp only [contains, h, Bool.not_true, Bool.false_eq_true, ↓reduceIte, Option.isSome_some,
        value?_modify, Option.elim_some]
      by_cases hname : other = name
      · simp [hname, h]
      · simp [hname]

end Vars

namespace Grammar

/-! ### Values that a way gives for a name -/

/-- The kind of a node that collects its values under the name. -/
def kindAt? (g : Grammar σ ε) (name : String) (id : Nat) : Option Kind :=
  match g.node? id with
  | some n =>
    match n.body with
    | .var kind => if n.varName = name then some kind else none
    | _ => none
  | none => none

/-- The value that a node gives for the name from a token. -/
def valueAt? (g : Grammar σ ε) (name : String) (id : Nat) (text : String) : Option Value :=
  (g.kindAt? name id).bind fun kind => (kind.parse text).toOption

/-- The values that nodes give for the name, each from one of the tokens in order. -/
def valuesAt (g : Grammar σ ε) (name : String) (ids : List Nat) (tokens : List Token) :
    List Value :=
  (ids.zip tokens).filterMap fun e => g.valueAt? name e.1 e.2.text

theorem filterMap_concat {α β : Type} (f : α → Option β) (l : List α) (a : α) :
    (l ++ [a]).filterMap f = l.filterMap f ++ (f a).toList := by
  rw [List.filterMap_append]
  cases h : f a <;> simp [h]

variable {g : Grammar σ ε} {name : String}

theorem value?_collectOne (g : Grammar σ ε) (name : String) (vars : Vars) (id : Nat)
    (text : String) : (g.collectOne vars id text).value? name =
      match g.valueAt? name id text with
      | some v =>
        some (if (g.node? id).any (·.traversals != 1) then
          (vars.value? name).elim (.list [v]) (Vars.append v) else v)
      | none => vars.value? name := by
  unfold collectOne valueAt? kindAt?
  cases hn : g.node? id with
  | none => rfl
  | some n =>
    dsimp only
    unfold Node.value?
    cases n.body with
    | var kind =>
      dsimp only
      by_cases hname : n.varName = name
      · rw [if_pos hname, Option.bind_some]
        cases kind.parse text <;> simp [hname, Except.toOption, Vars.value?_store]
      · rw [if_neg hname, Option.bind_none]
        cases kind.parse text <;> simp [Ne.symm hname, Except.toOption, Vars.value?_store]
    | _ => rfl

theorem kindAt?_eq_some {id : Nat} {kind : Kind} :
    g.kindAt? name id = some kind ↔
      ∃ n, g.node? id = some n ∧ n.body = .var kind ∧ n.varName = name := by
  unfold kindAt?
  cases hn : g.node? id with
  | none => simp
  | some n =>
    cases hb : n.body <;> simp [hb, and_comm]

theorem exists_node?_of_valueAt? {id : Nat} {text : String} {v : Value}
    (h : g.valueAt? name id text = some v) :
    ∃ n, g.node? id = some n ∧ (g.kindAt? name id).isSome = true := by
  obtain ⟨kind, hkind, -⟩ := Option.bind_eq_some_iff.mp h
  obtain ⟨n, hn, -, -⟩ := kindAt?_eq_some.mp hkind
  exact ⟨n, hn, Option.isSome_of_eq_some hkind⟩

/-- If the nodes that collect under the name may be entered more than once, all their values are
found under it. -/
theorem value?_collect_of_ne_one
    (h : ∀ id n, g.node? id = some n → (g.kindAt? name id).isSome = true → n.traversals ≠ 1)
    (ids : List Nat) (tokens : List Token) :
    (g.collect .empty ids tokens).value? name =
      if (g.valuesAt name ids tokens).isEmpty then none
      else some (.list (g.valuesAt name ids tokens)) := by
  unfold collect valuesAt
  induction ids.zip tokens using List.reverseRecOn with
  | nil => rfl
  | append_singleton es e ih =>
    rw [List.foldl_append, List.foldl_cons, List.foldl_nil, value?_collectOne, ih,
      filterMap_concat]
    generalize es.filterMap (fun e => g.valueAt? name e.1 e.2.text) = vs
    cases hv : g.valueAt? name e.1 e.2.text with
    | none => rw [Option.toList_none, List.append_nil]
    | some v =>
      obtain ⟨n, hn, hkind⟩ := exists_node?_of_valueAt? hv
      have hmany : (g.node? e.1).any (·.traversals != 1) = true := by
        simpa [hn] using h e.1 n hn hkind
      dsimp only
      rw [if_pos hmany]
      cases vs <;> rfl

/-- If the nodes that collect under the name may be entered only once, the last of their values is
found under it. -/
theorem value?_collect_of_eq_one
    (h : ∀ id n, g.node? id = some n → (g.kindAt? name id).isSome = true → n.traversals = 1)
    (ids : List Nat) (tokens : List Token) :
    (g.collect .empty ids tokens).value? name = (g.valuesAt name ids tokens).getLast? := by
  unfold collect valuesAt
  induction ids.zip tokens using List.reverseRecOn with
  | nil => rfl
  | append_singleton es e ih =>
    rw [List.foldl_append, List.foldl_cons, List.foldl_nil, value?_collectOne, ih,
      filterMap_concat]
    cases hv : g.valueAt? name e.1 e.2.text with
    | none => rw [Option.toList_none, List.append_nil]
    | some v =>
      obtain ⟨n, hn, hkind⟩ := exists_node?_of_valueAt? hv
      have honce : ¬(g.node? e.1).any (·.traversals != 1) = true := by
        simpa [hn] using h e.1 n hn hkind
      rw [Option.toList_some, List.getLast?_concat]
      exact congrArg some (if_neg honce)

/-- Nothing is found under a name that no node collects under. -/
theorem value?_collect_of_forall_none {ids : List Nat} (h : ∀ id ∈ ids, g.kindAt? name id = none)
    (tokens : List Token) : (g.collect .empty ids tokens).value? name = none := by
  have hall : ∀ e ∈ ids.zip tokens, g.valueAt? name e.1 e.2.text = none := fun e he => by
    rw [valueAt?, h e.1 (List.of_mem_zip he).1, Option.bind_none]
  unfold collect
  generalize ids.zip tokens = es at hall
  induction es using List.reverseRecOn with
  | nil => rfl
  | append_singleton es e ih =>
    rw [List.forall_mem_append, List.forall_mem_singleton] at hall
    rw [List.foldl_append, List.foldl_cons, List.foldl_nil, value?_collectOne, hall.2]
    exact ih hall.1

theorem vars_check {b : Builder σ ε} (hb : b.build = .ok g) (input : String) (user : Option σ) :
    (g.check input user).vars =
      g.collect .empty (g.check input user).history (Line.read input).tokens := by
  have hg := b.numbered_of_build hb
  rcases check_cases hg input user with ⟨way, place, d, n, hw, hc⟩ | ⟨-, way, hw⟩
  · rw [hc]
    exact ((records_of_follow? hg hw.follows).1.finish n.id).vars
  · exact (records_of_follow? hg hw.follows).1.vars

theorem exists_value_of_sound {l : Line} {user : Option σ} {c : Context σ} (hc : g.Sound l user c)
    {i id : Nat} {kind : Kind} (hi : c.history[i]? = some id) (hk : g.kindAt? name id = some kind) :
    ∃ token v, l.tokens[i]? = some token ∧ kind.parse token.text = .ok v := by
  obtain ⟨n, token, hn, htoken, htakes⟩ := hc.taken i id hi
  obtain ⟨m, hm, hbody, -⟩ := kindAt?_eq_some.mp hk
  cases hn.symm.trans hm
  obtain ⟨v, hv⟩ := htakes.parses kind hbody
  exact ⟨token, v, htoken, hv⟩

end Grammar

/-- Every node on the way that collects under a name gives a value for its token. If these nodes may
be entered more than once, all the values in order are found under the name, and if they may not,
the last of them. Nothing else is found. -/
theorem check_collects {b : Builder σ ε} {g : Grammar σ ε} (h : b.build = .ok g) (input : String)
    (user : Option σ) (name : String) :
    (∀ (i id : Nat) (kind : Kind), (g.check input user).history[i]? = some id →
      g.kindAt? name id = some kind → ∃ token v, (Line.read input).tokens[i]? = some token ∧
        kind.parse token.text = .ok v) ∧
    ((∀ id n, g.node? id = some n → (g.kindAt? name id).isSome = true → n.traversals ≠ 1) →
      (g.check input user).vars.value? name =
        if (g.valuesAt name (g.check input user).history (Line.read input).tokens).isEmpty then none
        else some (.list
          (g.valuesAt name (g.check input user).history (Line.read input).tokens))) ∧
    ((∀ id n, g.node? id = some n → (g.kindAt? name id).isSome = true → n.traversals = 1) →
      (g.check input user).vars.value? name =
        (g.valuesAt name (g.check input user).history (Line.read input).tokens).getLast?) ∧
    ((∀ id ∈ (g.check input user).history, g.kindAt? name id = none) →
      (g.check input user).vars.value? name = none) := by
  refine ⟨fun i id kind hi hk => Grammar.exists_value_of_sound (Grammar.sound_check h input) hi hk,
    ?_⟩
  rw [Grammar.vars_check h]
  exact ⟨fun hmany => Grammar.value?_collect_of_ne_one hmany _ _,
    fun honce => Grammar.value?_collect_of_eq_one honce _ _,
    fun hnone => Grammar.value?_collect_of_forall_none hnone _⟩

theorem check_tags_collects :
    ∃ g values, Sample.tags.build = .ok g ∧ values.map Value.text = ["a", "b"] ∧
      (g.check "tags a b c end" none).vars.value? "text" = some (.list values) := by
  obtain ⟨g, hg, hval⟩ := Sample.tags.exists_build
    (f := fun g =>
      (g.nodes.all (fun n => n.varName != "text" || n.traversals != 1),
        (g.valuesAt "text" (g.seekPending (g.start (.read "tags a b c end") none)).history
          (Line.read "tags a b c end").tokens).map Value.text))
    (v := (true, ["a", "b"])) (by decide +kernel)
  obtain ⟨hall, hvalues⟩ := Prod.mk.inj hval
  have hseek : g.check "tags a b c end" none =
      g.seekPending (g.start (.read "tags a b c end") none) :=
    Grammar.matchPending_eq_seekPending (Sample.tags.numbered_of_build hg) (g.onLine_start _ none)
  rw [← hseek] at hvalues
  obtain ⟨-, hmany, -⟩ := check_collects hg "tags a b c end" none "text"
  refine ⟨g, _, hg, hvalues, (hmany fun id n hn hk => ?_).trans (if_neg fun hempty => ?_)⟩
  · obtain ⟨kind, hk⟩ := Option.isSome_iff_exists.mp hk
    obtain ⟨m, hm, -, hname⟩ := Grammar.kindAt?_eq_some.mp hk
    cases hn.symm.trans hm
    simpa [hname] using Array.all_eq_true_iff_forall_mem.mp hall n (Array.mem_of_getElem? hn)
  · rw [List.isEmpty_iff.mp hempty] at hvalues
    cases hvalues

end CommandGrammar
