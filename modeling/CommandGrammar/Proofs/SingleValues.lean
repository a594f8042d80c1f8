import CommandGrammar.Argument
import CommandGrammar.Proofs.Collected

/-! Single values as arguments that are lists. A variable that may be entered only once leaves its
value as it is, and one that may be entered more often leaves a list. As a list, a value that stands
alone is the list of it, so that an action need not know which of the two it was. Bytes are the
exception, since they are a list of integers themselves. -/

namespace CommandGrammar

namespace ArgumentType

/-- The type is one of lists, which may be missing. -/
def IsList : ArgumentType → Prop
  | basic _ => False
  | list _ => True
  | optional t => t.IsList

theorem ofValue?_list_singleton (t : ArgumentType) (v : Value) :
    (list t).ofValue? (.list [v]) = (t.ofValue? v).map fun x => [x] := by
  rw [ofValue?, List.mapM_cons, List.mapM_nil]
  cases t.ofValue? v <;> rfl

/-- What is no list itself and not made of bytes is the list of it. -/
theorem ofValue?_list_of_single {t : ArgumentType} {v : Value} (hlist : v.asList? = none)
    (hbytes : v.asBytes? = none) : (list t).ofValue? v = (t.ofValue? v).map fun x => [x] := by
  cases v with
  | list items => cases hlist
  | bytes bs => cases hbytes
  | _ => rfl

theorem mapM_eq_some_singleton_iff {α β : Type} {f : α → Option β} {l : List α} {b : β} :
    l.mapM f = some [b] ↔ ∃ a, l = [a] ∧ f a = some b := by
  cases l with
  | nil => simp
  | cons a rest =>
    cases rest with
    | nil => cases h : f a <;> simp [h]
    | cons a' rest =>
      refine iff_of_false (fun h => ?_) (by simp)
      simp only [List.mapM_cons, Option.bind_eq_bind, Option.bind_eq_some_iff, Option.pure_def,
        Option.some_inj] at h
      obtain ⟨b, -, bs, ⟨b', -, rest, -, rfl⟩, hnil⟩ := h
      cases hnil

/-- One byte is the argument that its integer is if the argument is a list anyway. -/
theorem ofValue?_byte_iff {t : ArgumentType} {b : UInt8} {x : t.Carrier}
    (h : t.ofValue? (.bytes [b]) = some x) :
    t.ofValue? (.int b.toNat) = some x ↔ t.IsList := by
  induction t with
  | basic t =>
    cases t with
    | value =>
      cases h
      exact iff_of_false nofun id
    | _ => cases h
  | list t ih =>
    refine iff_of_true ?_ trivial
    rw [ofValue?_list_of_single rfl rfl, ← h, ofValue?, List.mapM_cons, List.mapM_nil]
    cases t.ofValue? (.int b.toNat) <;> rfl
  | optional t ih =>
    obtain ⟨y, hy, rfl⟩ := Option.map_eq_some_iff.mp h
    have hsome : (optional t).ofValue? (.int b.toNat) = some (some y) ↔
        t.ofValue? (.int b.toNat) = some y := by
      simp [ofValue?]
    rw [hsome, ih hy, IsList]

/-- A value that is no list is the list of it, unless it is made of bytes: then there has to be one
byte, and the items have to be lists. -/
theorem ofValue?_list_eq_singleton_iff {t : ArgumentType} {v : Value} {x : t.Carrier}
    (hlist : v.asList? = none) (hx : t.ofValue? v = some x) :
    (list t).ofValue? v = some [x] ↔ ∀ bs ∈ v.asBytes?, bs.length = 1 ∧ t.IsList := by
  cases hbytes : v.asBytes? with
  | none =>
    rw [ofValue?_list_of_single hlist hbytes, hx]
    exact iff_of_true rfl nofun
  | some bs =>
    obtain rfl : v = .bytes bs := by
      cases v with
      | bytes other => cases hbytes; rfl
      | _ => cases hbytes
    simp only [Option.mem_some_iff, forall_eq', ofValue?, mapM_eq_some_singleton_iff]
    constructor
    · rintro ⟨b, rfl, hb⟩
      exact ⟨rfl, (ofValue?_byte_iff hx).mp hb⟩
    · rintro ⟨hlength, ht⟩
      obtain ⟨b, rfl⟩ := List.length_eq_one_iff.mp hlength
      exact ⟨b, rfl, (ofValue?_byte_iff hx).mpr ht⟩

end ArgumentType

theorem Vars.get_eq_ok_iff {vars : Vars} {name : String} {v : Value} (h : vars.value? name = some v)
    {t : ArgumentType} {x : t.Carrier} : vars.get t name = .ok x ↔ t.ofValue? v = some x := by
  rw [get, h]
  dsimp only
  cases t.ofValue? v <;> simp

namespace Grammar

variable {σ ε : Type} {g : Grammar σ ε} {name : String}

theorem value?_foldl_of_none {es : List (Nat × Token)}
    (h : ∀ e ∈ es, g.valueAt? name e.1 e.2.text = none) (vars : Vars) :
    (es.foldl (fun vars e => g.collectOne vars e.1 e.2.text) vars).value? name =
      vars.value? name := by
  induction es generalizing vars with
  | nil => rfl
  | cons e es ih =>
    rw [List.forall_mem_cons] at h
    rw [List.foldl_cons, ih h.2, value?_collectOne, h.1]

/-- If only one value is given for the name, the node that gives it decides what is found. -/
theorem value?_collect_of_single {ids : List Nat} {tokens : List Token} {v : Value}
    (h : g.valuesAt name ids tokens = [v]) {id : Nat} {token : Token}
    (hmem : (id, token) ∈ ids.zip tokens) (hvalue : (g.valueAt? name id token.text).isSome = true)
    {n : Node σ ε} (hn : g.node? id = some n) :
    (g.collect .empty ids tokens).value? name =
      some (if n.traversals = 1 then v else .list [v]) := by
  obtain ⟨front, e, rest, hzip, hfront, he, hrest⟩ := List.filterMap_eq_cons_iff.mp h
  rw [List.filterMap_eq_nil_iff] at hrest
  -- No pair in front of the one that gives the value gives one, and none behind it.
  obtain rfl : (id, token) = e := by
    rw [hzip, List.mem_append, List.mem_cons] at hmem
    rcases hmem with hmem | rfl | hmem
    · rw [hfront _ hmem] at hvalue
      cases hvalue
    · rfl
    · rw [hrest _ hmem] at hvalue
      cases hvalue
  rw [collect, hzip, List.foldl_append, List.foldl_cons, value?_foldl_of_none hrest,
    value?_collectOne, he, value?_foldl_of_none hfront, hn]
  by_cases hone : n.traversals = 1
  · simp [hone]
  · simp [hone, Vars.empty, Vars.value?]

/-- What the line leaves under a name for which one node on the way gives a value. -/
theorem value?_check_of_single {b : Builder σ ε} (hb : b.build = .ok g) {input : String}
    {user : Option σ} {v : Value}
    (h : g.valuesAt name (g.check input user).history (Line.read input).tokens = [v]) {id : Nat}
    (hid : id ∈ (g.check input user).history) {n : Node σ ε} (hn : g.node? id = some n)
    (hkind : (g.kindAt? name id).isSome = true) :
    (g.check input user).vars.value? name =
      some (if n.traversals = 1 then v else .list [v]) := by
  obtain ⟨i, hi⟩ := List.mem_iff_getElem?.mp hid
  obtain ⟨kind, hkind⟩ := Option.isSome_iff_exists.mp hkind
  obtain ⟨token, w, htoken, hw⟩ := exists_value_of_sound (sound_check hb input) hi hkind
  have hmem : (id, token) ∈ (g.check input user).history.zip (Line.read input).tokens :=
    List.mem_iff_getElem?.mpr ⟨i, List.getElem?_zip_eq_some.mpr ⟨hi, htoken⟩⟩
  have hvalue : (g.valueAt? name id token.text).isSome = true := by
    rw [valueAt?, hkind, Option.bind_some, hw]
    rfl
  rw [vars_check hb]
  exact value?_collect_of_single h hmem hvalue hn

end Grammar

/-- A list of one value is the list of the argument that the value makes. So is the value itself if
it is no list, unless it is made of bytes. Hence a variable that is matched once makes this list
however often it may be matched, but for bytes if it may be matched only once. -/
theorem single_value_as_list {t : ArgumentType} {v : Value} {x : t.Carrier}
    (hlist : v.asList? = none) (hx : t.ofValue? v = some x) :
    (ArgumentType.list t).ofValue? (.list [v]) = some [x] ∧
    ((ArgumentType.list t).ofValue? v = some [x] ↔
      ∀ bs ∈ v.asBytes?, bs.length = 1 ∧ t.IsList) ∧
    ∀ {σ ε : Type} {b : Builder σ ε} {g : Grammar σ ε}, b.build = .ok g →
      ∀ (input : String) (user : Option σ) (name : String),
        g.valuesAt name (g.check input user).history (Line.read input).tokens = [v] →
        ∀ id ∈ (g.check input user).history, ∀ n, g.node? id = some n →
          (g.kindAt? name id).isSome = true →
          ((g.check input user).vars.get (.list t) name = .ok [x] ↔
            (n.traversals = 1 → ∀ bs ∈ v.asBytes?, bs.length = 1 ∧ t.IsList)) := by
  have hwrapped : (ArgumentType.list t).ofValue? (.list [v]) = some [x] := by
    rw [ArgumentType.ofValue?_list_singleton, hx]
    rfl
  have halone := ArgumentType.ofValue?_list_eq_singleton_iff hlist hx
  refine ⟨hwrapped, halone, fun hb input user name h id hid n hn hkind => ?_⟩
  rw [Vars.get_eq_ok_iff (Grammar.value?_check_of_single hb h hid hn hkind)]
  by_cases hone : n.traversals = 1
  · rw [if_pos hone, halone]
    exact ⟨fun hbytes _ => hbytes, fun hbytes => hbytes hone⟩
  · rw [if_neg hone]
    exact iff_of_true hwrapped fun h => absurd h hone

theorem single_value_as_list_tags :
    (ArgumentType.list (.basic .string)).ofValue? (.str "a") = some ["a"] ∧
    ∃ g, Sample.tags.build = .ok g ∧
      (g.check "tags a end" none).vars.get (.list (.basic .string)) "text" = .ok ["a"] := by
  obtain ⟨-, halone, hrun⟩ :=
    single_value_as_list (t := .basic .string) (v := .str "a") (x := "a") rfl rfl
  obtain ⟨g, hg, hval⟩ := Sample.tags.exists_build
    (f := fun g =>
      ((g.valuesAt "text" (g.seekPending (g.start (.read "tags a end") none)).history
          (Line.read "tags a end").tokens).map Value.asText?,
        (g.seekPending (g.start (.read "tags a end") none)).history.contains 2 &&
          (g.kindAt? "text" 2).isSome))
    (v := ([some "a"], true)) (by decide +kernel)
  have hseek : g.check "tags a end" none =
      g.seekPending (g.start (.read "tags a end") none) :=
    Grammar.matchPending_eq_seekPending (Sample.tags.numbered_of_build hg) (g.onLine_start _ none)
  rw [← hseek, Prod.mk.injEq, Bool.and_eq_true, List.contains_iff_mem] at hval
  obtain ⟨hvalues, hmem, hkind⟩ := hval
  have hsingle : g.valuesAt "text" (g.check "tags a end" none).history
      (Line.read "tags a end").tokens = [.str "a"] := by
    obtain ⟨v, hv, htext⟩ := List.map_eq_singleton_iff.mp hvalues
    cases v <;> cases htext
    exact hv
  obtain ⟨kind, hsome⟩ := Option.isSome_iff_exists.mp hkind
  obtain ⟨n, hn, -, -⟩ := Grammar.kindAt?_eq_some.mp hsome
  exact ⟨halone.mpr nofun, g, hg, (hrun hg _ none _ hsingle 2 hmem n hn hkind).mpr fun _ => nofun⟩

/-- Two bytes are one argument, but as a list of such arguments they are two integers and not the
list of that argument. -/
theorem bytes_as_list :
    (Value.bytes [1, 2]).asList? = none ∧
    (ArgumentType.basic .value).ofValue? (.bytes [1, 2]) = some (.bytes [1, 2]) ∧
    (ArgumentType.list (.basic .value)).ofValue? (.bytes [1, 2]) = some [.int 1, .int 2] ∧
    (ArgumentType.list (.basic .value)).ofValue? (.bytes [1, 2]) ≠ some [.bytes [1, 2]] :=
  ⟨rfl, rfl, rfl, nofun⟩

end CommandGrammar
