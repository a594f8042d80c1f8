import CommandGrammar.Derive.Attribute
import CommandGrammar.Proofs.Building
import Mathlib.Data.List.Forall2
import Mathlib.Data.List.Perm.Basic

/-! What the attributes of a field say. The items between the commas of an attribute each rename the
field's variable or give a default for it. They are counted over all attributes together: there may
be one name and one default, and neither the order of the items nor how they are spread over the
attributes changes what is said. -/

namespace CommandGrammar.Derive

/-! ### Lists -/

theorem exists_of_forall₂_append {α β : Type} {R : α → β → Prop} {l l' : List α} {m : List β}
    (h : List.Forall₂ R (l ++ l') m) :
    ∃ k k', List.Forall₂ R l k ∧ List.Forall₂ R l' k' ∧ m = k ++ k' := by
  refine ⟨m.take l.length, m.drop l.length, ?_, ?_, (List.take_append_drop _ _).symm⟩
  · simpa using List.forall₂_take l.length h
  · simpa using List.forall₂_drop l.length h

theorem exists_toList_iff {α : Type} {l : List α} :
    (∃ o : Option α, o.toList = l) ↔ l.length ≤ 1 := by
  match l with
  | [] => exact iff_of_true ⟨none, rfl⟩ (Nat.zero_le 1)
  | [a] => exact iff_of_true ⟨some a, rfl⟩ (Nat.le_refl 1)
  | _ :: _ :: _ => exact iff_of_false (fun ⟨o, ho⟩ => by cases o <;> cases ho) (by simp)

theorem toList_inj {α : Type} {o o' : Option α} : o.toList = o'.toList ↔ o = o' :=
  ⟨fun h => List.perm_option_toList.mp (.of_eq h), congrArg Option.toList⟩

theorem toList_eq_append_singleton_iff {α : Type} {o o' : Option α} {a : α} :
    o'.toList = o.toList ++ [a] ↔ o = none ∧ o' = some a := by
  cases o <;> cases o' <;> simp

/-! ### Items -/

/-- The tokens between commas. Nothing stands behind a comma at the end. -/
def TokenTree.pieces (ts : List TokenTree) : List (List TokenTree) :=
  let pieces := ts.splitOnP (·.isPunct ',')
  if pieces.getLast?.any List.isEmpty then pieces.dropLast else pieces

/-- Whether the attribute is one of those that say something. -/
def Attribute.isOwn (a : Attribute) : Bool := a.path.name? == some "cly"

/-- The items of an attribute, if it is a list. -/
def Attribute.items? (a : Attribute) : Option (List (List TokenTree)) :=
  match a.tokens with
  | [.group .parentheses inner] => some (TokenTree.pieces inner)
  | _ => none

/-- The items of all attributes that say something, if each of these is a list. -/
def itemsOf (attributes : List Attribute) : Option (List (List TokenTree)) :=
  ((attributes.filter Attribute.isOwn).mapM Attribute.items?).map List.flatten

theorem itemsOf_cons_of_not_isOwn {a : Attribute} (ha : a.isOwn = false)
    (attributes : List Attribute) : itemsOf (a :: attributes) = itemsOf attributes := by
  rw [itemsOf, List.filter_cons_of_neg (ne_true_of_eq_false ha), itemsOf]

theorem itemsOf_cons_eq_some_iff {a : Attribute} (ha : a.isOwn = true) {attributes : List Attribute}
    {all : List (List TokenTree)} :
    itemsOf (a :: attributes) = some all ↔
      ∃ items items', a.items? = some items ∧ itemsOf attributes = some items' ∧
        all = items ++ items' := by
  simp only [itemsOf, List.filter_cons_of_pos ha, List.mapM_cons, Option.map_eq_some_iff,
    Option.bind_eq_bind, Option.bind_eq_some_iff, Option.pure_def, Option.some.injEq]
  constructor
  · rintro ⟨_, ⟨items, hitems, rest, hrest, rfl⟩, rfl⟩
    exact ⟨items, rest.flatten, hitems, ⟨rest, hrest, rfl⟩, List.flatten_cons⟩
  · rintro ⟨items, _, hitems, ⟨rest, hrest, rfl⟩, rfl⟩
    exact ⟨items :: rest, ⟨items, hitems, rest, hrest, rfl⟩, List.flatten_cons⟩

/-- What one item says. -/
inductive Setting where
  | rename (name : String)
  | fallback (default : FieldDefault)

namespace Setting

/-- The name that is given. -/
def name? : Setting → Option String
  | rename name => some name
  | fallback _ => none

/-- The default that is given. -/
def fallback? : Setting → Option FieldDefault
  | rename _ => none
  | fallback default => some default

/-- The tokens are an item that says this. -/
inductive Written : List TokenTree → Setting → Prop
  | ofType : Written [.ident "default"] (.fallback .ofType)
  | expression {joined : Bool} {literal source : String} {ts : List TokenTree}
      (text : StringLiteral.value? literal = some source) (read : readExpression source = .ok ts) :
      Written [.ident "default", .punct '=' joined, .literal literal] (.fallback (.expression ts))
  | rename {joined : Bool} {literal name : String} (text : StringLiteral.value? literal = some name)
      (ne_empty : name ≠ "") :
      Written [.ident "rename", .punct '=' joined, .literal literal] (.rename name)

theorem Written.ne_nil {item : List TokenTree} {x : Setting} (h : Written item x) : item ≠ [] := by
  cases h <;> exact List.cons_ne_nil _ _

theorem Written.no_comma {item : List TokenTree} {x : Setting} (h : Written item x) :
    ∀ t ∈ item, t.isPunct ',' = false := by
  cases h <;> simp [TokenTree.isPunct]

end Setting

namespace TokenTree

@[simp]
theorem pieces_nil : pieces [] = [] := rfl

theorem pieces_singleton {w : List TokenTree} (hw : w ≠ [])
    (h : ∀ t ∈ w, t.isPunct ',' = false) : pieces w = [w] := by
  rw [pieces, List.splitOnP_eq_singleton h]
  simp [hw]

theorem pieces_append {w : List TokenTree} (h : ∀ t ∈ w, t.isPunct ',' = false) (joined : Bool)
    (ts : List TokenTree) : pieces (w ++ .punct ',' joined :: ts) = w :: pieces ts := by
  have hne : ts.splitOnP (·.isPunct ',') ≠ [] := List.splitOnP_ne_nil _ _
  obtain ⟨piece, rest, hrest⟩ := List.exists_cons_of_ne_nil hne
  rw [pieces, pieces, List.splitOnP_append_cons_of_forall_mem h (.punct ',' joined) rfl ts, hrest]
  simp only [List.getLast?_cons_cons, List.dropLast_cons_cons]
  split <;> rfl

theorem eq_of_isPunct {t : TokenTree} {c : Char} (h : t.isPunct c = true) :
    ∃ joined, t = .punct c joined := by
  cases t with
  | punct d joined => exact ⟨joined, by rw [eq_of_beq h]⟩
  | ident | literal | group => cases h

theorem length_le_sizeOfList (ts : List TokenTree) : ts.length ≤ sizeOfList ts := by
  induction ts with
  | nil => exact Nat.le_refl 0
  | cons t ts ih =>
    have ht : 1 ≤ t.size := by
      cases t with
      | group => rw [size]; omega
      | ident | punct | literal => exact Nat.le_refl 1
    rw [List.length_cons, sizeOfList]
    omega

end TokenTree

/-! ### Reading items -/

namespace Meta

variable {n : Nat} {ts rest : List TokenTree} {p : AttributePath} {m : Meta} {x : Setting}

/-- The item, as it was read, says this. -/
inductive Says : Meta → Setting → Prop
  | ofType {p : AttributePath} (path : p.name? = some "default") :
      Says (.path p) (.fallback .ofType)
  | expression {p : AttributePath} {source : String} {ts : List TokenTree}
      (path : p.name? = some "default") (read : readExpression source = .ok ts) :
      Says (.nameValue p (.text source)) (.fallback (.expression ts))
  | rename {p : AttributePath} {name : String} (path : p.name? = some "rename")
      (ne_empty : name ≠ "") : Says (.nameValue p (.text name)) (.rename name)

theorem length_lt_of_readNames {names names' : List String}
    (h : readNames names ts = .ok (names', rest)) : names.length < names'.length := by
  fun_induction readNames names ts with
  | case1 names name joined rest' ih =>
    have := ih h
    rw [List.length_append] at this
    exact Nat.lt_of_succ_lt this
  | case2 =>
    cases h
    simp
  | case3 => cases h
  | case4 => cases h

/-- A path of one name is read off one word. -/
theorem eq_of_readPath {name : String} (h : readPath ts = .ok (p, rest))
    (hname : p.name? = some name) : ts = .ident name :: rest := by
  unfold readPath at h
  split at h
  · obtain ⟨_, -, hp⟩ := map_eq_ok_iff.mp h
    cases hp
    cases hname
  · obtain ⟨⟨names, rest'⟩, hread, hp⟩ := map_eq_ok_iff.mp h
    cases hp
    have hnames : names = [name] := by
      unfold AttributePath.name? at hname
      split at hname <;> simp_all
    subst hnames
    unfold readNames at hread
    split at hread
    · -- With a double colon there would be more names.
      have := length_lt_of_readNames hread
      simp at this
    · cases hread
      rfl
    · split at hread <;> cases hread

/-- A text is read off one string literal. -/
theorem eq_of_literal? {text : String} (h : literal? ts = some (.text text, rest)) :
    ∃ literal, ts = .literal literal :: rest ∧ StringLiteral.value? literal = some text := by
  unfold literal? at h
  split at h
  · next literal _ =>
    obtain ⟨hl, hrest⟩ := Prod.mk.inj (Option.some.inj h)
    subst hrest
    refine ⟨literal, rfl, ?_⟩
    unfold literalOf at hl
    split at hl
    · next heq =>
      cases hl
      exact heq
    · cases hl
  · cases h
  · cases h
  · split at h <;> cases h
  · cases h

/-- What is read behind a path is the items of a list, a value, or nothing. -/
theorem readBehind_cases (h : readBehind n p ts = .ok (m, rest)) :
    (∃ k inner items, n = k + 1 ∧ ts = .group .parentheses inner :: rest ∧
        readItems k inner = .ok items ∧ m = .list p items) ∨
      (∃ joined l behind, ts = .punct '=' joined :: behind ∧ literal? behind = some (l, rest) ∧
        m = .nameValue p l) ∨
      ts = rest ∧ m = .path p := by
  unfold readBehind at h
  split at h
  · obtain ⟨items, hitems, hm⟩ := bind_ok_iff.mp h
    cases hm
    exact .inl ⟨_, _, items, rfl, rfl, hitems, rfl⟩
  · split at h
    · next hl =>
      cases h
      exact .inr (.inl ⟨_, _, _, rfl, hl, rfl⟩)
    · cases h
  · cases h
    exact .inr (.inr ⟨rfl, rfl⟩)

theorem readItem_cases (h : readItem n ts = .ok (m, rest)) :
    (∃ l, m = .literal l) ∨
      ∃ k p behind, readPath ts = .ok (p, behind) ∧ readBehind k p behind = .ok (m, rest) := by
  unfold readItem at h
  split at h
  · split at h
    · cases h
      exact .inl ⟨_, rfl⟩
    · cases h
  · split at h
    · split at h
      · cases h
      · obtain ⟨⟨p, behind⟩, hpath, hbehind⟩ := bind_ok_iff.mp h
        exact .inr ⟨_, p, behind, hpath, hbehind⟩
    · cases h

theorem written_of_readItem (h : readItem n ts = .ok (m, rest)) (hx : Says m x) :
    ∃ item, ts = item ++ rest ∧ Setting.Written item x := by
  obtain ⟨l, rfl⟩ | ⟨k, p, behind, hpath, hbehind⟩ := readItem_cases h
  · cases hx
  obtain ⟨_, _, _, -, -, -, rfl⟩ | ⟨joined, l, after, rfl, hl, rfl⟩ | ⟨rfl, rfl⟩ :=
    readBehind_cases hbehind
  · cases hx
  · cases hx with
    | expression path read =>
      obtain ⟨literal, rfl, text⟩ := eq_of_literal? hl
      exact ⟨_, eq_of_readPath hpath path, .expression text read⟩
    | rename path ne_empty =>
      obtain ⟨literal, rfl, text⟩ := eq_of_literal? hl
      exact ⟨_, eq_of_readPath hpath path, .rename text ne_empty⟩
  · cases hx with
    | ofType path => exact ⟨_, eq_of_readPath hpath path, .ofType⟩

theorem readItem_eq_readBehind (hliteral : seesLiteral ts = false) (hpath : seesPath ts = true)
    (h : readPath ts = .ok (p, rest)) : readItem (n + 1) ts = readBehind n p rest := by
  rw [readItem, if_neg (ne_true_of_eq_false hliteral), if_pos hpath, h]
  rfl

/-- An item is read up to its comma. -/
theorem readItem_written {item : List TokenTree} (h : Setting.Written item x)
    (hrest : rest = [] ∨ ∃ joined behind, rest = .punct ',' joined :: behind) (n : Nat) :
    ∃ m, readItem (n + 1) (item ++ rest) = .ok (m, rest) ∧ Says m x := by
  cases h with
  | ofType =>
    refine ⟨.path ⟨false, ["default"]⟩, ?_, .ofType rfl⟩
    obtain rfl | ⟨joined, behind, rfl⟩ := hrest
    · rw [readItem_eq_readBehind rfl rfl rfl, readBehind] <;> simp
    · rw [readItem_eq_readBehind rfl rfl rfl, readBehind] <;> simp
  | @expression joined literal source ts text read =>
    refine ⟨.nameValue ⟨false, ["default"]⟩ (literalOf literal), ?_, ?_⟩
    · rw [readItem_eq_readBehind rfl rfl rfl]
      simp [readBehind, literal?]
    · rw [literalOf, text]
      exact .expression rfl read
  | @rename joined literal name text ne_empty =>
    refine ⟨.nameValue ⟨false, ["rename"]⟩ (literalOf literal), ?_, ?_⟩
    · rw [readItem_eq_readBehind rfl rfl rfl]
      simp [readBehind, literal?]
    · rw [literalOf, text]
      exact .rename rfl ne_empty

@[simp]
theorem readItems_nil (n : Nat) : readItems n [] = .ok [] := by
  rw [readItems]

/-- Behind an item is the end or a comma and further items. -/
theorem readItems_eq_ok_iff {ms : List Meta} (hts : ts ≠ []) :
    readItems n ts = .ok ms ↔
      ∃ k m rest, n = k + 1 ∧ readItem k ts = .ok (m, rest) ∧
        (rest = [] ∧ ms = [m] ∨
          ∃ joined behind ms', rest = .punct ',' joined :: behind ∧
            readItems k behind = .ok ms' ∧ ms = m :: ms') := by
  cases n with
  | zero =>
    rw [readItems]
    · exact iff_of_false nofun fun ⟨_, _, _, hk, _⟩ => absurd hk (Nat.succ_ne_zero _).symm
    · exact hts
  | succ n =>
    rw [readItems, bind_ok_iff]
    · constructor
      · rintro ⟨⟨m, rest⟩, hitem, h⟩
        refine ⟨n, m, rest, rfl, hitem, ?_⟩
        dsimp only at h
        split at h
        · cases h
          exact .inl ⟨rfl, rfl⟩
        · obtain ⟨ms', hms', h⟩ := bind_ok_iff.mp h
          cases h
          exact .inr ⟨_, _, ms', rfl, hms', rfl⟩
        · cases h
      · rintro ⟨k, m, rest, hk, hitem, h⟩
        cases hk
        refine ⟨(m, rest), hitem, ?_⟩
        obtain ⟨rfl, rfl⟩ | ⟨joined, behind, ms', rfl, hms', rfl⟩ := h
        · rfl
        · exact bind_ok_iff.mpr ⟨ms', hms', rfl⟩
    · exact hts

/-- Items that say something are written between the commas. -/
theorem written_of_readItems {ms : List Meta} {xs : List Setting} (h : readItems n ts = .ok ms)
    (hxs : List.Forall₂ Says ms xs) : List.Forall₂ Setting.Written (TokenTree.pieces ts) xs := by
  induction n using Nat.strongRecOn generalizing ts ms xs with
  | ind n ih =>
    by_cases hts : ts = []
    · subst hts
      rw [readItems_nil] at h
      cases h
      cases hxs
      rw [TokenTree.pieces_nil]
      exact .nil
    obtain ⟨k, m, rest, rfl, hitem, h⟩ := (readItems_eq_ok_iff hts).mp h
    obtain ⟨rfl, rfl⟩ | ⟨joined, behind, ms', rfl, hms', rfl⟩ := h
    · obtain ⟨x, _, hx, hnil, rfl⟩ := List.forall₂_cons_left_iff.mp hxs
      cases hnil
      obtain ⟨item, rfl, hw⟩ := written_of_readItem hitem hx
      rw [List.append_nil, TokenTree.pieces_singleton hw.ne_nil hw.no_comma]
      exact .cons hw .nil
    · obtain ⟨x, xs', hx, hxs', rfl⟩ := List.forall₂_cons_left_iff.mp hxs
      obtain ⟨item, rfl, hw⟩ := written_of_readItem hitem hx
      rw [TokenTree.pieces_append hw.no_comma]
      exact .cons hw (ih k (Nat.lt_succ_self k) hms' hxs')

/-- Items between commas are read if the bound is large enough. -/
theorem readItems_written {xs : List Setting}
    (h : List.Forall₂ Setting.Written (TokenTree.pieces ts) xs) (hn : ts.length < n) :
    ∃ ms, readItems (n + 1) ts = .ok ms ∧ List.Forall₂ Says ms xs := by
  induction n generalizing ts xs with
  | zero => cases hn
  | succ n ih =>
    by_cases hts : ts = []
    · subst hts
      rw [TokenTree.pieces_nil] at h
      cases h
      exact ⟨[], readItems_nil _, .nil⟩
    -- An item ends at the first comma, if there is one.
    cases hcomma : ts.find? (·.isPunct ',') with
    | none =>
      have hno : ∀ t ∈ ts, t.isPunct ',' = false := by simpa using hcomma
      rw [TokenTree.pieces_singleton hts hno] at h
      obtain ⟨x, _, hw, hnil, rfl⟩ := List.forall₂_cons_left_iff.mp h
      cases hnil
      obtain ⟨m, hm, hx⟩ := readItem_written hw (.inl rfl) n
      rw [List.append_nil] at hm
      exact ⟨[m], (readItems_eq_ok_iff hts).mpr ⟨_, m, [], rfl, hm, .inl ⟨rfl, rfl⟩⟩,
        .cons hx .nil⟩
    | some comma =>
      obtain ⟨hc, item, behind, rfl, hno⟩ := List.find?_eq_some_iff_append.mp hcomma
      have hno : ∀ t ∈ item, t.isPunct ',' = false := by simpa using hno
      obtain ⟨joined, rfl⟩ := TokenTree.eq_of_isPunct hc
      rw [TokenTree.pieces_append hno] at h
      obtain ⟨x, xs', hw, hws, rfl⟩ := List.forall₂_cons_left_iff.mp h
      obtain ⟨m, hm, hx⟩ := readItem_written hw (.inr ⟨joined, behind, rfl⟩) n
      have hlength : behind.length < n := by
        rw [List.length_append, List.length_cons] at hn
        omega
      obtain ⟨ms', hms', hxs'⟩ := ih hws hlength
      exact ⟨m :: ms', (readItems_eq_ok_iff hts).mpr
        ⟨_, m, _, rfl, hm, .inr ⟨joined, behind, ms', rfl, hms', rfl⟩⟩, .cons hx hxs'⟩

end Meta

/-- An attribute that is read as a list is one, and its items are read from it. -/
theorem Attribute.read_eq_list_iff {a : Attribute} {p : AttributePath} {ms : List Meta} :
    a.read = .ok (.list p ms) ↔
      ∃ inner, a.tokens = [.group .parentheses inner] ∧ p = a.path ∧
        Meta.readItems (2 * TokenTree.sizeOfList inner + 5) inner = .ok ms := by
  have hsize (inner : List TokenTree) :
      2 * TokenTree.sizeOfList [.group .parentheses inner] + 2 =
        2 * TokenTree.sizeOfList inner + 5 + 1 := by
    simp only [TokenTree.sizeOfList, TokenTree.size]
    omega
  constructor
  · intro h
    obtain ⟨⟨m, rest⟩, hbehind, h⟩ := bind_ok_iff.mp h
    cases rest with
    | cons t ts => cases h
    | nil =>
      cases h
      obtain ⟨k, inner, items, hk, htokens, hitems, hm⟩ | ⟨_, _, _, -, -, hm⟩ | ⟨-, hm⟩ :=
        Meta.readBehind_cases hbehind
      · cases hm
        -- The bound that is left for the items depends on them alone.
        rw [htokens, hsize, Nat.add_right_cancel_iff] at hk
        exact ⟨inner, htokens, rfl, hk ▸ hitems⟩
      · cases hm
      · cases hm
  · rintro ⟨inner, htokens, rfl, hitems⟩
    refine bind_ok_iff.mpr ⟨(.list a.path ms, []), ?_, rfl⟩
    rw [htokens, hsize, Meta.readBehind, hitems]
    rfl

/-! ### Adding what items say -/

namespace FieldSettings

/-- The second settings hold what the first hold and then what these items say. As settings hold at
most one name and one default, all of it together is at most one of each. -/
structure Extends (s : FieldSettings) (xs : List Setting) (s' : FieldSettings) : Prop where
  rename : s'.rename.toList = s.rename.toList ++ xs.filterMap Setting.name?
  fallback : s'.fallback.toList = s.fallback.toList ++ xs.filterMap Setting.fallback?

variable {s s' : FieldSettings} {xs ys : List Setting}

theorem extends_iff :
    Extends s xs s' ↔
      s'.rename.toList = s.rename.toList ++ xs.filterMap Setting.name? ∧
        s'.fallback.toList = s.fallback.toList ++ xs.filterMap Setting.fallback? :=
  ⟨fun h => ⟨h.rename, h.fallback⟩, fun h => ⟨h.1, h.2⟩⟩

theorem extends_nil_iff : Extends s [] s' ↔ s' = s := by
  obtain ⟨rename, fallback⟩ := s
  obtain ⟨rename', fallback'⟩ := s'
  simp [extends_iff, toList_inj]

theorem extends_fallback_iff {d : FieldDefault} :
    Extends s [.fallback d] s' ↔ s.fallback = .none ∧ s' = { s with fallback := some d } := by
  obtain ⟨rename, fallback⟩ := s
  obtain ⟨rename', fallback'⟩ := s'
  simp [extends_iff, List.filterMap_cons, Setting.name?, Setting.fallback?, toList_inj,
    toList_eq_append_singleton_iff, and_left_comm]

theorem extends_rename_iff {name : String} :
    Extends s [.rename name] s' ↔ s.rename = .none ∧ s' = { s with rename := some name } := by
  obtain ⟨rename, fallback⟩ := s
  obtain ⟨rename', fallback'⟩ := s'
  simp [extends_iff, List.filterMap_cons, Setting.name?, Setting.fallback?, toList_inj,
    toList_eq_append_singleton_iff, and_assoc]

theorem extends_append_iff :
    Extends s (xs ++ ys) s' ↔ ∃ s₁, Extends s xs s₁ ∧ Extends s₁ ys s' := by
  simp only [extends_iff, List.filterMap_append]
  constructor
  · rintro ⟨hrename, hfallback⟩
    -- What is said on the way is a beginning of what is said at the end.
    rw [← List.append_assoc] at hrename hfallback
    have hshort {α : Type} {o : Option α} {l l' : List α} (h : o.toList = l ++ l') :
        l.length ≤ 1 := by
      have : o.toList.length ≤ 1 := Option.length_toList_le
      rw [h, List.length_append] at this
      omega
    obtain ⟨rename, hr⟩ := exists_toList_iff.mpr (hshort hrename)
    obtain ⟨fallback, hf⟩ := exists_toList_iff.mpr (hshort hfallback)
    exact ⟨⟨rename, fallback⟩, ⟨hr, hf⟩, by rw [hrename, hr], by rw [hfallback, hf]⟩
  · rintro ⟨s₁, ⟨hr, hf⟩, hr', hf'⟩
    rw [hr', hf', hr, hf, List.append_assoc, List.append_assoc]
    exact ⟨rfl, rfl⟩

theorem setFallback_eq_ok_iff {d : FieldDefault} :
    s.setFallback d = .ok s' ↔ Extends s [.fallback d] s' := by
  rw [setFallback, ite_error_eq_ok_iff, extends_fallback_iff, Option.not_isSome_iff_eq_none,
    Except.ok.injEq, eq_comm (a := s')]

theorem stringOf_eq_ok_iff {l : AttributeLiteral} {text : String} :
    stringOf l = .ok text ↔ l = .text text := by
  cases l <;> simp [stringOf]

/-- One item can be added exactly if it says something that was not said before. -/
theorem add_eq_ok_iff {m : Meta} :
    s.add m = .ok s' ↔ ∃ x, Meta.Says m x ∧ Extends s [x] s' := by
  constructor
  · intro h
    unfold add at h
    split at h
    · cases h
    · next p =>
      split at h
      · next hp => exact ⟨_, .ofType (eq_of_beq hp), setFallback_eq_ok_iff.mp h⟩
      · cases h
    · next p l =>
      split at h
      · next hp =>
        obtain ⟨hnew, h⟩ := ite_error_eq_ok_iff.mp h
        obtain ⟨name, hname, h⟩ := bind_ok_iff.mp h
        obtain ⟨hempty, h⟩ := ite_error_eq_ok_iff.mp h
        rw [stringOf_eq_ok_iff.mp hname]
        cases h
        refine ⟨_, .rename (eq_of_beq hp) fun hn => hempty (hn ▸ rfl), extends_rename_iff.mpr ?_⟩
        exact ⟨Option.not_isSome_iff_eq_none.mp hnew, rfl⟩
      · split at h
        · next hp =>
          obtain ⟨source, hsource, h⟩ := bind_ok_iff.mp h
          obtain ⟨ts, hts, h⟩ := bind_ok_iff.mp h
          rw [stringOf_eq_ok_iff.mp hsource]
          exact ⟨_, .expression (eq_of_beq hp) (mapError_eq_ok_iff.mp hts),
            setFallback_eq_ok_iff.mp h⟩
        · cases h
    · cases h
  · rintro ⟨x, hx, h⟩
    cases hx with
    | ofType path =>
      rw [add, if_pos (beq_iff_eq.mpr path)]
      exact setFallback_eq_ok_iff.mpr h
    | expression path read =>
      rw [add, path, if_neg (by decide), if_pos (beq_self_eq_true _)]
      exact bind_ok_iff.mpr ⟨_, rfl, bind_ok_iff.mpr
        ⟨_, mapError_eq_ok_iff.mpr read, setFallback_eq_ok_iff.mpr h⟩⟩
    | rename path ne_empty =>
      obtain ⟨hnew, rfl⟩ := extends_rename_iff.mp h
      rw [add, path, if_pos (beq_self_eq_true _), hnew]
      refine bind_ok_iff.mpr ⟨_, rfl, ?_⟩
      rw [if_neg (mt String.isEmpty_iff.mp ne_empty)]
      rfl

theorem foldlM_add_eq_ok_iff {ms : List Meta} :
    ms.foldlM add s = .ok s' ↔ ∃ xs, List.Forall₂ Meta.Says ms xs ∧ Extends s xs s' := by
  induction ms generalizing s with
  | nil =>
    simp only [List.foldlM_nil, List.forall₂_nil_left_iff, exists_eq_left, extends_nil_iff]
    exact ⟨fun h => by cases h; rfl, fun h => h ▸ rfl⟩
  | cons m ms ih =>
    rw [List.foldlM_cons, bind_ok_iff]
    constructor
    · rintro ⟨s₁, hadd, hrun⟩
      obtain ⟨x, hx, hs₁⟩ := add_eq_ok_iff.mp hadd
      obtain ⟨xs, hxs, hs'⟩ := ih.mp hrun
      exact ⟨x :: xs, .cons hx hxs, extends_append_iff.mpr ⟨s₁, hs₁, hs'⟩⟩
    · rintro ⟨_, hall, hs'⟩
      obtain ⟨x, xs, hx, hxs, rfl⟩ := List.forall₂_cons_left_iff.mp hall
      obtain ⟨s₁, hs₁, hs'⟩ := extends_append_iff.mp (List.singleton_append ▸ hs')
      exact ⟨s₁, add_eq_ok_iff.mpr ⟨x, hx, hs₁⟩, ih.mpr ⟨xs, hxs, hs'⟩⟩

theorem addAttribute_of_not_isOwn {a : Attribute} (ha : a.isOwn = false) :
    s.addAttribute a = .ok s :=
  if_neg (ne_true_of_eq_false ha)

theorem addAttribute_eq_ok_iff {a : Attribute} (ha : a.isOwn = true) :
    s.addAttribute a = .ok s' ↔
      ∃ items xs, a.items? = some items ∧ List.Forall₂ Setting.Written items xs ∧
        Extends s xs s' := by
  have hpos : s.addAttribute a = _ := if_pos ha
  rw [hpos, bind_ok_iff]
  constructor
  · rintro ⟨m, hread, h⟩
    split at h
    · next p ms =>
      obtain ⟨inner, htokens, -, hitems⟩ :=
        Attribute.read_eq_list_iff.mp (mapError_eq_ok_iff.mp hread)
      obtain ⟨xs, hxs, hs'⟩ := foldlM_add_eq_ok_iff.mp h
      exact ⟨TokenTree.pieces inner, xs, by rw [Attribute.items?, htokens],
        Meta.written_of_readItems hitems hxs, hs'⟩
    · cases h
    · cases h
  · rintro ⟨items, xs, hitems, hxs, hs'⟩
    unfold Attribute.items? at hitems
    split at hitems
    · next inner htokens =>
      cases hitems
      have hbound : inner.length < 2 * TokenTree.sizeOfList inner + 4 := by
        have := TokenTree.length_le_sizeOfList inner
        omega
      obtain ⟨ms, hms, hsays⟩ := Meta.readItems_written hxs hbound
      refine ⟨.list a.path ms, ?_, foldlM_add_eq_ok_iff.mpr ⟨xs, hsays, hs'⟩⟩
      rw [Attribute.read_eq_list_iff.mpr ⟨inner, htokens, rfl, hms⟩]
      rfl
    · cases hitems

theorem foldlM_addAttribute_eq_ok_iff {attributes : List Attribute} :
    attributes.foldlM addAttribute s = .ok s' ↔
      ∃ items xs, itemsOf attributes = some items ∧ List.Forall₂ Setting.Written items xs ∧
        Extends s xs s' := by
  induction attributes generalizing s with
  | nil =>
    constructor
    · intro h
      cases h
      exact ⟨[], [], rfl, .nil, extends_nil_iff.mpr rfl⟩
    · rintro ⟨items, xs, hitems, hxs, hs'⟩
      cases hitems
      cases hxs
      rw [extends_nil_iff.mp hs']
      rfl
  | cons a attributes ih =>
    rw [List.foldlM_cons, bind_ok_iff]
    cases ha : a.isOwn with
    | false =>
      rw [addAttribute_of_not_isOwn ha, itemsOf_cons_of_not_isOwn ha, ← ih]
      exact ⟨fun ⟨_, h, hrun⟩ => by cases h; exact hrun, fun hrun => ⟨s, rfl, hrun⟩⟩
    | true =>
      constructor
      · rintro ⟨s₁, hadd, hrun⟩
        obtain ⟨items, xs, hitems, hxs, hs₁⟩ := (addAttribute_eq_ok_iff ha).mp hadd
        obtain ⟨items', xs', hitems', hxs', hs'⟩ := ih.mp hrun
        exact ⟨items ++ items', xs ++ xs', (itemsOf_cons_eq_some_iff ha).mpr
            ⟨items, items', hitems, hitems', rfl⟩, List.rel_append hxs hxs',
          extends_append_iff.mpr ⟨s₁, hs₁, hs'⟩⟩
      · rintro ⟨_, _, hall, hwritten, hs'⟩
        obtain ⟨items, items', hitems, hitems', rfl⟩ := (itemsOf_cons_eq_some_iff ha).mp hall
        obtain ⟨xs, xs', hxs, hxs', rfl⟩ := exists_of_forall₂_append hwritten
        obtain ⟨s₁, hs₁, hs'⟩ := extends_append_iff.mp hs'
        exact ⟨s₁, (addAttribute_eq_ok_iff ha).mpr ⟨items, xs, hitems, hxs, hs₁⟩,
          ih.mpr ⟨items', xs', hitems', hxs', hs'⟩⟩

theorem ofAttributes_eq_ok_iff {attributes : List Attribute} :
    ofAttributes attributes = .ok s ↔
      ∃ items xs, itemsOf attributes = some items ∧ List.Forall₂ Setting.Written items xs ∧
        xs.filterMap Setting.name? = s.rename.toList ∧
        xs.filterMap Setting.fallback? = s.fallback.toList := by
  rw [ofAttributes, foldlM_addAttribute_eq_ok_iff]
  refine exists_congr fun items => exists_congr fun xs => and_congr_right fun _ =>
    and_congr_right fun _ => ?_
  rw [extends_iff, eq_comm, eq_comm (a := s.fallback.toList)]
  rfl

theorem ofAttributes_filter_isOwn (attributes : List Attribute) :
    ofAttributes (attributes.filter Attribute.isOwn) = ofAttributes attributes := by
  rw [ofAttributes, ofAttributes, List.foldlM_filter]
  congr
  funext s a
  split
  · rfl
  · next ha => exact (addAttribute_of_not_isOwn (eq_false_of_ne_true ha)).symm

/-- The items may be in any order and be spread over any attributes. -/
theorem ofAttributes_eq_ok_of_perm {attributes others : List Attribute}
    {items items' : List (List TokenTree)} (hitems : itemsOf attributes = some items)
    (hitems' : itemsOf others = some items') (hperm : items.Perm items')
    (h : ofAttributes attributes = .ok s) : ofAttributes others = .ok s := by
  obtain ⟨_, xs, hsome, hxs, hr, hf⟩ := ofAttributes_eq_ok_iff.mp h
  cases hitems.symm.trans hsome
  obtain ⟨xs', hxs', hperm'⟩ := List.perm_comp_forall₂ hperm.symm hxs
  -- At most one name and one default are said, so that their order does not matter.
  have hsame {α : Type} {o : Option α} {l l' : List α} (hl : l = o.toList) (hp : l'.Perm l) :
      l' = o.toList := by
    subst hl
    obtain ⟨o', rfl⟩ := exists_toList_iff.mpr (hp.length_eq ▸ Option.length_toList_le)
    rw [List.perm_option_toList.mp hp]
  exact ofAttributes_eq_ok_iff.mpr ⟨items', xs', hitems', hxs',
    hsame hr (hperm'.filterMap Setting.name?), hsame hf (hperm'.filterMap Setting.fallback?)⟩

end FieldSettings

/-- The attributes of a field are accepted exactly if those that say something are lists of items
that are each a name or a default, with at most one of both in all of them together. Those are what
is said. Other attributes have no effect, nor has the arrangement of the items. -/
theorem settings_of_items (attributes : List Attribute) :
    (∀ s, FieldSettings.ofAttributes attributes = .ok s ↔
      ∃ items settings, itemsOf attributes = some items ∧
        List.Forall₂ Setting.Written items settings ∧
        settings.filterMap Setting.name? = s.rename.toList ∧
        settings.filterMap Setting.fallback? = s.fallback.toList) ∧
    ((∃ s, FieldSettings.ofAttributes attributes = .ok s) ↔
      ∃ items settings, itemsOf attributes = some items ∧
        List.Forall₂ Setting.Written items settings ∧
        (settings.filterMap Setting.name?).length ≤ 1 ∧
        (settings.filterMap Setting.fallback?).length ≤ 1) ∧
    FieldSettings.ofAttributes (attributes.filter Attribute.isOwn) =
      FieldSettings.ofAttributes attributes ∧
    ∀ others items items', itemsOf attributes = some items → itemsOf others = some items' →
      items.Perm items' →
      ∀ s, FieldSettings.ofAttributes others = .ok s ↔
        FieldSettings.ofAttributes attributes = .ok s := by
  refine ⟨fun s => FieldSettings.ofAttributes_eq_ok_iff, ⟨?_, ?_⟩,
    FieldSettings.ofAttributes_filter_isOwn attributes, ?_⟩
  · rintro ⟨s, hs⟩
    obtain ⟨items, settings, hitems, hwritten, hr, hf⟩ := FieldSettings.ofAttributes_eq_ok_iff.mp hs
    exact ⟨items, settings, hitems, hwritten, hr ▸ Option.length_toList_le,
      hf ▸ Option.length_toList_le⟩
  · rintro ⟨items, settings, hitems, hwritten, hr, hf⟩
    obtain ⟨rename, hr⟩ := exists_toList_iff.mpr hr
    obtain ⟨fallback, hf⟩ := exists_toList_iff.mpr hf
    exact ⟨⟨rename, fallback⟩, FieldSettings.ofAttributes_eq_ok_iff.mpr
      ⟨items, settings, hitems, hwritten, hr.symm, hf.symm⟩⟩
  · intro others items items' hitems hitems' hperm s
    exact ⟨FieldSettings.ofAttributes_eq_ok_of_perm hitems' hitems hperm.symm,
      FieldSettings.ofAttributes_eq_ok_of_perm hitems hitems' hperm⟩

/-- A name and a default, in one attribute or in two with a comment between. -/
theorem settings_of_items_spread :
    let name : List TokenTree := [.ident "rename", .punct '=' false, .literal "\"file\""]
    let together : List Attribute :=
      [⟨⟨false, ["cly"]⟩,
        [.group .parentheses ([.ident "default", .punct ',' false] ++ name)]⟩]
    let spread : List Attribute :=
      [⟨⟨false, ["cly"]⟩, [.group .parentheses (name ++ [.punct ',' false])]⟩,
        ⟨⟨false, ["doc"]⟩, [.punct '=' false, .literal "\"The file.\""]⟩,
        ⟨⟨false, ["cly"]⟩, [.group .parentheses [.ident "default"]]⟩]
    itemsOf together = some [[.ident "default"], name] ∧
      itemsOf spread = some [name, [.ident "default"]] ∧
      FieldSettings.ofAttributes together = .ok ⟨some "file", some .ofType⟩ ∧
      FieldSettings.ofAttributes spread = .ok ⟨some "file", some .ofType⟩ := by
  intro name together spread
  have htogether : itemsOf together = some [[.ident "default"], name] := rfl
  have hspread : itemsOf spread = some [name, [.ident "default"]] := rfl
  have hname : StringLiteral.value? "\"file\"" = some "file" := by
    simp [StringLiteral.value?, StringLiteral.unescape]
  have hsettings : FieldSettings.ofAttributes together = .ok ⟨some "file", some .ofType⟩ :=
    ((settings_of_items together).1 _).mpr ⟨_, [.fallback .ofType, .rename "file"], htogether,
      .cons .ofType (.cons (.rename hname (by decide)) .nil), rfl, rfl⟩
  exact ⟨htogether, hspread, hsettings,
    ((settings_of_items together).2.2.2 spread _ _ htogether hspread (.swap _ _ _) _).mpr hsettings⟩

end CommandGrammar.Derive
