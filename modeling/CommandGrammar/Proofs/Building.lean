import CommandGrammar.Grammar.Build
import CommandGrammar.Kind.Word

/-! How a grammar is built, step by step. Every change of a draft is the addition of one node or of
one alias, so what these two keep holds of every draft, and what holds of every node as it is made
holds of every node of the finished grammar. In particular the node at an index has that index as
its number, and an action has no pattern. -/

namespace CommandGrammar

theorem bind_ok_iff {α β γ : Type} {x : Except α β} {f : β → Except α γ} {r : γ} :
    (x >>= f) = .ok r ↔ ∃ a, x = .ok a ∧ f a = .ok r := by
  cases x with
  | error e => exact ⟨nofun, nofun⟩
  | ok a => exact ⟨fun h => ⟨a, rfl, h⟩, fun ⟨_, ha, h⟩ => by cases ha; exact h⟩

theorem map_eq_ok_iff {ε α β : Type} {x : Except ε α} {f : α → β} {b : β} :
    x.map f = .ok b ↔ ∃ a, x = .ok a ∧ b = f a := by
  cases x <;> simp [Except.map, eq_comm]

theorem mapError_eq_ok_iff {ε ε' α : Type} {x : Except ε α} {f : ε → ε'} {a : α} :
    x.mapError f = .ok a ↔ x = .ok a := by
  cases x with
  | error e => exact iff_of_false nofun nofun
  | ok b => exact ⟨fun h => by cases h; rfl, fun h => by cases h; rfl⟩

theorem ite_error_eq_ok_iff {ε α : Type} {p : Prop} [Decidable p] {e : ε} {x : Except ε α} {a : α} :
    (if p then .error e else x) = .ok a ↔ ¬p ∧ x = .ok a := by
  by_cases h : p
  · rw [if_pos h]
    exact iff_of_false nofun fun hx => hx.1 h
  · rw [if_neg h]
    exact (and_iff_right h).symm

theorem toOption_eq_some_iff {ε α : Type} {x : Except ε α} {a : α} :
    x.toOption = some a ↔ x = .ok a := by
  cases x <;> simp [Except.toOption]

theorem bind_error_iff {α β γ : Type} {x : Except α β} {f : β → Except α γ} {e : α} :
    (x >>= f) = .error e ↔ x = .error e ∨ ∃ a, x = .ok a ∧ f a = .error e := by
  cases x with
  | error e' => exact ⟨fun h => .inl (by cases h; rfl), fun h => by
      rcases h with h | ⟨_, h, -⟩ <;> cases h
      rfl⟩
  | ok a => exact ⟨fun h => .inr ⟨a, rfl, h⟩, fun h => by
      rcases h with h | ⟨_, ha, h⟩
      · cases h
      · cases ha
        exact h⟩

theorem Pattern.new?_eq_some_iff [PatternDialect] {source : String} {p : Pattern} :
    new? source = some p ↔
      compile? source = some p ∧ PatternDialect.admits (anchor source) = true := by
  rw [new?, Option.filter_eq_some_iff]

/-- The node once one more name is in use below it. -/
def DraftNode.withName {σ ε : Type} (n : DraftNode σ ε) (name : Option String) (chosen : String) :
    DraftNode σ ε :=
  { n with
    names := chosen :: n.names
    unnamed := if name.isNone then n.unnamed + 1 else n.unnamed }

namespace Draft

variable {σ ε : Type}

/-! ### What one addition does -/

/-- The name of a new child or alias. -/
def chosenName (d : Draft σ ε) (parent : Nat) (name : Option String) : String :=
  name.getD ("@" ++ toString ((d.nodes[parent]?).elim 0 (·.unnamed)))

/-- The draft once the name is in use. -/
def withName (d : Draft σ ε) (parent : Nat) (name : Option String) : Draft σ ε :=
  { d with nodes := d.nodes.modify parent (·.withName name (d.chosenName parent name)) }

theorem claimName_ok {d d' : Draft σ ε} {parent : Nat} {name : Option String} {chosen : String}
    (h : d.claimName parent name = .ok (chosen, d')) :
    name.any (!isValidName ·) = false ∧
      (d.nodes[parent]?).any (·.names.contains chosen) = false ∧
      chosen = d.chosenName parent name ∧ d' = d.withName parent name := by
  unfold claimName at h
  dsimp only at h
  split at h
  · cases h
  · next hv =>
    split at h
    · cases h
    · next hc =>
      cases h
      exact ⟨eq_false_of_ne_true hv, eq_false_of_ne_true hc, rfl, rfl⟩

theorem claimName_error {d : Draft σ ε} {parent : Nat} {name : Option String} {e : GrammarError}
    (h : d.claimName parent name = .error e) :
    (∃ given, name = some given ∧ isValidName given = false ∧
        e = .invalidName (d.path parent) given) ∨
      (d.nodes[parent]?).any (·.names.contains (d.chosenName parent name)) = true ∧
        e = .duplicateChild (d.path parent) (d.chosenName parent name) := by
  unfold claimName at h
  dsimp only at h
  split at h
  · next hv =>
    cases h
    cases name with
    | none => cases hv
    | some given => exact .inl ⟨given, rfl, by simpa using hv, rfl⟩
  · split at h
    · next hc =>
      cases h
      exact .inr ⟨hc, rfl⟩
    · cases h

theorem claimLabel_ok {d d' : Draft σ ε} {id : Nat} {label : Option String}
    (h : d.claimLabel id label = .ok d') :
    (∀ l, label = some l → d.labels.lookup l = none) ∧
      d' = { d with labels := (label.map (·, id)).toList ++ d.labels } := by
  unfold claimLabel at h
  split at h
  · cases h
    exact ⟨nofun, rfl⟩
  · next l =>
    split at h
    · cases h
    · next hl =>
      cases h
      exact ⟨fun _ hl' => by cases hl'; exact hl, rfl⟩

theorem claimLabel_error {d : Draft σ ε} {id : Nat} {label : Option String} {e : GrammarError}
    (h : d.claimLabel id label = .error e) :
    ∃ l existing, label = some l ∧ d.labels.lookup l = some existing ∧
      e = .duplicateLabel l (d.path existing) := by
  unfold claimLabel at h
  split at h
  · cases h
  · next l =>
    split at h
    · next existing hl =>
      cases h
      exact ⟨l, existing, rfl, hl, rfl⟩
    · cases h

/-- The draft once a node with this name and pattern is added. -/
def withNode (d : Draft σ ε) (parent : Nat) (decl : NodeDecl σ ε) (inherited : Inherited σ)
    (pattern : Option Pattern) : Draft σ ε :=
  let name := d.chosenName parent decl.name
  let node := makeNode decl inherited d.nodes.size parent name (childPath (d.path parent) name)
    pattern
  { d with
    nodes := ((d.withName parent decl.name).nodes.modify parent fun n =>
      { n with
        node := { n.node with children := n.node.children ++ [d.nodes.size] }
        slots := n.slots ++ [.child d.nodes.size] }).push ⟨node, [], [], 0⟩
    labels := (decl.label.map (·, d.nodes.size)).toList ++ d.labels }

@[simp]
theorem path_withName (d : Draft σ ε) (parent : Nat) (name : Option String) (id : Nat) :
    (d.withName parent name).path id = d.path id := by
  unfold path withName
  rw [Array.getElem?_modify]
  split
  · next h => subst h; cases d.nodes[parent]? <;> rfl
  · rfl

/-- A node is added under a name that is free, with a pattern that can be read and a label that is
not in use. -/
theorem addNode_ok [PatternDialect] {d d' : Draft σ ε} {parent : Nat} {decl : NodeDecl σ ε}
    {inherited : Inherited σ} (h : d.addNode parent decl inherited = .ok d') :
    ∃ pattern,
      compilePattern decl (d.chosenName parent decl.name)
        (childPath (d.path parent) (d.chosenName parent decl.name)) = .ok pattern ∧
      decl.name.any (!isValidName ·) = false ∧
      (d.nodes[parent]?).any (·.names.contains (d.chosenName parent decl.name)) = false ∧
      (∀ l, decl.label = some l → d.labels.lookup l = none) ∧
      d' = d.withNode parent decl inherited pattern := by
  obtain ⟨⟨name, d₁⟩, h₁, h⟩ := bind_ok_iff.mp h
  obtain ⟨hv, hf, rfl, rfl⟩ := claimName_ok h₁
  obtain ⟨pattern, hp, h⟩ := bind_ok_iff.mp h
  obtain ⟨d₂, h₂, h⟩ := bind_ok_iff.mp h
  obtain ⟨hl, rfl⟩ := claimLabel_ok h₂
  rw [path_withName] at hp
  cases h
  refine ⟨pattern, hp, hv, hf, hl, ?_⟩
  simp only [path_withName]
  rfl

/-- The draft once an alias is added. -/
def withAlias (d : Draft σ ε) (parent : Nat) (decl : AliasDecl) : Draft σ ε :=
  { d with
    aliases := d.aliases.push
      ⟨childPath (d.path parent) (d.chosenName parent decl.name), decl.target⟩
    nodes := (d.withName parent decl.name).nodes.modify parent fun n =>
      { n with slots := n.slots ++ [.linked d.aliases.size] } }

/-- An alias is added under a name that is free. -/
theorem addAlias_ok {d d' : Draft σ ε} {parent : Nat} {decl : AliasDecl}
    (h : d.addAlias parent decl = .ok d') :
    decl.name.any (!isValidName ·) = false ∧
      (d.nodes[parent]?).any (·.names.contains (d.chosenName parent decl.name)) = false ∧
      d' = d.withAlias parent decl := by
  obtain ⟨⟨name, d₁⟩, h₁, h⟩ := bind_ok_iff.mp h
  obtain ⟨hv, hf, rfl, rfl⟩ := claimName_ok h₁
  cases h
  refine ⟨hv, hf, ?_⟩
  simp only [path_withName]
  rfl

theorem eq_of_start {i : Nat} {n : DraftNode σ ε} (h : (start : Draft σ ε).nodes[i]? = some n) :
    i = 0 ∧ n = ⟨root, [], [], 0⟩ := by
  rcases i with _ | i <;> simp_all [start]

/-! ### What every addition keeps -/

/-- The property is kept by every addition to a draft. -/
structure Kept [PatternDialect] (P : Draft σ ε → Prop) : Prop where
  node : ∀ {d d' : Draft σ ε} {parent : Nat} {decl : NodeDecl σ ε} {inherited : Inherited σ},
    P d → d.addNode parent decl inherited = .ok d' → P d'
  link : ∀ {d d' : Draft σ ε} {parent : Nat} {decl : AliasDecl},
    P d → d.addAlias parent decl = .ok d' → P d'

namespace Kept

variable [PatternDialect] {P : Draft σ ε → Prop}

mutual

theorem element (k : Kept P) (e : Element σ ε) {parent : Nat} {inherited : Inherited σ}
    {d d' : Draft σ ε} (hd : P d) (h : addElement parent inherited d e = .ok d') : P d' := by
  cases e with
  | node decl elements =>
    simp only [addElement] at h
    obtain ⟨d₁, h₁, h⟩ := bind_ok_iff.mp h
    exact k.elements elements (k.node hd h₁) h
  | link decl => exact k.link hd (by simpa only [addElement] using h)
  | group decl elements => exact k.elements elements hd (by simpa only [addElement] using h)

theorem elements (k : Kept P) (es : List (Element σ ε)) {parent : Nat} {inherited : Inherited σ}
    {d d' : Draft σ ε} (hd : P d) (h : addElements parent inherited d es = .ok d') : P d' := by
  cases es with
  | nil =>
    simp only [addElements] at h
    cases h
    exact hd
  | cons e es =>
    simp only [addElements] at h
    obtain ⟨d₁, h₁, h⟩ := bind_ok_iff.mp h
    exact k.elements es (k.element e hd h₁) h

end

mutual

theorem merge (k : Kept P) (m : Merge σ ε) {base : Nat} {d d' : Draft σ ε} (hd : P d)
    (h : addMerge base d m = .ok d') : P d' := by
  cases m with
  | into target elements merges =>
    simp only [addMerge] at h
    split at h
    · cases h
    · obtain ⟨d₁, h₁, h⟩ := bind_ok_iff.mp h
      exact k.merges merges (k.elements elements hd h₁) h

theorem merges (k : Kept P) (ms : List (Merge σ ε)) {base : Nat} {d d' : Draft σ ε} (hd : P d)
    (h : addMerges base d ms = .ok d') : P d' := by
  cases ms with
  | nil =>
    simp only [addMerges] at h
    cases h
    exact hd
  | cons m ms =>
    simp only [addMerges] at h
    obtain ⟨d₁, h₁, h⟩ := bind_ok_iff.mp h
    exact k.merges ms (k.merge m hd h₁) h

end

/-- What holds of the draft with nothing but the root, and is kept by every addition, holds of the
draft that a grammar is finished from. -/
theorem exists_draft (k : Kept P) (start : P Draft.start) {b : Builder σ ε} {g : Grammar σ ε}
    (h : b.build = .ok g) : ∃ d : Draft σ ε, P d ∧ d.finish = .ok g := by
  obtain ⟨d₁, h₁, h⟩ := bind_ok_iff.mp h
  obtain ⟨d₂, h₂, h⟩ := bind_ok_iff.mp h
  exact ⟨d₂, k.merges b.merges (k.elements b.elements start h₁) h₂, h⟩

end Kept

/-! ### What holds of every node -/

/-- Every node has the property, seen together with its index. -/
def Each (P : Nat → Node σ ε → Prop) (nodes : Array (DraftNode σ ε)) : Prop :=
  ∀ i n, nodes[i]? = some n → P i n.node

variable {P : Nat → Node σ ε → Prop}

theorem Each.modify {nodes : Array (DraftNode σ ε)} (hd : Each P nodes) (parent : Nat)
    {f : DraftNode σ ε → DraftNode σ ε} (hf : ∀ i n, P i n.node → P i (f n).node) :
    Each P (nodes.modify parent f) := by
  intro i n h
  rw [Array.getElem?_modify] at h
  split at h
  · obtain ⟨m, hm, rfl⟩ := Option.map_eq_some_iff.mp h
    exact hf i m (hd i m hm)
  · exact hd i n h

theorem Each.withName {d : Draft σ ε} (hd : Each P d.nodes) (parent : Nat) (name : Option String) :
    Each P (d.withName parent name).nodes :=
  hd.modify parent (fun _ _ h => h)

/-- A property of the node at an index is kept by every addition if it holds of a node as it is
made and does not look at the nodes below. -/
theorem kept_each [PatternDialect]
    (made : ∀ {decl : NodeDecl σ ε} {inherited : Inherited σ} {id parent : Nat}
      {name path : String} {pattern : Option Pattern}, compilePattern decl name path = .ok pattern →
      P id (makeNode decl inherited id parent name path pattern))
    (children : ∀ {i : Nat} {n : Node σ ε} (ids : List Nat), P i n →
      P i { n with children := ids }) :
    Kept fun d : Draft σ ε => Each P d.nodes where
  node {d d' parent decl inherited} hd h := by
    obtain ⟨pattern, hp, -, -, -, rfl⟩ := addNode_ok h
    intro i n hi
    simp only [withNode, Array.getElem?_push] at hi
    split at hi
    · next hsize =>
      cases hi
      have : i = d.nodes.size := by simpa [Draft.withName] using hsize
      exact this ▸ made hp
    · refine (hd.withName parent decl.name).modify parent (fun j m hm => ?_) i n hi
      exact children (m.node.children ++ [d.nodes.size]) hm
  link {d d' parent decl} hd h := by
    obtain ⟨-, -, rfl⟩ := addAlias_ok h
    exact (hd.withName parent decl.name).modify parent (fun _ _ h => h)

/-- The finished grammar has the nodes of the draft, each with its edges. -/
theorem node?_of_finish {d : Draft σ ε} {g : Grammar σ ε} (h : d.finish = .ok g) :
    ∃ resolved : Array (List Nat), ∀ i, g.node? i =
      (d.nodes[i]?).map fun n => { n.node with edges := edges resolved n.slots } := by
  obtain ⟨resolved, -, h⟩ := bind_ok_iff.mp h
  cases h
  exact ⟨resolved, fun i => by simp [Grammar.node?]⟩

end Draft

namespace Grammar

variable {σ ε : Type}

/-- The index of every node is its number, and an action has no pattern. -/
structure Numbered (g : Grammar σ ε) : Prop where
  id_eq : ∀ {i : Nat} {n : Node σ ε}, g.node? i = some n → n.id = i
  pattern_of_isAction : ∀ {i : Nat} {n : Node σ ε}, g.node? i = some n → n.isAction = true →
    n.pattern = none

end Grammar

section

variable {σ ε : Type} [PatternDialect]

/-- What holds of the root and of every node as it is made, and looks at neither the nodes below nor
the edges, holds of every node of a grammar that is built. -/
theorem Builder.each_of_build {b : Builder σ ε} {g : Grammar σ ε} (h : b.build = .ok g)
    {P : Nat → Node σ ε → Prop} (root : P 0 Draft.root)
    (made : ∀ {decl : NodeDecl σ ε} {inherited : Inherited σ} {id parent : Nat}
      {name path : String} {pattern : Option Pattern},
      Draft.compilePattern decl name path = .ok pattern →
      P id (Draft.makeNode decl inherited id parent name path pattern))
    (children : ∀ {i : Nat} {n : Node σ ε} (ids : List Nat), P i n → P i { n with children := ids })
    (edges : ∀ {i : Nat} {n : Node σ ε} (ids : List Nat), P i n → P i { n with edges := ids })
    {i : Nat} {n : Node σ ε} (hi : g.node? i = some n) : P i n := by
  have hstart : Draft.Each P (Draft.start : Draft σ ε).nodes := by
    intro i n hi
    obtain ⟨rfl, rfl⟩ := Draft.eq_of_start hi
    exact root
  obtain ⟨d, hd, hf⟩ := (Draft.kept_each made children).exists_draft hstart h
  obtain ⟨resolved, hnodes⟩ := Draft.node?_of_finish hf
  rw [hnodes i] at hi
  obtain ⟨m, hm, rfl⟩ := Option.map_eq_some_iff.mp hi
  exact edges _ (hd i m hm)

theorem Builder.numbered_of_build {b : Builder σ ε} {g : Grammar σ ε} (h : b.build = .ok g) :
    g.Numbered where
  id_eq hi := b.each_of_build h (P := fun i n => n.id = i) rfl (fun _ => rfl) (fun _ hn => hn)
    (fun _ hn => hn) hi
  pattern_of_isAction hi := by
    refine b.each_of_build h (P := fun _ n => n.isAction = true → n.pattern = none) (fun _ => rfl)
      ?_ (fun _ hn => hn) (fun _ hn => hn) hi
    intro decl inherited id parent name path pattern hp ha
    unfold Draft.compilePattern at hp
    split at hp
    · cases hp
      rfl
    · next hbody =>
      have hdeclares : Draft.declaresAction decl = true := ha
      unfold Draft.declaresAction at hdeclares
      split at hdeclares
      · next run hr => exact absurd hr (hbody run)
      · cases hdeclares

/-- The root stays the first node and stays without a pattern. -/
theorem Draft.kept_root : Kept fun d : Draft σ ε =>
    ∃ n, d.nodes[0]? = some n ∧ n.node.pattern = none where
  node {d d' parent decl inherited} hd h := by
    obtain ⟨n, hn, hp⟩ := hd
    obtain ⟨pattern, -, -, -, -, rfl⟩ := addNode_ok h
    have hsize : 0 ≠ d.nodes.size := by
      rintro h0
      rw [Array.getElem?_eq_none (Nat.le_of_eq h0.symm)] at hn
      cases hn
    simp only [withNode, withName, Array.getElem?_push, Array.getElem?_modify, Array.size_modify,
      if_neg hsize, hn]
    split <;> exact ⟨_, rfl, hp⟩
  link {d d' parent decl} hd h := by
    obtain ⟨n, hn, hp⟩ := hd
    obtain ⟨-, -, rfl⟩ := addAlias_ok h
    simp only [withAlias, withName, Array.getElem?_modify, hn]
    split <;> exact ⟨_, rfl, hp⟩

theorem Builder.pattern_of_root {b : Builder σ ε} {g : Grammar σ ε} (h : b.build = .ok g)
    {n : Node σ ε} (hn : g.node? 0 = some n) : n.pattern = none := by
  obtain ⟨d, ⟨m, hm, hp⟩, hf⟩ := Draft.kept_root.exists_draft ⟨_, rfl, rfl⟩ h
  obtain ⟨resolved, hnodes⟩ := Draft.node?_of_finish hf
  rw [hnodes 0, hm] at hn
  cases hn
  exact hp

/-! ### A small grammar -/

/-- What is computed of a grammar that is built, computed of the declaration. -/
theorem Builder.exists_build {b : Builder σ ε} {α : Type} {f : Grammar σ ε → α} {v : α}
    (h : b.build.toOption.map f = some v) : ∃ g, b.build = .ok g ∧ f g = v := by
  cases hb : b.build with
  | error e => simp [hb, Except.toOption] at h
  | ok g =>
    rw [hb] at h
    exact ⟨g, rfl, Option.some.inj h⟩

end

namespace Sample

/-- A variable that may be followed by the nodes declared beside it, and by itself. -/
def repeated (kind : Kind) (name : String) : Element Unit String :=
  .node { body := .var kind, name := some name } [.link { target := "../../*" }]

/-- The command `tags` takes texts and words, at most two of each, and then `end`. -/
def tags : Builder Unit String where
  elements := [
    .node { body := .literal, name := some "tags" } [
      .group { traversals := some 2 } [repeated .text "text", repeated .word "word"],
      .node { body := .literal, name := some "end" } [
        .node { body := .action fun _ => ⟨["end"], .ok ()⟩, name := none } []]]]
  merges := []

end Sample

end CommandGrammar
