import CommandGrammar.Proofs.Declared
import CommandGrammar.Proofs.Limits
import CommandGrammar.Proofs.Trail

/-! Nodes without a pattern. A node that is given none, by itself or by its kind, is matched by its
name: whatever characters a name has, its escaped form can be read, and if the name is not too long
for a pattern, such a node is never what keeps a grammar from being built. The node takes this name
and nothing else. -/

namespace CommandGrammar

variable {σ ε : Type}

/-! ### What holds of every entry -/

namespace Listing

/-- The property holds of an entry whenever one is added. -/
def HoldsAdded (P : Entry σ ε → Prop) : Prop :=
  ∀ (l : Listing σ ε) place item, P ⟨place, l.chosenName place item.name?, item⟩

variable {P : Entry σ ε → Prop}

theorem forall_mem_add (hadd : HoldsAdded P) {l : Listing σ ε} (h : ∀ e ∈ l, P e)
    (place : List String) (item : Item σ ε) : ∀ e ∈ l.add place item, P e := by
  unfold add
  rw [List.forall_mem_append, List.forall_mem_singleton]
  exact ⟨h, hadd l place item⟩

mutual

theorem forall_mem_addElement (hadd : HoldsAdded P) {l : Listing σ ε} (h : ∀ e ∈ l, P e)
    (place : List String) (inherited : Inherited σ) (e : Element σ ε) :
    ∀ f ∈ addElement place inherited l e, P f := by
  cases e with
  | node decl elements =>
    rw [addElement]
    exact forall_mem_addElements hadd (forall_mem_add hadd h _ _) _ _ elements
  | link decl => rw [addElement]; exact forall_mem_add hadd h _ _
  | group decl elements => rw [addElement]; exact forall_mem_addElements hadd h _ _ elements

theorem forall_mem_addElements (hadd : HoldsAdded P) {l : Listing σ ε} (h : ∀ e ∈ l, P e)
    (place : List String) (inherited : Inherited σ) (es : List (Element σ ε)) :
    ∀ f ∈ addElements place inherited l es, P f := by
  cases es with
  | nil => exact h
  | cons e es =>
    rw [addElements]
    exact forall_mem_addElements hadd (forall_mem_addElement hadd h _ _ e) _ _ es

end

mutual

theorem forall_mem_addMerge (hadd : HoldsAdded P) {l : Listing σ ε} (h : ∀ e ∈ l, P e)
    (base : List String) (m : Merge σ ε) : ∀ f ∈ addMerge base l m, P f := by
  cases m with
  | into target elements merges =>
    rw [addMerge]
    split
    · exact h
    · exact forall_mem_addMerges hadd (forall_mem_addElements hadd h _ _ elements) _ merges

theorem forall_mem_addMerges (hadd : HoldsAdded P) {l : Listing σ ε} (h : ∀ e ∈ l, P e)
    (base : List String) (ms : List (Merge σ ε)) : ∀ f ∈ addMerges base l ms, P f := by
  cases ms with
  | nil => exact h
  | cons m ms =>
    rw [addMerges]
    exact forall_mem_addMerges hadd (forall_mem_addMerge hadd h _ m) _ ms

end

end Listing

/-- What holds of an entry whenever one is added holds of all that a declaration lists. -/
theorem Builder.forall_mem_listing {P : Entry σ ε → Prop} (hadd : Listing.HoldsAdded P)
    (b : Builder σ ε) : ∀ e ∈ b.listing, P e :=
  Listing.forall_mem_addMerges hadd
    (Listing.forall_mem_addElements hadd (List.forall_mem_nil _) _ _ _) _ _

/-- An entry has the name that is given, if one is. -/
theorem Builder.name_of_mem_listing (b : Builder σ ε) :
    ∀ e ∈ b.listing, ∀ name ∈ e.item.name?, e.name = name := by
  refine b.forall_mem_listing ?_
  intro l place item name hname
  rw [Listing.chosenName, Option.mem_def.mp hname]
  rfl

/-! ### Literals -/

theorem Draft.declaresAction_of_isLiteral {decl : NodeDecl σ ε} (h : isLiteral decl = true) :
    declaresAction decl = false := by
  unfold isLiteral at h
  unfold declaresAction
  split
  · next run hbody => simp [hbody] at h
  · rfl

/-- The pattern of a literal can be read, whatever its name is, but it may be too large. -/
theorem Entry.hasPattern_iff_of_isLiteral [PatternDialect] {e : Entry σ ε} {decl : NodeDecl σ ε}
    {inherited : Inherited σ} (item : e.item = .node decl inherited)
    (h : Draft.isLiteral decl = true) :
    e.HasPattern ↔ PatternDialect.admits (Pattern.anchor (Pattern.escape e.name)) = true := by
  rw [HasPattern, item]
  dsimp only
  rw [Draft.patternSource_of_isLiteral h, Pattern.new?, Pattern.compile?_escape,
    imp_iff_right (Draft.declaresAction_of_isLiteral h), Option.isSome_filter, Option.any_some]

namespace Builder

/-- The grammar with one node. -/
def single (decl : NodeDecl σ ε) : Builder σ ε := ⟨[.node decl []], []⟩

section

variable {decl : NodeDecl σ ε} {name : String}

theorem listing_single (hname : decl.name = some name) :
    (single decl).listing = [⟨[], name, .node decl ⟨none, none, []⟩⟩] := by
  change Listing.add [] [] (.node decl ⟨none, none, []⟩) = _
  rw [Listing.add, Listing.chosenName, Item.name?, hname]
  rfl

theorem nodup_names_single (hname : decl.name = some name) (place : List String) :
    (((single decl).listing.under place).map (·.name)).Nodup := by
  rw [listing_single hname]
  exact (List.nodup_singleton name).sublist (List.filter_sublist.map _)

theorem nodup_labels_single (hname : decl.name = some name) :
    ((single decl).listing.labels.map (·.1)).Nodup := by
  rw [listing_single hname]
  change ((decl.label.map (·, [name])).toList.map (·.1)).Nodup
  cases decl.label <;> simp

variable [PatternDialect]

theorem exists_build_of_wellDeclared {b : Builder σ ε} (h : b.WellDeclared) :
    ∃ g, b.build = .ok g := by
  cases hb : b.build with
  | ok g => exact ⟨g, rfl⟩
  | error error => exact absurd h (not_wellDeclared_of_fault (fault_of_build hb))

/-- Nothing is wrong with a grammar of one literal if its name is a name and not too long. -/
theorem wellDeclared_single_iff (hname : decl.name = some name)
    (h : Draft.isLiteral decl = true) :
    (single decl).WellDeclared ↔
      IsName name ∧ PatternDialect.admits (Pattern.anchor (Pattern.escape name)) = true := by
  have hlisting := listing_single hname
  constructor
  · intro hwell
    have hmem : ⟨[], name, .node decl ⟨none, none, []⟩⟩ ∈ (single decl).listing :=
      hlisting ▸ List.mem_cons_self
    have hpattern := hwell.patterns _ hmem
    rw [Entry.hasPattern_iff_of_isLiteral rfl h] at hpattern
    exact ⟨hwell.names _ hmem name hname, hpattern⟩
  · rintro ⟨hvalid, hadmits⟩
    constructor
    case names =>
      rw [hlisting, List.forall_mem_singleton]
      intro other hother
      exact Option.some.inj (hname.symm.trans hother) ▸ hvalid
    case distinct => exact nodup_names_single hname
    case labels => exact nodup_labels_single hname
    case patterns =>
      rw [hlisting, List.forall_mem_singleton]
      rwa [Entry.hasPattern_iff_of_isLiteral rfl h]
    case merges => exact List.forall_mem_nil _
    case aliases =>
      rw [hlisting, List.forall_mem_singleton]
      nofun

end

/-- A literal takes its name. With a name of its own it makes a grammar if that is a name at all and
not too long for a pattern. Wherever it is declared, its length is all that can be wrong with its
pattern, and its node takes its name and nothing else. -/
theorem literal_takes_name [PatternDialect] {decl : NodeDecl σ ε}
    (h : Draft.isLiteral decl = true) :
    (∀ name, decl.name = some name → ((∃ g, (single decl).build = .ok g) ↔
      IsName name ∧ PatternDialect.admits (Pattern.anchor (Pattern.escape name)) = true)) ∧
    ∀ (b : Builder σ ε), ∀ e ∈ b.listing, ∀ inherited, e.item = .node decl inherited →
      (∀ name, decl.name = some name → e.name = name) ∧
      (e.HasPattern ↔
        PatternDialect.admits (Pattern.anchor (Pattern.escape e.name)) = true) ∧
      ∀ g, b.build = .ok g → ∃ i n, g.node? i = some n ∧ b.listing.places[i]? = some e.place ∧
        n.name = e.name ∧ ∀ text, n.fits text = true ↔ text = e.name := by
  constructor
  · intro name hname
    rw [← wellDeclared_single_iff hname h]
    exact ⟨fun ⟨g, hg⟩ => wellDeclared_of_build hg, exists_build_of_wellDeclared⟩
  · intro b e he inherited item
    refine ⟨fun name hname => ?_, Entry.hasPattern_iff_of_isLiteral item h, fun g hg => ?_⟩
    · refine b.name_of_mem_listing e he name ?_
      rw [item]
      exact hname
    · obtain ⟨i, n, hn, hi, parent, pattern, children, edges, -, hmade⟩ :=
        (b.shows_of_build hg).exists_made he item
      have hname : n.name = e.name := by rw [hmade]; rfl
      have hliteral : n.literal = true := by rw [hmade]; exact h
      refine ⟨i, n, hn, hi, hname, fun text => ?_⟩
      rw [(namedByPattern_of_build hg hn).fits_eq hliteral, hname, decide_eq_true_iff]

end Builder

namespace Sample

/-- A literal whose name is full of signs that mean something in a pattern. -/
def odd : NodeDecl Unit String := { body := .literal, name := some "(?x) a|b #\\é[*$" }

theorem literal_takes_name_odd :
    ∃ g n, (Builder.single odd).build = .ok g ∧ g.node? 1 = some n ∧
      ∀ text, n.fits text = true ↔ text = "(?x) a|b #\\é[*$" := by
  have hliteral : Draft.isLiteral odd = true := rfl
  obtain ⟨hbuild, htakes⟩ := Builder.literal_takes_name hliteral
  have hvalid : IsName "(?x) a|b #\\é[*$" := isName_iff.mp (by decide +kernel)
  have hadmits := (PatternDialect.admits_escape_iff "(?x) a|b #\\é[*$").mpr (by decide)
  obtain ⟨g, hg⟩ := (hbuild _ rfl).mpr ⟨hvalid, hadmits⟩
  have hname : odd.name = some "(?x) a|b #\\é[*$" := rfl
  have hlisting := Builder.listing_single hname
  obtain ⟨-, -, hnode⟩ := htakes (.single odd) _ (hlisting ▸ List.mem_cons_self) _ rfl
  obtain ⟨i, n, hn, hi, -, hfits⟩ := hnode g hg
  have h1 : (Builder.single odd).listing.places[1]? = some ["(?x) a|b #\\é[*$"] := by
    rw [hlisting]
    rfl
  obtain rfl := (Builder.shows_of_build hg).clean.number_inj hi h1
  exact ⟨g, n, hg, hn, hfits⟩

/-- A name of one letter, written so many times. -/
def repeatedLetter (count : Nat) : String := String.ofList (List.replicate count 'a')

theorem utf8ByteSize_repeatedLetter (count : Nat) :
    (repeatedLetter count).utf8ByteSize = count := by
  rw [repeatedLetter]
  induction count with
  | zero => rfl
  | succ count ih =>
    rw [List.replicate_succ, String.ofList_cons, String.utf8ByteSize_append, ih,
      String.utf8ByteSize_singleton, show Char.utf8Size 'a' = 1 from rfl, Nat.add_comm]

theorem isName_repeatedLetter {count : Nat} (h : 0 < count) : IsName (repeatedLetter count) := by
  have hletter : ∀ c ∈ (repeatedLetter count).toList, c = 'a' := by
    rw [repeatedLetter, String.toList_ofList]
    exact fun c hc => List.eq_of_mem_replicate hc
  constructor
  case ne_empty =>
    intro hempty
    have hsize := utf8ByteSize_repeatedLetter count
    rw [hempty] at hsize
    exact h.ne hsize
  case ne_point =>
    intro hpoint
    rw [hpoint] at hletter
    exact absurd (hletter '.' (by decide)) (by decide)
  case ne_points =>
    intro hpoints
    rw [hpoints] at hletter
    exact absurd (hletter '.' (by decide)) (by decide)
  case no_slash => exact fun hslash => absurd (hletter '/' hslash) (by decide)

/-- A literal whose name is the letter written half a million times. -/
def long : NodeDecl Unit String := { body := .literal, name := some (repeatedLetter 500000) }

/-- A name may be too long for a pattern, and then the literal makes no grammar. -/
theorem long_literal_refused :
    IsName (repeatedLetter 500000) ∧ Draft.isLiteral long = true ∧
      ∀ g, (Builder.single long).build ≠ .ok g := by
  refine ⟨isName_repeatedLetter (by decide), rfl, fun g hg => ?_⟩
  have hwell := Builder.wellDeclared_of_build hg
  rw [Builder.wellDeclared_single_iff rfl rfl, PatternDialect.admits_escape_iff,
    utf8ByteSize_repeatedLetter] at hwell
  exact absurd hwell.2 (by decide)

end Sample

end CommandGrammar
