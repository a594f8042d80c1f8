import CommandGrammar.Proofs.Trail

/-! The value of a token. A variable that is given no pattern of its own takes a token if the
pattern of its kind matches it and the kind has a value for it, and then this value is collected. -/

namespace CommandGrammar

variable {σ ε : Type}

namespace Kind

/-- The value of a token for a variable of the kind with this name. -/
def convert? (k : Kind) (name text : String) : Option Value :=
  if (Pattern.compile? (k.pattern.getD (Pattern.escape name))).any (·.accepts text) then
    (k.parse text).toOption
  else none

/-- A token has a value if the expression of the pattern matches it and the kind has one for it. -/
theorem convert?_eq_some_iff {k : Kind} {source : String} {e : Expr} (hb : e.Bounded)
    (hsource : k.pattern = some source)
    (hcompile : Pattern.compile? source = some ⟨source, e.whole⟩) {name text : String}
    {v : Value} :
    k.convert? name text = some v ↔ e.Matches none text.toList none ∧ k.parse text = .ok v := by
  rw [convert?, hsource, Option.getD_some, hcompile, Option.any_some, Pattern.accepts,
    ← Expr.occursIn_whole hb, ← toOption_eq_some_iff]
  split
  · next h => simp [h]
  · next h => simp [h]

/-- Where the pattern refuses nothing that the kind has a value for, the kind decides alone. -/
theorem FitsValues.convert?_eq_some_iff {k : Kind} (h : k.FitsValues) {source : String}
    (hsource : k.pattern = some source) (hcompile : (Pattern.compile? source).isSome = true)
    {name text : String} {v : Value} :
    k.convert? name text = some v ↔ k.parse text = .ok v := by
  obtain ⟨p, hp⟩ := Option.isSome_iff_exists.mp hcompile
  rw [convert?, hsource, Option.getD_some, hp, Option.any_some, ← toOption_eq_some_iff]
  split
  · rfl
  · next hnot =>
    refine iff_of_false nofun fun hv => hnot ?_
    exact h text v (toOption_eq_some_iff.mp hv) source hsource p hp

end Kind

/-- A declared variable with the pattern of its kind takes the tokens that have a value, unless it
takes only what is offered and they are not, and collects this value. -/
theorem Builder.exists_converts {b : Builder σ ε} {g : Grammar σ ε} (hb : b.build = .ok g)
    {e : Entry σ ε} (he : e ∈ b.listing) {decl : NodeDecl σ ε} {inherited : Inherited σ}
    (item : e.item = .node decl inherited) {kind : Kind} (hbody : decl.body = .var kind)
    (hpattern : decl.pattern = none) :
    ∃ i n, g.node? i = some n ∧ b.listing.places[i]? = some e.place ∧
      ∀ (c : Context σ) (text : String), n.step? c text =
        if n.isOffered c text then
          (kind.convert? e.name text).map fun v => c.advance n.toSite (some v)
        else none := by
  obtain ⟨i, n, hn, hi, parent, pattern, children, edges, compiled, hmade⟩ :=
    (b.shows_of_build hb).exists_made he item
  refine ⟨i, n, hn, hi, fun c text => ?_⟩
  have hsource : Draft.patternSource decl e.name = kind.pattern.getD (Pattern.escape e.name) := by
    rw [Draft.patternSource, hpattern, hbody]
  have hfits : n.fits text =
      (Pattern.compile? (kind.pattern.getD (Pattern.escape e.name))).any (·.accepts text) := by
    have hnode : n.pattern = pattern := by rw [hmade]; rfl
    have hact : Draft.declaresAction decl = false := by rw [Draft.declaresAction, hbody]
    rw [Draft.compilePattern_eq, hact, if_neg Bool.false_ne_true, hsource] at compiled
    rw [Node.fits, hnode]
    split at compiled
    · next p hp =>
      cases compiled
      rw [(Pattern.new?_eq_some_iff.mp hp).1]
    · cases compiled
  have hvalue : n.value? text = (kind.parse text).toOption.map some := by
    have hkind : n.body = .var kind := by rw [hmade]; exact hbody
    rw [Node.value?, hkind]
  rw [Node.step?_eq, hfits, hvalue, Kind.convert?, Bool.and_comm]
  cases n.isOffered c text with
  | false => rfl
  | true =>
    rw [Bool.true_and, if_pos rfl]
    split
    · rw [Option.map_map]; rfl
    · rfl

end CommandGrammar
