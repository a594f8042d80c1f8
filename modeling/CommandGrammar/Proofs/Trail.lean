import CommandGrammar.Proofs.Collected
import CommandGrammar.Proofs.Converting
import CommandGrammar.Proofs.EndOfLine
import CommandGrammar.Proofs.Finishing
import CommandGrammar.Proofs.Offered

/-! Trails: the places of the nodes on a way. Which place may follow which one can be read off the
declaration, and so can what a node asks of its token. A line that reaches an action leaves a trail
from the root to it, and where tokens can be followed along a trail, an action is reached. -/

namespace CommandGrammar

variable {σ ε : Type}

theorem isChain_cons_concat {α : Type} {R : α → α → Prop} {a q : α} {l : List α} :
    (a :: (l ++ [q])).IsChain R ↔ (a :: l).IsChain R ∧ R (l.getLast?.getD a) q := by
  rw [← List.cons_append, List.isChain_append, List.getLast?_cons]
  simp

theorem forall₂_of_getElem? {α β : Type} {R : α → β → Prop} {as : List α} {bs : List β}
    (hlength : as.length = bs.length)
    (h : ∀ (k : Nat) a b, as[k]? = some a → bs[k]? = some b → R a b) : List.Forall₂ R as bs := by
  refine List.forall₂_iff_zip.mpr ⟨hlength, fun hmem => ?_⟩
  obtain ⟨k, hk⟩ := List.mem_iff_getElem?.mp hmem
  obtain ⟨ha, hb⟩ := List.getElem?_zip_eq_some.mp hk
  exact h k _ _ ha hb

/-! ### Places that follow each other -/

namespace Listing

/-- The node at the second place is one of those that may follow the node at the first. -/
def Follows (l : Listing σ ε) (p q : List String) : Prop := q ∈ (l.under p).flatMap l.leads

/-- The node at the second place may follow the node at the first, and no other. -/
def FollowsOnly (l : Listing σ ε) (p q : List String) : Prop := ∀ x, l.Follows x q ↔ x = p

variable {l : Listing σ ε}

/-- Every entry links the place around it to those that may follow through it. -/
theorem follows_iff_mem {p q : List String} :
    l.Follows p q ↔ (p, q) ∈ l.flatMap fun e => (l.leads e).map (e.parent, ·) := by
  simp only [Follows, List.mem_flatMap, mem_under, List.mem_map, Prod.mk.injEq]
  constructor
  · rintro ⟨e, ⟨he, hparent⟩, hq⟩
    exact ⟨e, he, q, hq, hparent, rfl⟩
  · rintro ⟨e, he, _, hq, hparent, rfl⟩
    exact ⟨e, ⟨he, hparent⟩, hq⟩

/-- Backwards from its last place there is only one trail, if every place on it follows only one
other. -/
theorem eq_of_getLast?_eq (hroot : ∀ x, ¬l.Follows x []) {front trail : List (List String)}
    (hfront : ([] :: front).IsChain l.FollowsOnly) (htrail : ([] :: trail).IsChain l.Follows)
    (hlast : trail.getLast?.getD [] = front.getLast?.getD []) : trail = front := by
  induction front using List.reverseRecOn generalizing trail with
  | nil =>
    cases trail using List.reverseRecOn with
    | nil => rfl
    | append_singleton trail x =>
      obtain rfl : x = [] := by simpa using hlast
      exact absurd (isChain_cons_concat.mp htrail).2 (hroot _)
  | append_singleton front p ih =>
    obtain ⟨hbefore, hp⟩ := isChain_cons_concat.mp hfront
    cases trail using List.reverseRecOn with
    | nil =>
      obtain rfl : [] = p := by simpa using hlast
      exact absurd ((hp _).mpr rfl) (hroot _)
    | append_singleton trail x =>
      obtain rfl : x = p := by simpa using hlast
      obtain ⟨htrail, hx⟩ := isChain_cons_concat.mp htrail
      rw [ih hbefore htrail ((hp _).mp hx)]

theorem eq_of_followsOnly (hroot : ∀ x, ¬l.Follows x []) {front trail : List (List String)}
    {q : List String} (honly : ([] :: (front ++ [q])).IsChain l.FollowsOnly)
    (hchain : ([] :: (trail ++ [q])).IsChain l.Follows) : trail = front := by
  obtain ⟨hfront, hq⟩ := isChain_cons_concat.mp honly
  obtain ⟨htrail, hfollows⟩ := isChain_cons_concat.mp hchain
  exact eq_of_getLast?_eq hroot hfront htrail ((hq _).mp hfollows)

theorem mem_places_of_node {e : Entry σ ε} (he : e ∈ l) {decl : NodeDecl σ ε}
    {inherited : Inherited σ} (item : e.item = .node decl inherited) : e.place ∈ l.places :=
  mem_places.mpr (.inr ⟨e, mem_nodes.mpr ⟨he, by rw [Entry.isNode, item]⟩, rfl⟩)

theorem Numbers.mem_iff (h : l.Clean) {ids : List Nat} {places : List (List String)}
    (hids : l.Numbers ids places) {j : Nat} {q : List String} (hj : l.places[j]? = some q) :
    j ∈ ids ↔ q ∈ places := by
  constructor
  · intro hmem
    obtain ⟨place, hplace, hj'⟩ := hids.exists_place hmem
    exact Option.some.inj (hj'.symm.trans hj) ▸ hplace
  · intro hmem
    have hq : some q ∈ ids.map (l.places[·]?) := hids ▸ List.mem_map_of_mem hmem
    obtain ⟨i, hi, hplace⟩ := List.mem_map.mp hq
    exact h.number_inj hplace hj ▸ hi

theorem Numbers.exists_getElem? {ids : List Nat} {places : List (List String)}
    (hids : l.Numbers ids places) {k : Nat} {q : List String} (hk : places[k]? = some q) :
    ∃ id, ids[k]? = some id ∧ l.places[id]? = some q := by
  have hmap : (ids.map (l.places[·]?))[k]? = some (some q) := by
    rw [hids, List.getElem?_map, hk, Option.map_some]
  rwa [List.getElem?_map, Option.map_eq_some_iff] at hmap

theorem Numbers.length_eq {ids : List Nat} {places : List (List String)}
    (hids : l.Numbers ids places) : ids.length = places.length := by
  have hlength := congrArg List.length hids
  rwa [List.length_map, List.length_map] at hlength

/-- The node entered last stands at the last place. At first these are the root and its place. -/
theorem Numbers.getLast? {ids : List Nat} {places : List (List String)}
    (hids : l.Numbers ids places) :
    l.places[ids.getLast?.getD 0]? = some (places.getLast?.getD []) := by
  have hlast := congrArg List.getLast? hids
  rw [List.getLast?_map, List.getLast?_map] at hlast
  cases hi : ids.getLast? with
  | none =>
    rw [hi, Option.map_none, eq_comm, Option.map_eq_none_iff] at hlast
    rw [hlast]
    rfl
  | some i =>
    rw [hi, Option.map_some, eq_comm, Option.map_eq_some_iff] at hlast
    obtain ⟨q, hq, hplace⟩ := hlast
    rw [hq]
    exact hplace.symm

theorem Numbers.concat {ids : List Nat} {places : List (List String)} (hids : l.Numbers ids places)
    {i : Nat} {q : List String} (hi : l.places[i]? = some q) :
    l.Numbers (ids ++ [i]) (places ++ [q]) := by
  rw [Numbers, List.map_append, List.map_append, hids, List.map_singleton, List.map_singleton, hi]

theorem Numbers.exists_concat {ids : List Nat} {places : List (List String)} {q : List String}
    (hids : l.Numbers ids (places ++ [q])) :
    ∃ front id, ids = front ++ [id] ∧ l.Numbers front places ∧ l.places[id]? = some q := by
  rw [Numbers, List.map_append, List.map_eq_append_iff] at hids
  obtain ⟨front, rest, hids, hfront, hrest⟩ := hids
  obtain ⟨id, rfl, hid⟩ := List.map_eq_singleton_iff.mp hrest
  exact ⟨front, id, hids, hfront, hid⟩

/-- A node is made of the entry at its place. -/
theorem Makes.eq_of_entry [PatternDialect] {i : Nat} {n : Node σ ε} (h : l.Makes i n) (hl : l.Clean)
    {e : Entry σ ε} (he : e ∈ l) (hi : l.places[i]? = some e.place) {decl : NodeDecl σ ε}
    {inherited : Inherited σ} (item : e.item = .node decl inherited) :
    ∃ parent pattern children edges,
      Draft.compilePattern decl e.name (Place.path e.place) = .ok pattern ∧
      n = { Draft.makeNode decl inherited i parent e.name (Place.path e.place) pattern with
        children, edges } := by
  cases h with
  | root => exact absurd (Option.some.inj hi).symm e.place_ne_nil
  | @node children edges k parent f _ _ pattern entry item' _ _ compiled =>
    rw [getElem?_places_succ, entry, Option.map_some, Option.some_inj] at hi
    obtain rfl := List.inj_on_of_nodup_map hl.distinct
      (mem_nodes.mp (List.mem_of_getElem? entry)).1 he hi
    cases item.symm.trans item'
    exact ⟨parent, pattern, children, edges, compiled, rfl⟩

/-- A node that is no root is made of an entry. -/
theorem Makes.exists_entry [PatternDialect] {i : Nat} {n : Node σ ε} (h : l.Makes i n)
    (hi : i ≠ 0) :
    ∃ e ∈ l, l.places[i]? = some e.place ∧ ∃ decl inherited, e.item = .node decl inherited := by
  cases h with
  | root => exact absurd rfl hi
  | @node _ _ k parent e decl inherited pattern entry item parent_le parent_place compiled =>
    refine ⟨e, (mem_nodes.mp (List.mem_of_getElem? entry)).1, ?_, decl, inherited, item⟩
    rw [getElem?_places_succ, entry, Option.map_some]

end Listing

/-! ### What is asked of a token -/

/-- What is declared as a variable has the pattern of its kind. -/
theorem Draft.patternSource_of_var {decl : NodeDecl σ ε} {kind : Kind} {source : String}
    (hbody : decl.body = .var kind) (hpattern : decl.pattern = none)
    (hsource : kind.pattern = some source) (name : String) : patternSource decl name = source := by
  rw [patternSource, hpattern, hbody]
  dsimp only
  rw [hsource, Option.getD_some]

namespace NodeDecl

/-- The pattern of a node with this name matches the text, and its kind has a value for it. -/
structure Accepts (decl : NodeDecl σ ε) (name text : String) : Prop where
  fits : ∃ p, Pattern.compile? (Draft.patternSource decl name) = some p ∧ p.accepts text = true
  parses : ∀ kind, decl.body = .var kind → ∃ v, kind.parse text = .ok v

/-- A literal accepts nothing but its name. -/
theorem Accepts.eq_of_isLiteral {decl : NodeDecl σ ε} {name text : String}
    (h : decl.Accepts name text) (hl : Draft.isLiteral decl = true) : text = name := by
  obtain ⟨p, hp, haccepts⟩ := h.fits
  rw [Draft.patternSource_of_isLiteral hl] at hp
  rw [Pattern.accepts_escape hp] at haccepts
  exact of_decide_eq_true haccepts

/-- A literal accepts its name. -/
theorem accepts_name {decl : NodeDecl σ ε} (hbody : decl.body = .literal)
    (hl : Draft.isLiteral decl = true) (name : String) : decl.Accepts name name where
  fits := by
    rw [Draft.patternSource_of_isLiteral hl]
    have hcompile := Pattern.compile?_escape name
    exact ⟨_, hcompile, (Pattern.accepts_escape hcompile name).trans (decide_eq_true rfl)⟩
  parses kind hkind := by
    rw [hbody] at hkind
    cases hkind

/-- A variable with the pattern of its kind accepts what its kind has a value for, if the pattern
refuses nothing of this. -/
theorem accepts_of_fitsValues {decl : NodeDecl σ ε} {kind : Kind} (hbody : decl.body = .var kind)
    (hpattern : decl.pattern = none) {source text : String} (hsource : kind.pattern = some source)
    (hcompile : (Pattern.compile? source).isSome = true) (hfits : kind.FitsValues) {v : Value}
    (hparse : kind.parse text = .ok v) (name : String) : decl.Accepts name text where
  fits := by
    obtain ⟨p, hp⟩ := Option.isSome_iff_exists.mp hcompile
    rw [Draft.patternSource_of_var hbody hpattern hsource]
    exact ⟨p, hp, hfits text v hparse source hsource p hp⟩
  parses other hother := by
    rw [hbody] at hother
    cases hother
    exact ⟨v, hparse⟩

end NodeDecl

namespace Listing

/-- The node at the place takes the text somewhere: it accepts it, and its conditions hold in a
context of the user. -/
def TakesAt (l : Listing σ ε) (user : Option σ) (place : List String) (text : String) : Prop :=
  ∃ e ∈ l, e.place = place ∧ ∃ decl inherited, e.item = .node decl inherited ∧
    decl.Accepts e.name text ∧ ∃ c : Context σ, c.user = user ∧
      ∀ holds ∈ inherited.conditions ++ decl.condition.toList, holds c = true

/-- The node at the place takes the text wherever it may be entered: it is no action, accepts the
text whether offered or not, and its conditions hold in all contexts of the user. -/
def AdmitsAt (l : Listing σ ε) (user : Option σ) (place : List String) (text : String) : Prop :=
  ∃ e ∈ l, e.place = place ∧ ∃ decl inherited, e.item = .node decl inherited ∧
    Draft.declaresAction decl = false ∧ decl.Accepts e.name text ∧
    decl.matchCandidates.getD (decl.candidates.isSome || Draft.kindMatchCandidates decl) = false ∧
    ∀ c : Context σ, c.user = user →
      ∀ holds ∈ inherited.conditions ++ decl.condition.toList, holds c = true

/-- What the node of an entry takes. -/
theorem TakesAt.of_entry {l : Listing σ ε} (h : l.Clean) {user : Option σ} {text : String}
    {e : Entry σ ε} (he : e ∈ l) (htakes : l.TakesAt user e.place text) {decl : NodeDecl σ ε}
    {inherited : Inherited σ} (item : e.item = .node decl inherited) :
    decl.Accepts e.name text ∧ ∃ c : Context σ, c.user = user ∧
      ∀ holds ∈ inherited.conditions ++ decl.condition.toList, holds c = true := by
  obtain ⟨f, hf, hplace, decl', inherited', item', haccepts, hconditions⟩ := htakes
  obtain rfl := List.inj_on_of_nodup_map h.distinct hf he hplace
  cases item.symm.trans item'
  exact ⟨haccepts, hconditions⟩

end Listing

/-- The entry is a word: a literal that matches its name under no condition. -/
def Entry.isWord (e : Entry σ ε) : Bool :=
  match e.item with
  | .node decl inherited =>
    (match decl.body with
      | .literal => true
      | _ => false) &&
    decl.pattern.isNone && decl.candidates.isNone && decl.matchCandidates.isNone &&
    decl.condition.isNone && inherited.conditions.isEmpty
  | .link _ => false

/-- The action that is declared, with its place. -/
def Entry.ending? (e : Entry σ ε) : Option (List String × Action σ ε) :=
  match e.item with
  | .node decl _ =>
    match decl.body with
    | .action run => some (e.place, run)
    | _ => none
  | .link _ => none

namespace Listing

/-- The actions that are declared, each with its place. -/
def endings (l : Listing σ ε) : List (List String × Action σ ε) := l.filterMap (·.ending?)

theorem exists_decl_of_isWord {e : Entry σ ε} (h : e.isWord = true) :
    ∃ decl inherited, e.item = .node decl inherited ∧ decl.body = .literal ∧
      Draft.isLiteral decl = true ∧ decl.candidates = none ∧ decl.matchCandidates = none ∧
      inherited.conditions ++ decl.condition.toList = [] := by
  unfold Entry.isWord at h
  split at h
  · next decl inherited item =>
    simp only [Bool.and_eq_true, Option.isNone_iff_eq_none, List.isEmpty_iff] at h
    obtain ⟨⟨⟨⟨⟨hbody, hpattern⟩, hcandidates⟩, hmatch⟩, hcondition⟩, hconditions⟩ := h
    split at hbody
    · next hliteral =>
      refine ⟨decl, inherited, item, hliteral, ?_, hcandidates, hmatch, ?_⟩
      · rw [Draft.isLiteral, hpattern, hliteral]
        rfl
      · rw [hconditions, hcondition]
        rfl
    · cases hbody
  · cases h

variable {l : Listing σ ε} {user : Option σ} {e : Entry σ ε}

/-- A word takes nothing but itself. -/
theorem TakesAt.eq_of_isWord (h : l.Clean) (he : e ∈ l) (hword : e.isWord = true)
    {text : String} (htakes : l.TakesAt user e.place text) : text = e.name := by
  obtain ⟨decl, inherited, item, -, hliteral, -⟩ := exists_decl_of_isWord hword
  exact (htakes.of_entry h he item).1.eq_of_isLiteral hliteral

theorem admitsAt_of_isWord (he : e ∈ l) (hword : e.isWord = true) :
    l.AdmitsAt user e.place e.name := by
  obtain ⟨decl, inherited, item, hbody, hliteral, hcandidates, hmatch, hconditions⟩ :=
    exists_decl_of_isWord hword
  refine ⟨e, he, rfl, decl, inherited, item, ?_, NodeDecl.accepts_name hbody hliteral e.name, ?_,
    fun _ _ holds hholds => ?_⟩
  · rw [Draft.declaresAction, hbody]
  · rw [hcandidates, hmatch, Draft.kindMatchCandidates, hbody]
    rfl
  · rw [hconditions] at hholds
    cases hholds

/-- A variable without conditions admits what its kind has a value for, whether offered or not, if
the pattern of its kind refuses nothing of this. -/
theorem admitsAt_of_fitsValues (h : l.Clean) (he : e ∈ l) {decl : NodeDecl σ ε}
    {inherited : Inherited σ} (item : e.item = .node decl inherited) {kind : Kind}
    (hbody : decl.body = .var kind) (hpattern : decl.pattern = none) {source : String}
    (hsource : kind.pattern = some source) (hfits : kind.FitsValues)
    (hoffered :
      decl.matchCandidates.getD (decl.candidates.isSome || Draft.kindMatchCandidates decl) = false)
    (hconditions : inherited.conditions ++ decl.condition.toList = []) {text : String} {v : Value}
    (hparse : kind.parse text = .ok v) : l.AdmitsAt user e.place text := by
  have hact : Draft.declaresAction decl = false := by rw [Draft.declaresAction, hbody]
  have hcompile : (Pattern.compile? source).isSome = true := by
    have hhas := h.patterns e he
    rw [Entry.HasPattern, item] at hhas
    obtain ⟨p, hp⟩ := Option.isSome_iff_exists.mp (hhas hact)
    rw [Draft.patternSource_of_var hbody hpattern hsource, Pattern.new?_eq_some_iff] at hp
    exact Option.isSome_of_eq_some hp.1
  refine ⟨e, he, rfl, decl, inherited, item, hact,
    NodeDecl.accepts_of_fitsValues hbody hpattern hsource hcompile hfits hparse e.name, hoffered,
    fun _ _ holds hholds => ?_⟩
  rw [hconditions] at hholds
  cases hholds

end Listing

theorem Node.exists_run {n : Node σ ε} (h : n.isAction = true) : ∃ run, n.body = .action run := by
  unfold isAction at h
  split at h
  · next run hbody => exact ⟨run, hbody⟩
  · cases h

theorem Draft.compilePattern_eq_some [PatternDialect] {decl : NodeDecl σ ε} {name path : String}
    {p : Pattern} (h : compilePattern decl name path = .ok (some p)) :
    Pattern.compile? (patternSource decl name) = some p := by
  unfold compilePattern at h
  split at h
  · cases h
  · split at h
    · next q hq =>
      cases h
      exact (Pattern.new?_eq_some_iff.mp hq).1
    · cases h

theorem Draft.compilePattern_of_compile? [PatternDialect] {decl : NodeDecl σ ε}
    {name path : String} {p : Pattern} {pattern : Option Pattern} (ha : declaresAction decl = false)
    (hp : Pattern.compile? (patternSource decl name) = some p)
    (h : compilePattern decl name path = .ok pattern) : pattern = some p := by
  unfold compilePattern at h
  split at h
  · next run hbody =>
    rw [declaresAction, hbody] at ha
    cases ha
  · split at h
    · next q hq =>
      cases h
      exact (Pattern.new?_eq_some_iff.mp hq).1.symm.trans hp
    · cases h

namespace Grammar

/-- Contexts on the way keep the user. -/
theorem user_replay (g : Grammar σ ε) (line : Line) (user : Option σ) (ids : List Nat) :
    (g.replay line user ids).user = user := by
  induction ids using List.reverseRecOn with
  | nil => rfl
  | append_singleton ids id ih =>
    rw [replay_concat, reenter]
    split
    · exact ih
    · exact ih

namespace Shows

variable {g : Grammar σ ε} {l : Listing σ ε}

/-- For an entry of a node there is a node made of it. -/
theorem exists_made [PatternDialect] (h : g.Shows l) {e : Entry σ ε} (he : e ∈ l)
    {decl : NodeDecl σ ε}
    {inherited : Inherited σ} (item : e.item = .node decl inherited) :
    ∃ i n, g.node? i = some n ∧ l.places[i]? = some e.place ∧
      ∃ parent pattern children edges,
        Draft.compilePattern decl e.name (Place.path e.place) = .ok pattern ∧
        n = { Draft.makeNode decl inherited i parent e.name (Place.path e.place) pattern with
          children, edges } := by
  obtain ⟨i, hi⟩ := List.mem_iff_getElem?.mp (Listing.mem_places_of_node he item)
  obtain ⟨n, hn⟩ := h.exists_node hi
  exact ⟨i, n, hn, hi, (h.made hn).eq_of_entry h.clean he hi item⟩

/-- What follows a node stands at the places that follow its place. -/
theorem mem_following (h : g.Shows l) {i : Nat} {p : List String} (hi : l.places[i]? = some p)
    {n : Node σ ε} : n ∈ g.following i ↔
      ∃ j q, g.node? j = some n ∧ l.places[j]? = some q ∧ l.Follows p q := by
  obtain ⟨m, hm⟩ := h.exists_node hi
  simp only [following, hm, List.mem_filterMap]
  constructor
  · rintro ⟨j, hj, hn⟩
    obtain ⟨q, hq⟩ := h.exists_place hn
    exact ⟨j, q, hn, hq, ((h.edges hm hi).mem_iff h.clean hq).mp hj⟩
  · rintro ⟨j, q, hn, hq, hfollows⟩
    exact ⟨j, ((h.edges hm hi).mem_iff h.clean hq).mpr hfollows, hn⟩

/-- What a node took, the node at its place takes. -/
theorem takesAt (h : g.Shows l) {i : Nat} {n : Node σ ε} (hn : g.node? i = some n) (hi : i ≠ 0)
    {c : Context σ} {text : String} (htakes : n.Takes c text) :
    ∃ place, l.places[i]? = some place ∧ l.TakesAt c.user place text := by
  obtain ⟨e, he, hplace, decl, inherited, item⟩ := (h.made hn).exists_entry hi
  obtain ⟨parent, pattern, children, edges, compiled, rfl⟩ :=
    (h.made hn).eq_of_entry h.clean he hplace item
  obtain ⟨⟨p, rfl, haccepts⟩, -, hparses, hconditions⟩ := htakes
  exact ⟨e.place, hplace, e, he, rfl, decl, inherited, item,
    ⟨⟨p, Draft.compilePattern_eq_some compiled, haccepts⟩, hparses⟩, c, rfl, hconditions⟩

/-- Nodes that are joined one to the next leave a trail. -/
theorem exists_trail (h : g.Shows l) {ids : List Nat} {i : Nat} {p : List String}
    (hi : l.places[i]? = some p)
    (hlinked : (i :: ids).IsChain fun a b => ∃ n, g.node? a = some n ∧ b ∈ n.edges) :
    ∃ trail, l.Numbers ids trail ∧ (p :: trail).IsChain l.Follows := by
  induction ids generalizing i p with
  | nil => exact ⟨[], rfl, .singleton p⟩
  | cons j ids ih =>
    obtain ⟨⟨n, hn, hj⟩, hrest⟩ := List.isChain_cons_cons.mp hlinked
    obtain ⟨q, hq, hplace⟩ := (h.edges hn hi).exists_place hj
    obtain ⟨trail, hnumbers, hchain⟩ := ih hplace hrest
    refine ⟨q :: trail, ?_, List.isChain_cons_cons.mpr ⟨hq, hchain⟩⟩
    rw [Listing.Numbers, List.map_cons, List.map_cons, hplace, hnumbers]

end Shows

/-- The value that a node gives last is found under its name, if the node may be entered only
once. -/
theorem value?_collect_concat {g : Grammar σ ε} {ids : List Nat} {id : Nat} {tokens : List Token}
    {token : Token} (hlength : ids.length = tokens.length) {n : Node σ ε} {kind : Kind} {v : Value}
    (hn : g.node? id = some n) (hbody : n.body = .var kind) (honce : n.traversals = 1)
    (hparse : kind.parse token.text = .ok v) :
    (g.collect .empty (ids ++ [id]) (tokens ++ [token])).value? n.varName = some v := by
  have hvalue : g.valueAt? n.varName id token.text = some v := by
    rw [valueAt?, kindAt?_eq_some.mpr ⟨n, hn, hbody, rfl⟩, Option.bind_some, hparse]
    rfl
  rw [collect, List.zip_append hlength, List.foldl_append, List.zip_cons_cons, List.foldl_cons,
    List.zip_nil_left, List.foldl_nil, value?_collectOne, hvalue, hn]
  simp [honce]

/-! ### From an action back to the root -/

/-- The context is at the end of a line: the nodes on the way to it stand at the places of the trail
and took the tokens, and the action that it reached stands at the last place. -/
structure Reaches (g : Grammar σ ε) (l : Listing σ ε) (line : Line) (c : Context σ)
    (trail : List (List String)) (last : List String) (run : Action σ ε) : Prop where
  numbers : l.Numbers c.history trail
  chain : ([] :: (trail ++ [last])).IsChain l.Follows
  taken : List.Forall₂ (fun place token => l.TakesAt c.user place token.text) trail line.tokens
  vars : c.vars = g.collect .empty c.history line.tokens
  action : ∃ n, g.node? n.id = some n ∧ c.action = some n.id ∧ l.places[n.id]? = some last ∧
    n.body = .action run

/-- The nodes on the way to a context stand along a trail and took the tokens. -/
theorem Sound.exists_trail {g : Grammar σ ε} {l : Listing σ ε} {line : Line} {user : Option σ}
    {c : Context σ} (h : g.Sound line user c) (hg : g.Shows l)
    (hconsumed : c.consumed = line.tokens.length) :
    ∃ trail, l.Numbers c.history trail ∧ ([] :: trail).IsChain l.Follows ∧
      List.Forall₂ (fun place token => l.TakesAt user place token.text) trail line.tokens := by
  obtain ⟨trail, hnumbers, hchain⟩ := hg.exists_trail Listing.root_place h.linked
  have hlength : trail.length = line.tokens.length := by
    rw [← hnumbers.length_eq, ← h.consumed, hconsumed]
  refine ⟨trail, hnumbers, hchain,
    forall₂_of_getElem? hlength fun k place token hplace htoken => ?_⟩
  obtain ⟨id, hid, hidplace⟩ := hnumbers.exists_getElem? hplace
  obtain ⟨m, token', hm, htoken', htakes⟩ := h.taken k id hid
  obtain rfl := Option.some.inj (htoken.symm.trans htoken')
  obtain ⟨other, hother, htakesAt⟩ :=
    hg.takesAt hm (h.inner id (List.mem_of_getElem? hid)).1 htakes
  obtain rfl := Option.some.inj (hidplace.symm.trans hother)
  rwa [user_replay] at htakesAt

/-- On a line that is complete the action was reached along a trail. -/
theorem exists_reaches {b : Builder σ ε} {g : Grammar σ ε} (hb : b.build = .ok g) {input : String}
    {user : Option σ} (h : (g.check input user).isComplete = true) :
    ∃ trail last run, g.Reaches b.listing (.read input) (g.check input user) trail last run ∧
      (g.check input user).user = user := by
  have hg := b.numbered_of_build hb
  have hshows := b.shows_of_build hb
  rcases check_cases hg input user with ⟨way, place, d, n, hw, hc⟩ | ⟨-, way, hw⟩
  · rw [hc]
    have hsound : g.Sound (.read input) user d := sound_of_follow? hb hw.follows
    have hrec := (records_of_follow? hg hw.follows).1
    have hconsumed : d.consumed = (Line.read input).tokens.length := by
      rw [hrec.consumed, hw.length_eq]
      rfl
    obtain ⟨trail, hnumbers, hchain, htaken⟩ := hsound.exists_trail hshows hconsumed
    -- the action follows the last of the nodes on the way
    have hmem : n ∈ g.following d.position := by
      rw [← map_snd_placed]
      exact List.mem_map_of_mem (mem_placed.mpr hw.edge)
    obtain ⟨j, last, hj, hlast, hfollows⟩ :=
      (hshows.mem_following (hsound.position ▸ hnumbers.getLast?)).mp hmem
    obtain rfl := hg.id_eq hj
    obtain ⟨run, hbody⟩ := Node.exists_run hw.isAction
    have huser : d.user = user := hrec.user
    exact ⟨trail, last, run, ⟨hnumbers, isChain_cons_concat.mpr ⟨hchain, hfollows⟩,
      huser.symm ▸ htaken, hrec.vars, n, hj, rfl, hlast, hbody⟩, huser⟩
  · have ha := (records_of_follow? hg hw.follows).2.2
    rw [Context.isComplete, ha] at h
    cases h

namespace Reaches

variable {g : Grammar σ ε} {l : Listing σ ε} {line : Line} {c : Context σ}
  {trail : List (List String)} {last : List String} {run : Action σ ε}

/-- The action is declared at the last place. -/
theorem mem_endings (h : g.Reaches l line c trail last run) (hg : g.Shows l) :
    (last, run) ∈ l.endings := by
  obtain ⟨n, hn, -, hplace, hbody⟩ := h.action
  have hne : n.id ≠ 0 := by
    intro h0
    rw [h0] at hn
    rw [(hg.made hn).root_eq.1] at hbody
    cases hbody
  obtain ⟨e, he, hplace', decl, inherited, item⟩ := (hg.made hn).exists_entry hne
  obtain ⟨parent, pattern, children, edges, -, hmade⟩ :=
    (hg.made hn).eq_of_entry hg.clean he hplace' item
  rw [hmade] at hbody
  have hdecl : decl.body = .action run := hbody
  refine List.mem_filterMap.mpr ⟨e, he, ?_⟩
  rw [Entry.ending?, item]
  dsimp only
  rw [hdecl, Option.some.inj (hplace'.symm.trans hplace)]

/-- The action that is reached is the one with the path of the last place. -/
theorem path_eq (h : g.Reaches l line c trail last run) (hg : g.Shows l) :
    (c.action.bind g.node?).map (·.path) = some (Place.path last) := by
  obtain ⟨n, hn, haction, hplace, -⟩ := h.action
  rw [haction, Option.bind_some, hn, Option.map_some, ((hg.made hn).name_path hplace).2]

/-- Running the line runs the action. -/
theorem parse_eq {input : String} {user : Option σ}
    (h : g.Reaches l line (g.check input user) trail last run) :
    (g.parse input user).2.effects = (run (g.check input user)).effects := by
  obtain ⟨n, hn, haction, -, hbody⟩ := h.action
  rw [parse_of_action haction hn hbody]

/-- The last value is found under the name of the variable that gave it, if the variable may be
entered only once. -/
theorem value?_last (h : g.Reaches l line c trail last run) (hg : g.Shows l) {e : Entry σ ε}
    (he : e ∈ l) {decl : NodeDecl σ ε} {inherited : Inherited σ}
    (item : e.item = .node decl inherited) {kind : Kind} (hbody : decl.body = .var kind)
    (hvar : decl.varName = none)
    (honce : (decl.traversals <|> inherited.traversals <|> Draft.kindTraversals decl).getD 1 = 1)
    (htrail : trail.getLast? = some e.place) {token : Token}
    (htoken : line.tokens.getLast? = some token) {v : Value}
    (hparse : kind.parse token.text = .ok v) : c.vars.value? e.name = some v := by
  obtain ⟨front, rfl⟩ := List.getLast?_eq_some_iff.mp htrail
  obtain ⟨tokens, htokens⟩ := List.getLast?_eq_some_iff.mp htoken
  obtain ⟨ids, id, hids, hfront, hplace⟩ := h.numbers.exists_concat
  obtain ⟨n, hn⟩ := hg.exists_node hplace
  obtain ⟨parent, pattern, children, edges, -, hmade⟩ :=
    (hg.made hn).eq_of_entry hg.clean he hplace item
  have hlength : ids.length = tokens.length := by
    have hsize := h.taken.length_eq
    rw [htokens, List.length_append, List.length_append] at hsize
    rw [hfront.length_eq]
    exact Nat.succ.inj hsize
  have hname : n.varName = e.name := by
    rw [hmade, Draft.makeNode, hvar, Option.getD_none]
  rw [h.vars, hids, htokens, ← hname]
  refine value?_collect_concat hlength hn ?_ ?_ hparse
  · rw [hmade]
    exact hbody
  · rw [hmade]
    exact honce

end Reaches

/-! ### From the root to an action -/

/-- The nodes on the way to the context stand at these places. -/
structure Behind (g : Grammar σ ε) (l : Listing σ ε) (line : Line) (user : Option σ)
    (trail : List (List String)) (c : Context σ) : Prop where
  onLine : g.OnLine line c
  numbers : l.Numbers c.history trail
  user : c.user = user

variable {g : Grammar σ ε} {l : Listing σ ε} {line : Line} {user : Option σ}
  {trail : List (List String)} {c : Context σ}

theorem Behind.position (h : g.Behind l line user trail c) :
    l.places[c.position]? = some (trail.getLast?.getD []) :=
  h.onLine.consistent.position ▸ h.numbers.getLast?

/-- A node whose place is not on the trail was not entered. -/
theorem Behind.traversed_eq_zero (h : g.Behind l line user trail c) (hg : g.Shows l) {i : Nat}
    {place : List String} (hi : l.places[i]? = some place) (hnew : place ∉ trail) :
    c.traversed i = 0 := by
  rw [h.onLine.consistent.traversed]
  exact List.count_eq_zero.mpr (mt (h.numbers.mem_iff hg.clean hi).mp hnew)

/-- The place of a node that is entered is the next on the trail. -/
theorem Behind.enter? (h : g.Behind l line user trail c) {n : Node σ ε} {place : List String}
    (hplace : l.places[n.id]? = some place) {d : Context σ} {text : String}
    (hd : n.enter? c text = some d) : g.Behind l line user (trail ++ [place]) d := by
  have honLine := (h.onLine.enter? hd).1
  obtain ⟨-, -, hstep⟩ := Node.enter?_eq_some.mp hd
  obtain ⟨-, -, value, -, rfl⟩ := Node.step?_eq_some.mp hstep
  exact ⟨honLine, h.numbers.concat hplace, h.user⟩

/-- A node that was not entered yet can be entered with a text that it admits. -/
theorem Behind.exists_enter (h : g.Behind l line user trail c) (hg : g.Shows l)
    {place : List String} {text : String} (hfollows : l.Follows (trail.getLast?.getD []) place)
    (hnew : place ∉ trail) (hadmits : l.AdmitsAt user place text) :
    ∃ n ∈ g.following c.position, ∃ d, n.enter? c text = some d ∧
      g.Behind l line user (trail ++ [place]) d := by
  obtain ⟨e, he, rfl, decl, inherited, item, hact, haccepts, hoffered, hconditions⟩ := hadmits
  obtain ⟨j, n, hn, hj, parent, pattern, children, edges, compiled, hmade⟩ :=
    hg.exists_made he item
  obtain ⟨p, hp, hfits⟩ := haccepts.fits
  obtain rfl := Draft.compilePattern_of_compile? hact hp compiled
  have hid : n.id = j := by rw [hmade]; rfl
  have htraversed : c.traversed n.id = 0 := hid ▸ h.traversed_eq_zero hg hj hnew
  have hopen : n.isOpen c = true := by
    refine Bool.and_eq_true_iff.mpr ⟨?_, ?_⟩
    · simp only [htraversed, Bool.or_eq_true, beq_iff_eq, decide_eq_true_eq]
      omega
    · rw [hmade]
      exact List.all_eq_true.mpr (hconditions c h.user)
  have hsome : (n.enter? c text).isSome = true := by
    refine Node.isSome_enter?_iff.mpr ⟨?_, hopen, ?_, ?_, Node.isSome_value?_iff.mpr ?_⟩
    all_goals rw [hmade]
    · exact hact
    · exact hfits
    · simp [Node.isOffered, Draft.makeNode, hoffered]
    · exact haccepts.parses
  obtain ⟨d, hd⟩ := Option.isSome_iff_exists.mp hsome
  exact ⟨n, (hg.mem_following h.position).mpr ⟨j, e.place, hn, hj, hfollows⟩, d, hd,
    h.enter? (hid ▸ hj) hd⟩

/-- Texts that are admitted along a trail lead along it. -/
theorem Behind.exists_arrival (h : g.Behind l line user trail c) (hg : g.Shows l)
    {places : List (List String)} {tokens : List Token}
    (hadmits : List.Forall₂ (fun place token => l.AdmitsAt user place token.text) places tokens)
    (hchain : (trail.getLast?.getD [] :: places).IsChain l.Follows)
    (hnodup : (trail ++ places).Nodup) :
    ∃ d ∈ g.arrivalsWith tokens c, g.Behind l line user (trail ++ places) d := by
  induction hadmits generalizing trail c with
  | nil => exact ⟨c, List.mem_singleton_self c, (List.append_nil trail).symm ▸ h⟩
  | @cons place token places tokens hadmits _ ih =>
    obtain ⟨hfollows, hchain⟩ := List.isChain_cons_cons.mp hchain
    rw [List.append_cons] at hnodup ⊢
    have hnew : place ∉ trail := fun hmem =>
      (List.nodup_append.mp (List.nodup_append.mp hnodup).1).2.2 place hmem place
        (List.mem_singleton_self place) rfl
    obtain ⟨n, hn, d, hd, hbehind⟩ := h.exists_enter hg hfollows hnew hadmits
    obtain ⟨e, he, harrives⟩ := ih hbehind (by simpa using hchain) hnodup
    refine ⟨e, ?_, harrives⟩
    rw [arrivalsWith_cons]
    exact List.mem_flatMap.mpr ⟨d, List.mem_filterMap.mpr ⟨n, hn, hd⟩, he⟩

/-- A line whose tokens are admitted along a trail to an action without conditions reaches an
action. -/
theorem isComplete_of_admits {b : Builder σ ε} (hb : b.build = .ok g) {input : String}
    (hadmits : List.Forall₂ (fun place token => b.listing.AdmitsAt user place token.text) trail
      (Line.read input).tokens)
    {e : Entry σ ε} (hchain : ([] :: (trail ++ [e.place])).IsChain b.listing.Follows)
    (hnodup : trail.Nodup) (he : e ∈ b.listing) {decl : NodeDecl σ ε} {inherited : Inherited σ}
    (item : e.item = .node decl inherited) (hact : Draft.declaresAction decl = true)
    (hconditions : inherited.conditions ++ decl.condition.toList = []) :
    (g.check input user).isComplete = true := by
  have hg := b.shows_of_build hb
  obtain ⟨hchain, hfollows⟩ := isChain_cons_concat.mp hchain
  have hstart : g.Behind b.listing (.read input) user [] (g.start (.read input) user) :=
    ⟨g.onLine_start _ user, rfl, rfl⟩
  obtain ⟨d, hd, hbehind⟩ := hstart.exists_arrival hg hadmits hchain hnodup
  obtain ⟨j, n, hn, hj, parent, pattern, children, edges, -, hmade⟩ := hg.exists_made he item
  have haction : n.isAction = true := by rw [hmade]; exact hact
  have hopen : n.isOpen d = true := by
    rw [Node.isOpen, haction, Bool.true_or, Bool.true_or, Bool.true_and, hmade]
    change (inherited.conditions ++ decl.condition.toList).all (· d) = true
    rw [hconditions, List.all_nil]
  rw [isComplete_check_iff (b.numbered_of_build hb), answerWith_ne_none_iff]
  refine ⟨d, ?_, finish?_ne_none_iff.mpr ⟨n, ?_, haction, hopen⟩⟩
  · rw [everyPosition_eq]
    exact hd
  · exact (hg.mem_following hbehind.position).mpr ⟨j, e.place, hn, hj, hfollows⟩

end Grammar

end CommandGrammar
