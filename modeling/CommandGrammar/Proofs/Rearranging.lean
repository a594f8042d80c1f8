import CommandGrammar.Proofs.Declared
import CommandGrammar.Proofs.Entries
import Mathlib.Data.List.Perm.Basic

/-! Entries in another order. What is wrong with a list of entries does not depend on their order,
and neither does where an alias leads. So two declarations that list the same entries are built
alike, and the two grammars have the same nodes, which may have other numbers and stand in another
order. -/

namespace CommandGrammar

variable {σ ε : Type}

/-! ### Looking up -/

theorem lookup_eq_some_iff_mem {α β : Type} [BEq α] [LawfulBEq α] {l : List (α × β)}
    (h : (l.map (·.1)).Nodup) {key : α} {v : β} : l.lookup key = some v ↔ (key, v) ∈ l := by
  induction l with
  | nil => exact ⟨nofun, nofun⟩
  | cons a l ih =>
    rw [List.map_cons, List.nodup_cons] at h
    rw [List.lookup_cons, List.mem_cons]
    by_cases hk : key = a.1
    · subst hk
      have hnot : (a.1, v) ∉ l := fun hmem =>
        h.1 (List.mem_map.mpr ⟨_, hmem, rfl⟩)
      rw [beq_self_eq_true]
      simp only [hnot, or_false, Option.some_inj, Prod.ext_iff, true_and, eq_comm]
    · have hne : (key == a.1) = false := beq_eq_false_iff_ne.mpr hk
      rw [hne, Prod.ext_iff]
      simp only [hk, false_and, false_or]
      exact ih h.2

theorem lookup_eq_of_perm {α β : Type} [BEq α] [LawfulBEq α] {l m : List (α × β)} (h : l.Perm m)
    (hl : (l.map (·.1)).Nodup) (key : α) : l.lookup key = m.lookup key := by
  refine Option.ext fun v => ?_
  rw [lookup_eq_some_iff_mem hl, lookup_eq_some_iff_mem ((h.map _).nodup_iff.mp hl), h.mem_iff]

/-- Lists are equal if they are so under a map that tells their members apart. -/
theorem eq_of_map_eq {α β : Type} {f : α → β} {as bs : List α} (h : as.map f = bs.map f)
    (hinj : ∀ a ∈ as, ∀ b ∈ bs, f a = f b → a = b) : as = bs := by
  induction as generalizing bs with
  | nil => exact (List.map_eq_nil_iff.mp h.symm).symm
  | cons a as ih =>
    cases bs with
    | nil => cases h
    | cons b bs =>
      obtain ⟨hhead, htail⟩ := List.cons.inj h
      rw [hinj a List.mem_cons_self b List.mem_cons_self hhead, ih htail fun a ha b hb =>
        hinj a (List.mem_cons_of_mem _ ha) b (List.mem_cons_of_mem _ hb)]

namespace Listing

/-- Places have one list of numbers. -/
theorem Clean.numbers_inj {l : Listing σ ε} (h : l.Clean) {ids ids' : List Nat}
    {places : List (List String)} (hids : l.Numbers ids places) (hids' : l.Numbers ids' places) :
    ids = ids' := by
  refine eq_of_map_eq (hids.trans hids'.symm) fun i _ j hj heq => ?_
  obtain ⟨place, -, hplace⟩ := hids'.exists_place hj
  exact h.number_inj (heq.trans hplace) hplace

/-! ### The same entries -/

section

variable {l m : Listing σ ε} (h : l.Perm m)

include h

theorem under_perm (place : List String) : (l.under place).Perm (m.under place) := h.filter _

theorem nodes_perm : l.nodes.Perm m.nodes := h.filter _

theorem places_perm : l.places.Perm m.places := ((nodes_perm h).map _).cons []

theorem labels_perm : l.labels.Perm m.labels := h.filterMap _

theorem distinct_iff_of_perm : l.Distinct ↔ m.Distinct := (h.map _).nodup_iff

variable (hl : (l.labels.map (·.1)).Nodup)

include hl

theorem labelled?_eq_of_perm (label : String) : l.labelled? label = m.labelled? label :=
  lookup_eq_of_perm (labels_perm h) hl label

theorem denoted_eq_of_perm (place : List String) (target : String) :
    l.denoted place target = m.denoted place target := by
  have horigin : l.origin place target = m.origin place target := by
    unfold origin
    rw [labelled?_eq_of_perm h hl]
  rw [denoted, denoted, horigin]

omit hl in
theorem resolves_iff_of_perm (names : List String) : l.Resolves names ↔ m.Resolves names := by
  unfold Resolves
  split
  · rw [(places_perm h).mem_iff, (places_perm h).mem_iff]
  · rfl

omit hl in
theorem targets_perm (names : List String) : (l.targets names).Perm (m.targets names) := by
  unfold targets
  split
  · split
    · split
      · exact (((nodes_perm (under_perm h _)).filter _).map _)
      · rfl
    · rfl
  · rfl

theorem leads_perm (e : Entry σ ε) : (l.leads e).Perm (m.leads e) := by
  unfold leads
  split
  · rfl
  · rw [denoted_eq_of_perm h hl]
    exact targets_perm h _

theorem flatMap_leads_perm (place : List String) :
    ((l.under place).flatMap l.leads).Perm ((m.under place).flatMap m.leads) :=
  List.Perm.flatMap (under_perm h place) fun e _ => leads_perm h hl e

end

/-! ### Nothing wrong -/

/-- Nothing is wrong with the entries. -/
structure WellDeclared (l : Listing σ ε) : Prop where
  names : ∀ e ∈ l, ∀ name ∈ e.item.name?, IsName name
  distinct : l.Distinct
  labels : (l.labels.map (·.1)).Nodup
  patterns : ∀ e ∈ l, e.HasPattern
  aliases : ∀ e ∈ l, ∀ decl, e.item = .link decl → l.Resolves (l.denoted e.place decl.target)

theorem WellDeclared.of_perm {l m : Listing σ ε} (h : l.Perm m) (hl : l.WellDeclared) :
    m.WellDeclared where
  names e he := hl.names e (h.mem_iff.mpr he)
  distinct := (distinct_iff_of_perm h).mp hl.distinct
  labels := ((labels_perm h).map _).nodup_iff.mp hl.labels
  patterns e he := hl.patterns e (h.mem_iff.mpr he)
  aliases e he decl item := by
    rw [← resolves_iff_of_perm h, ← denoted_eq_of_perm h hl.labels]
    exact hl.aliases e (h.mem_iff.mpr he) decl item

/-- No two things stand at one place if no two things in a node have one name. -/
theorem distinct_iff {l : Listing σ ε} :
    l.Distinct ↔ ∀ place, ((l.under place).map (·.name)).Nodup := by
  simp only [Distinct, List.nodup_iff_pairwise_ne, List.pairwise_map, under, List.pairwise_filter]
  simp only [List.pairwise_iff_forall_sublist]
  constructor
  · rintro h place e f hef he hf hname
    rw [beq_iff_eq] at he hf
    exact h hef (Entry.place_inj.mpr ⟨he.trans hf.symm, hname⟩)
  · intro h e f hef hplace
    obtain ⟨hparent, hname⟩ := Entry.place_inj.mp hplace
    exact h f.parent hef (beq_iff_eq.mpr hparent) (beq_self_eq_true _) hname

end Listing

/-! ### Declarations -/

/-- The place that the target of a merge is found at. -/
def Listing.Search.place? (s : Search σ ε) : Option (List String) :=
  s.listing.mergePlace? s.base s.target

namespace Builder

/-- What a declaration without merges lists. -/
theorem listing_of_merges {b : Builder σ ε} (h : b.merges = []) :
    b.listing = Listing.addElements [] ⟨none, none, []⟩ [] b.elements := by
  rw [listing, h, Listing.addMerges]

theorem searches_of_merges {b : Builder σ ε} (h : b.merges = []) : b.searches = [] := by
  rw [searches, h, Listing.searchesAll]

/-- What the elements of a declaration list, one by one. -/
def entries (b : Builder σ ε) : Listing σ ε := Listing.ofElements [] ⟨none, none, []⟩ 0 b.elements

theorem listing_eq_entries {b : Builder σ ε} (hmerges : b.merges = [])
    (h : b.listing.Distinct ∨ b.entries.Distinct) : b.listing = b.entries := by
  rw [listing_of_merges hmerges] at *
  exact Listing.addElements_eq (List.forall_mem_nil _) List.mem_cons_self _ _ h

theorem wellDeclared_iff {b : Builder σ ε} :
    b.WellDeclared ↔ b.listing.WellDeclared ∧ ∀ s ∈ b.searches, s.Succeeds :=
  ⟨fun h => ⟨⟨h.names, Listing.distinct_iff.mpr h.distinct, h.labels, h.patterns, h.aliases⟩,
      h.merges⟩,
    fun ⟨h, hmerges⟩ => ⟨h.names, Listing.distinct_iff.mp h.distinct, h.labels, h.patterns, hmerges,
      h.aliases⟩⟩

theorem exists_build_iff {b : Builder σ ε} : (∃ g, b.build = .ok g) ↔ b.WellDeclared := by
  refine ⟨fun ⟨g, h⟩ => wellDeclared_of_build h, fun hb => ?_⟩
  cases h : b.build with
  | ok g => exact ⟨g, rfl⟩
  | error error => exact absurd hb (not_wellDeclared_of_fault (fault_of_build h))

end Builder

end CommandGrammar
