import CommandGrammar.Proofs.Resembling

/-! Elements in another order. Where the elements of nodes and groups are put in another order, and
those that names are made up for keep theirs, the same entries are listed, so that the same grammar
is built up to the order of its nodes. -/

namespace CommandGrammar

variable {σ ε : Type}

namespace Element

/-- The elements in another order, also in the nodes and groups among them. In every list the
elements for which names are made up in the node around it, be it inside a group, keep their
order. -/
inductive Reordered : List (Element σ ε) → List (Element σ ε) → Prop
  | nil : Reordered [] []
  | node (decl : NodeDecl σ ε) {elements elements' es es' : List (Element σ ε)} :
      Reordered elements elements' → Reordered es es' →
      Reordered (.node decl elements :: es) (.node decl elements' :: es')
  | link (decl : AliasDecl) {es es' : List (Element σ ε)} :
      Reordered es es' → Reordered (.link decl :: es) (.link decl :: es')
  | group (decl : GroupDecl σ) {elements elements' es es' : List (Element σ ε)} :
      Reordered elements elements' → Reordered es es' →
      Reordered (.group decl elements :: es) (.group decl elements' :: es')
  | shuffle {es fs gs : List (Element σ ε)} : Reordered es fs → fs.Perm gs →
      fs.filter (·.unnamed != 0) = gs.filter (·.unnamed != 0) → Reordered es gs

theorem unnamedAll_perm {es fs : List (Element σ ε)} (h : es.Perm fs) :
    unnamedAll es = unnamedAll fs := by
  induction h with
  | nil => rfl
  | cons e _ ih => rw [unnamedAll, unnamedAll, ih]
  | swap e f es =>
    simp only [unnamedAll]
    omega
  | trans _ _ ih ih' => exact ih.trans ih'

/-- As many names are made up for the elements in another order. -/
theorem Reordered.unnamedAll_eq {es fs : List (Element σ ε)} (h : Reordered es fs) :
    unnamedAll es = unnamedAll fs := by
  induction h with
  | nil => rfl
  | node decl _ _ _ ih => simp only [unnamedAll, unnamed, ih]
  | link decl _ ih => simp only [unnamedAll, ih]
  | group decl _ _ ih ih' => simp only [unnamedAll, unnamed, ih, ih']
  | shuffle _ hperm _ ih => exact ih.trans (unnamedAll_perm hperm)

end Element

theorem Item.nameAfter_eq_zero (item : Item σ ε)
    (h : (if item.name?.isNone then 1 else 0) = 0) (k : Nat) :
    item.nameAfter k = item.nameAfter 0 := by
  unfold nameAfter
  cases hname : item.name? with
  | none => rw [hname] at h; cases h
  | some name => rfl

namespace Listing

open Element (unnamedAll Reordered)

mutual

/-- An element for which no names are made up lists the same behind any number of such names. -/
theorem ofElement_eq_zero (place : List String) (inherited : Inherited σ) (k : Nat)
    {e : Element σ ε} (h : e.unnamed = 0) :
    ofElement place inherited k e = ofElement place inherited 0 e := by
  cases e with
  | node decl elements =>
    rw [Element.unnamed] at h
    have hname := Item.nameAfter_eq_zero (.node decl inherited) h k
    simp only [ofElement, hname]
  | link decl =>
    rw [Element.unnamed] at h
    have hname := Item.nameAfter_eq_zero (.link decl : Item σ ε) h k
    simp only [ofElement, hname]
  | group decl elements =>
    rw [Element.unnamed] at h
    rw [ofElement, ofElement]
    exact ofElements_eq_zero place _ k h

theorem ofElements_eq_zero (place : List String) (inherited : Inherited σ) (k : Nat)
    {es : List (Element σ ε)} (h : unnamedAll es = 0) :
    ofElements place inherited k es = ofElements place inherited 0 es := by
  cases es with
  | nil => rw [ofElements, ofElements]
  | cons e es =>
    rw [unnamedAll] at h
    obtain ⟨he, hes⟩ := Nat.add_eq_zero_iff.mp h
    rw [ofElements, ofElements, ofElement_eq_zero place inherited k he, he,
      ofElements_eq_zero place inherited (k + 0) hes,
      ofElements_eq_zero place inherited (0 + 0) hes]

end

/-- Elements list what those of them list for which names are made up, and besides what the others
list by themselves. -/
theorem ofElements_perm_filter (place : List String) (inherited : Inherited σ) (k : Nat)
    (es : List (Element σ ε)) :
    (ofElements place inherited k es).Perm
      (ofElements place inherited k (es.filter (·.unnamed != 0)) ++
        (es.filter (·.unnamed == 0)).flatMap (ofElement place inherited 0)) := by
  induction es generalizing k with
  | nil => rw [ofElements]; rfl
  | cons e es ih =>
    rw [ofElements]
    by_cases he : e.unnamed = 0
    · rw [List.filter_cons_of_neg (by simp [he]), List.filter_cons_of_pos (by simp [he]),
        List.flatMap_cons, ofElement_eq_zero place inherited k he, he]
      refine ((ih k).append_left _).trans ?_
      rw [← List.append_assoc, ← List.append_assoc]
      exact List.perm_append_comm.append_right _
    · rw [List.filter_cons_of_pos (by simp [he]), List.filter_cons_of_neg (by simp [he]),
        ofElements,
        List.append_assoc]
      exact (ih _).append_left _

/-- Elements in another order list the same entries. -/
theorem ofElements_perm {es fs : List (Element σ ε)} (h : Reordered es fs) (place : List String)
    (inherited : Inherited σ) (k : Nat) :
    (ofElements place inherited k es).Perm (ofElements place inherited k fs) := by
  induction h generalizing place inherited k with
  | nil => rfl
  | node decl _ _ ih ih' =>
    rw [ofElements, ofElements, ofElement, ofElement]
    exact ((ih _ _ _).cons _).append (ih' _ _ _)
  | link decl _ ih =>
    rw [ofElements, ofElements]
    exact (ih _ _ _).append_left _
  | group decl helements _ ih ih' =>
    rw [ofElements, ofElements, ofElement, ofElement, Element.unnamed, Element.unnamed,
      helements.unnamedAll_eq]
    exact (ih _ _ _).append (ih' _ _ _)
  | @shuffle _ fs gs _ hperm hfilter ih =>
    refine (ih place inherited k).trans ((ofElements_perm_filter _ _ _ fs).trans
      (List.Perm.trans ?_ (ofElements_perm_filter _ _ _ gs).symm))
    rw [hfilter]
    exact ((hperm.filter _).flatMap_right _).append_left _

end Listing

namespace Builder

/-- The declaration with its elements in another order. -/
structure Reordered (b b' : Builder σ ε) : Prop where
  elements : Element.Reordered b.elements b'.elements
  merges : b.merges = []
  merges' : b'.merges = []

namespace Reordered

variable {b b' : Builder σ ε}

theorem entries_perm (h : b.Reordered b') : b.entries.Perm b'.entries :=
  Listing.ofElements_perm h.elements _ _ _

theorem listing_perm (h : b.Reordered b') (hd : b.listing.Distinct ∨ b'.listing.Distinct) :
    b.listing.Perm b'.listing := by
  have hiff := Listing.distinct_iff_of_perm h.entries_perm
  have hentries : b.entries.Distinct := by
    rcases hd with hd | hd
    · exact listing_eq_entries h.merges (.inl hd) ▸ hd
    · exact hiff.mpr (listing_eq_entries h.merges' (.inl hd) ▸ hd)
  rw [listing_eq_entries h.merges (.inr hentries),
    listing_eq_entries h.merges' (.inr (hiff.mp hentries))]
  exact h.entries_perm

theorem wellDeclared_iff (h : b.Reordered b') : b.WellDeclared ↔ b'.WellDeclared := by
  rw [Builder.wellDeclared_iff, Builder.wellDeclared_iff, searches_of_merges h.merges,
    searches_of_merges h.merges']
  refine and_congr_left fun _ => ⟨fun hl => ?_, fun hl => ?_⟩
  · exact hl.of_perm (h.listing_perm (.inl hl.distinct))
  · exact hl.of_perm (h.listing_perm (.inr hl.distinct)).symm

end Reordered

/-- Elements in another order make a grammar exactly if they did before, and then it has the same
nodes by their paths, with the same attributes, labels and edges, up to the order of the edges. -/
theorem reordered_build {b b' : Builder σ ε} (h : b.Reordered b') :
    ((∃ g, b.build = .ok g) ↔ ∃ g', b'.build = .ok g') ∧
      ∀ g g', b.build = .ok g → b'.build = .ok g' → g.Resembles List.Perm g' := by
  refine ⟨?_, fun g g' hg hg' => ?_⟩
  · rw [exists_build_iff, exists_build_iff, h.wellDeclared_iff]
  · have hshows := b.shows_of_build hg
    exact hshows.resembles_of_perm (b'.shows_of_build hg')
      (h.listing_perm (.inl hshows.clean.distinct))

end Builder

namespace Sample

/-- A node with two others in it. -/
def shelf (elements : List (Element Unit String)) : Element Unit String :=
  .group { traversals := some 2 } [.node { body := .literal, name := some "shelf" } elements]

def book (name : String) : Element Unit String := .node { body := .literal, name := some name } []

/-- A node from which aliases lead to the nodes on the shelf. -/
def reader : Element Unit String :=
  .node { body := .literal, name := some "reader" } [.link { target := "/shelf/*" }]

/-- A shelf behind the node that refers to it. -/
def shelved : Builder Unit String where
  elements := [reader, shelf [book "a", book "b"], .link { target := "../reader" }]
  merges := []

/-- The same shelf in front, with its books the other way round. -/
def reshelved : Builder Unit String where
  elements := [.link { target := "../reader" }, shelf [book "b", book "a"], reader]
  merges := []

theorem shelved_reordered : shelved.Reordered reshelved where
  elements := by
    have hbooks : Element.Reordered [book "a", book "b"] [book "b", book "a"] :=
      .shuffle (.node _ .nil (.node _ .nil .nil)) (.swap _ _ _) rfl
    have hinner : Element.Reordered shelved.elements
        [reader, shelf [book "b", book "a"], .link { target := "../reader" }] :=
      .node _ (.link _ .nil) (.group _ (.node _ hbooks .nil) (.link _ .nil))
    exact .shuffle hinner (List.reverse_perm _).symm rfl
  merges := rfl
  merges' := rfl

theorem reordered_build_shelved : shelved.Reordered reshelved ∧
    ∃ g g', shelved.build = .ok g ∧ reshelved.build = .ok g' ∧
      g.nodes.toList.map (·.path) = ["/", "/reader", "/shelf", "/shelf/a", "/shelf/b"] ∧
      g'.nodes.toList.map (·.path) = ["/", "/shelf", "/shelf/b", "/shelf/a", "/reader"] ∧
      g.Resembles List.Perm g' := by
  obtain ⟨g, hg, hpaths⟩ := shelved.exists_build (f := fun g => g.nodes.toList.map (·.path))
    (v := ["/", "/reader", "/shelf", "/shelf/a", "/shelf/b"]) (by decide +kernel)
  obtain ⟨hiff, halike⟩ := Builder.reordered_build shelved_reordered
  obtain ⟨g', hg'⟩ := hiff.mp ⟨g, hg⟩
  obtain ⟨g'', hg'', hpaths'⟩ := reshelved.exists_build (f := fun g => g.nodes.toList.map (·.path))
    (v := ["/", "/shelf", "/shelf/b", "/shelf/a", "/reader"]) (by decide +kernel)
  cases hg'.symm.trans hg''
  exact ⟨shelved_reordered, g, g', hg, hg', hpaths, hpaths', halike g g' hg hg'⟩

end Sample

end CommandGrammar
