import CommandGrammar.Proofs.Arena
import Mathlib.Data.List.DropRight

/-! Paths that lead upwards. A path is read as a stack of names: a name is put on it, and two points
take the last one away. What is left are names that can be read again. Behind the path of an alias,
two points lead to the node that the alias is declared in, and each further pair of them to the
parent of the node before, up to the root and no further. -/

namespace CommandGrammar

variable {σ ε : Type}

theorem rdrop_rdrop {α : Type} (l : List α) (m n : Nat) :
    (l.rdrop m).rdrop n = l.rdrop (m + n) := by
  rw [List.rdrop, List.rdrop, List.rdrop, List.take_take, List.length_take]
  congr 1
  omega

theorem rdrop_one {α : Type} (l : List α) : l.rdrop 1 = l.dropLast := List.dropLast_eq_take.symm

/-! ### The names of a path -/

namespace Place

theorem slash_notMem_of_mem_splitOn (cs : List Char) : ∀ piece ∈ cs.splitOn '/', '/' ∉ piece := by
  induction cs with
  | nil => simp
  | cons c cs ih =>
    rw [List.splitOn_cons_eq_if_modifyHead]
    split
    · exact List.forall_mem_cons.mpr ⟨List.not_mem_nil, ih⟩
    · next hc =>
      obtain ⟨piece, rest, hpieces⟩ := List.exists_cons_of_ne_nil (List.splitOn_ne_nil '/' cs)
      rw [hpieces, List.forall_mem_cons] at ih
      rw [hpieces, List.modifyHead_cons, List.forall_mem_cons, List.mem_cons, not_or]
      exact ⟨⟨fun hslash => hc (beq_iff_eq.mpr hslash.symm), ih.1⟩, ih.2⟩

theorem slash_notMem_of_mem_parts {path part : String} (h : part ∈ parts path) :
    '/' ∉ part.toList := by
  obtain ⟨cs, hcs, rfl⟩ := List.mem_map.mp h
  rw [String.toList_ofList]
  exact slash_notMem_of_mem_splitOn _ cs hcs

/-- Entering a part keeps the names on the stack fit for nodes. -/
theorem isName_enter {place : List String} {part : String} (hplace : ∀ name ∈ place, IsName name)
    (hpart : '/' ∉ part.toList) : ∀ name ∈ enter place part, IsName name := by
  unfold enter
  split
  · exact hplace
  · next hstay =>
    split
    · exact fun name hname => hplace name (List.dropLast_subset _ hname)
    · next hup =>
      simp only [Bool.or_eq_true, beq_iff_eq, not_or] at hstay hup
      rw [List.forall_mem_append, List.forall_mem_singleton]
      exact ⟨hplace, hstay.1, hstay.2, hup, hpart⟩

theorem isName_foldl_enter {ps place : List String} (hplace : ∀ name ∈ place, IsName name)
    (hps : ∀ part ∈ ps, '/' ∉ part.toList) : ∀ name ∈ ps.foldl enter place, IsName name := by
  induction ps generalizing place with
  | nil => exact hplace
  | cons part ps ih =>
    rw [List.forall_mem_cons] at hps
    exact ih (isName_enter hplace hps.1) hps.2

theorem isName_follow (path : String) : ∀ name ∈ follow [] path, IsName name :=
  isName_foldl_enter (List.forall_mem_nil _) fun _ => slash_notMem_of_mem_parts

theorem parts_intercalate {names : List String} (h : ∀ name ∈ names, '/' ∉ name.toList)
    (hne : names ≠ []) : parts ("/".intercalate names) = names := by
  have hsplit : (['/'].intercalate (names.map String.toList)).splitOn '/' =
      names.map String.toList := by
    refine List.splitOn_intercalate '/' ?_ (by simpa using hne)
    rw [List.forall_mem_map]
    exact h
  rw [parts, String.toList_intercalate]
  change ((['/'].intercalate (names.map String.toList)).splitOn '/').map String.ofList = names
  rw [hsplit, List.map_map]
  exact List.map_id'' (fun name => String.ofList_toList) names

/-- Names that are joined by slashes are read again. -/
theorem follow_intercalate {names : List String} (h : ∀ name ∈ names, IsName name) :
    follow [] ("/".intercalate names) = names := by
  by_cases hne : names = []
  · subst hne
    rfl
  · rw [follow, parts_intercalate (fun name hname => (h name hname).no_slash) hne, foldl_enter h,
      List.nil_append]

/-! ### Upwards -/

/-- Besides points and empty parts, the path is made of so many double points. -/
def Climbs (path : String) (k : Nat) : Prop :=
  (parts path).filter (fun part => part != "" && part != ".") = List.replicate k ".."

instance (path : String) (k : Nat) : Decidable (Climbs path k) :=
  inferInstanceAs (Decidable (_ = _))

/-- Parts that stay or go up take away as many names as go up. -/
theorem foldl_enter_up {ps : List String} {k : Nat}
    (h : ps.filter (fun part => part != "" && part != ".") = List.replicate k "..")
    (place : List String) : ps.foldl enter place = place.rdrop k := by
  induction ps generalizing place k with
  | nil =>
    obtain rfl : 0 = k := by simpa using congrArg List.length h
    exact (List.rdrop_zero place).symm
  | cons part ps ih =>
    rw [List.filter_cons] at h
    rw [List.foldl_cons]
    split at h
    · next hpart =>
      cases k with
      | zero => cases h
      | succ k =>
        rw [List.replicate_succ] at h
        obtain ⟨rfl, hrest⟩ := List.cons.inj h
        rw [ih hrest, Nat.add_comm, ← rdrop_rdrop, rdrop_one]
        rfl
    · next hpart =>
      have hstay : enter place part = place := by
        rw [enter, if_pos]
        simpa [or_iff_not_imp_left] using hpart
      rw [hstay, ih h]

theorem Climbs.follow {path : String} {k : Nat} (h : Climbs path k) (place : List String) :
    follow place path = place.rdrop k :=
  foldl_enter_up h place

end Place

/-! ### Ancestors -/

namespace Grammar

/-- The node to which so many steps lead, each from a node to its parent. -/
def ancestor? (g : Grammar σ ε) (i : Nat) : Nat → Option Nat
  | 0 => some i
  | k + 1 => (g.ancestor? i k).bind fun j => (g.node? j).bind (·.parent)

/-- These are the names of the nodes on the way from the root to the node, without that of the root
itself. -/
inductive NamesTo (g : Grammar σ ε) : Nat → List String → Prop
  | root : NamesTo g 0 []
  | child {i p : Nat} {n : Node σ ε} {names : List String} (node : g.node? i = some n)
      (parent : n.parent = some p) (above : NamesTo g p names) : NamesTo g i (names ++ [n.name])

namespace Shows

variable {g : Grammar σ ε} {l : Listing σ ε}

theorem namesTo (h : g.Shows l) {i : Nat} {place : List String} (hi : l.places[i]? = some place) :
    g.NamesTo i place := by
  induction place using List.reverseRecOn generalizing i with
  | nil =>
    obtain rfl := h.clean.number_inj hi Listing.root_place
    exact .root
  | append_singleton place name ih =>
    have hi0 : i ≠ 0 := by
      rintro rfl
      exact List.concat_ne_nil name place (Option.some.inj hi).symm
    obtain ⟨n, hn⟩ := h.exists_node hi
    obtain ⟨p, e, -, hparent, -, hp, hplace, hname, -⟩ := (h.made hn).exists_parent hi0
    obtain ⟨rfl, rfl⟩ := List.append_singleton_inj.mp (Option.some.inj (hi.symm.trans hplace))
    exact hname ▸ .child hn hparent (ih hp)

/-- The names on the way to a node are those of its place. -/
theorem namesTo_iff (h : g.Shows l) {i : Nat} {place names : List String}
    (hi : l.places[i]? = some place) : g.NamesTo i names ↔ place = names := by
  refine ⟨fun hnames => ?_, fun heq => heq ▸ h.namesTo hi⟩
  induction hnames generalizing place with
  | root => exact Option.some.inj (hi.symm.trans Listing.root_place)
  | @child i p n names hn hparent _ ih =>
    have hi0 : i ≠ 0 := fun hzero => by
      cases ((h.parent_eq_none_iff hn).mpr hzero).symm.trans hparent
    obtain ⟨q, e, -, hq, -, hqplace, hplace, hname, -⟩ := (h.made hn).exists_parent hi0
    obtain rfl : p = q := Option.some.inj (hparent.symm.trans hq)
    obtain rfl := ih hqplace
    rw [Option.some.inj (hi.symm.trans hplace), hname]
    rfl

/-- The ancestors of a node stand at the beginnings of its place. -/
theorem exists_ancestor (h : g.Shows l) {i : Nat} {place : List String}
    (hi : l.places[i]? = some place) {k : Nat} (hk : k ≤ place.length) :
    ∃ j, g.ancestor? i k = some j ∧ l.places[j]? = some (place.rdrop k) := by
  induction k with
  | zero => exact ⟨i, rfl, by rwa [List.rdrop_zero]⟩
  | succ k ih =>
    obtain ⟨j, hj, hjplace⟩ := ih (Nat.le_of_succ_le hk)
    have hj0 : j ≠ 0 := by
      rintro rfl
      have hlen := congrArg List.length (Option.some.inj hjplace)
      rw [List.rdrop, List.length_take] at hlen
      simp only [List.length_nil] at hlen
      omega
    obtain ⟨m, hm⟩ := h.exists_node hjplace
    obtain ⟨p, e, -, hparent, -, hp, hplace, -⟩ := (h.made hm).exists_parent hj0
    refine ⟨p, by rw [ancestor?, hj, Option.bind_some, hm, Option.bind_some, hparent], ?_⟩
    rw [hp, ← rdrop_rdrop, rdrop_one, Option.some.inj (hjplace.symm.trans hplace), Entry.place,
      List.dropLast_concat]

end Shows

end Grammar

/-! ### Paths behind an alias -/

/-- A slot for an alias is that of an alias below the place of the node. -/
theorem Draft.Shows.exists_alias {d : Draft σ ε} {l : Listing σ ε} (h : d.Shows l) {i index : Nat}
    {n : DraftNode σ ε} {place : List String} (hn : d.nodes[i]? = some n)
    (hi : l.places[i]? = some place) (hslot : .linked index ∈ n.slots) :
    ∃ a name, d.aliases[index]? = some a ∧ a.path = Place.path (place ++ [name]) ∧
      ∀ part ∈ place ++ [name], IsName part := by
  obtain ⟨slotIndex, hslot⟩ := List.mem_iff_getElem?.mp hslot
  obtain ⟨e, he, hstands⟩ := getElem?_of_forall₂ (h.below hn hi).slots hslot
  obtain ⟨hmem, rfl⟩ := Listing.mem_under.mp (List.mem_of_getElem? he)
  cases hstands with
  | linked pending number =>
    obtain ⟨decl, -, rfl⟩ := Entry.item_of_pending? pending
    rw [← h.aliases, Array.getElem?_toList] at number
    exact ⟨_, e.name, number, rfl, h.clean.names e hmem⟩

/-- A path is read as names that are none of the marks in it, and these names, joined by slashes,
are read as themselves. In a grammar that is built, two points behind the path of an alias lead to
the node that the alias is declared in, and each further pair of them leads on to the parent, up to
the root and not beyond it. -/
theorem normalize_leads_upwards :
    (∀ path, (∀ name ∈ PendingAlias.normalize path, name ≠ "" ∧ name ≠ "." ∧ name ≠ "..") ∧
      PendingAlias.normalize ("/".intercalate (PendingAlias.normalize path)) =
        PendingAlias.normalize path) ∧
    ∀ (b : Builder σ ε) (g : Grammar σ ε), b.build = .ok g →
      ∃ d, Draft.ofBuilder b = .ok d ∧ d.finish = .ok g ∧
        ∀ i n index, d.nodes[i]? = some n → .linked index ∈ n.slots →
          ∃ a names, d.aliases[index]? = some a ∧ g.NamesTo i names ∧
            ∀ k rest, Place.Climbs rest (k + 1) →
              (k ≤ names.length → ∃ j, g.ancestor? i k = some j ∧ ∀ above,
                g.NamesTo j above ↔ PendingAlias.normalize (a.path ++ "/" ++ rest) = above) ∧
              (names.length ≤ k → PendingAlias.normalize (a.path ++ "/" ++ rest) = []) := by
  refine ⟨fun path => ?_, fun b g hbuild => ?_⟩
  · have hnames := Place.isName_follow path
    exact ⟨fun name hname => ⟨(hnames name hname).ne_empty, (hnames name hname).ne_point,
      (hnames name hname).ne_points⟩, Place.follow_intercalate hnames⟩
  · have hg := b.shows_of_build hbuild
    rw [Builder.build_eq] at hbuild
    obtain ⟨d, hd, hfinish⟩ := bind_ok_iff.mp hbuild
    have hanswers := Draft.answers_ofBuilder b
    rw [hd] at hanswers
    cases hanswers with
    | ok hshows _ =>
      refine ⟨d, hd, hfinish, fun i n index hn hslot => ?_⟩
      have hlt : i < b.listing.places.length :=
        hshows.size ▸ (Array.getElem?_eq_some_iff.mp hn).1
      have hi := List.getElem?_eq_getElem hlt
      generalize b.listing.places[i] = place at hi
      obtain ⟨a, name, ha, hpath, hplace⟩ := hshows.exists_alias hn hi hslot
      refine ⟨a, place, ha, hg.namesTo hi, fun k rest hrest => ?_⟩
      have hnormalize : PendingAlias.normalize (a.path ++ "/" ++ rest) = place.rdrop k := by
        rw [Place.normalize_eq, hpath, Place.follow_path_slash hplace, hrest.follow,
          List.rdrop_concat_succ]
      rw [hnormalize]
      refine ⟨fun hk => ?_, fun hk => ?_⟩
      · obtain ⟨j, hj, hjplace⟩ := hg.exists_ancestor hi hk
        exact ⟨j, hj, fun above => hg.namesTo_iff hjplace⟩
      · rw [List.rdrop, Nat.sub_eq_zero_of_le hk, List.take_zero]

theorem normalize_leads_upwards_tags : ∃ d g, Sample.tags.build = .ok g ∧
    Draft.ofBuilder Sample.tags = .ok d ∧ d.finish = .ok g ∧
    (∃ n, d.nodes[2]? = some n ∧ n.slots = [.linked 0]) ∧
    d.aliases[0]? = some ⟨"/tags/text/@0", "../../*"⟩ ∧ g.NamesTo 2 ["tags", "text"] ∧
    Place.Climbs ".././/.." 2 ∧ g.ancestor? 2 1 = some 1 ∧ g.NamesTo 1 ["tags"] ∧
    PendingAlias.normalize "/tags/text/@0/.././/.." = ["tags"] ∧
    PendingAlias.normalize "/tags/text/@0/../../../.." = [] := by
  obtain ⟨-, hbuilt⟩ := normalize_leads_upwards (σ := Unit) (ε := String)
  obtain ⟨g, hg, hparent⟩ := Sample.tags.exists_build (f := fun g => g.ancestor? 2 1)
    (v := some 1) (by decide +kernel)
  obtain ⟨d, hd, hfinish, hslots⟩ := hbuilt Sample.tags g hg
  have hdraft : (Draft.ofBuilder Sample.tags).toOption.map
      (fun d => ((d.nodes[2]?).map (·.slots), d.aliases[0]?)) =
        some (some [.linked 0], some ⟨"/tags/text/@0", "../../*"⟩) := by decide +kernel
  rw [hd] at hdraft
  obtain ⟨hnode, halias⟩ := Prod.mk.inj (Option.some.inj hdraft)
  obtain ⟨n, hn, hslot⟩ := Option.map_eq_some_iff.mp hnode
  obtain ⟨a, names, ha, hnames, hup⟩ := hslots 2 n 0 hn (hslot ▸ List.mem_singleton_self _)
  obtain rfl := Option.some.inj (halias.symm.trans ha)
  -- behind one pair of points stands the node itself
  obtain ⟨i, hi, hself⟩ := (hup 0 ".." (by decide +kernel)).1 (Nat.zero_le _)
  obtain rfl := Option.some.inj hi
  have hown : PendingAlias.normalize ("/tags/text/@0" ++ "/" ++ "..") = ["tags", "text"] := by
    decide +kernel
  obtain rfl : ["tags", "text"] = names := hown.symm.trans ((hself names).mp hnames)
  have htwo : Place.Climbs ".././/.." 2 := by decide +kernel
  obtain ⟨j, hj, habove⟩ := (hup 1 ".././/.." htwo).1 (by decide)
  obtain rfl := Option.some.inj (hparent.symm.trans hj)
  have htags : PendingAlias.normalize "/tags/text/@0/.././/.." = ["tags"] := by decide +kernel
  exact ⟨d, g, hg, hd, hfinish, ⟨n, hn, hslot⟩, halias, hnames, htwo, hparent,
    (habove ["tags"]).mpr htags, htags, (hup 3 "../../../.." (by decide +kernel)).2 (by decide)⟩

end CommandGrammar
