import CommandGrammar.Grammar.Build
import Mathlib.Data.List.Induction

/-! Places in a grammar. A node or an alias stands at a place: the names on the way to it from the
root. Its path spells the place, each name behind a slash, and as no name has a slash in it, the
place can be read off the path again, also when something follows the path. -/

namespace CommandGrammar

/-- The text can be the name of a node. -/
structure IsName (name : String) : Prop where
  ne_empty : name ≠ ""
  ne_point : name ≠ "."
  ne_points : name ≠ ".."
  no_slash : '/' ∉ name.toList

theorem isName_iff {name : String} : Draft.isValidName name = true ↔ IsName name := by
  unfold Draft.isValidName
  simp only [Bool.and_eq_true, Bool.not_eq_true', String.isEmpty_eq_false_iff,
    List.contains_eq_mem, decide_eq_false_iff_not, bne_iff_ne]
  exact ⟨fun ⟨⟨⟨he, hs⟩, hp⟩, hpp⟩ => ⟨he, hp, hpp, hs⟩,
    fun ⟨he, hp, hpp, hs⟩ => ⟨⟨⟨he, hs⟩, hp⟩, hpp⟩⟩

/-- The names that are made up are names. -/
theorem isName_unnamed (k : Nat) : IsName ("@" ++ toString k) := by
  have hchars : ("@" ++ toString k).toList = '@' :: Nat.toDigits 10 k := by
    rw [String.toList_append]
    change '@' :: k.repr.toList = _
    rw [Nat.toList_repr]
  have hne {other : String} (ho : other.toList.head? ≠ some '@') : "@" ++ toString k ≠ other := by
    rintro rfl
    rw [hchars] at ho
    exact ho rfl
  refine ⟨hne (by decide), hne (by decide), hne (by decide), ?_⟩
  rw [hchars]
  intro hmem
  rcases List.mem_cons.mp hmem with h | h
  · exact absurd h (by decide)
  · exact absurd (Nat.isDigit_of_mem_toDigits (by decide) (by decide) h) (by decide)

namespace Place

/-! ### Paths -/

/-- The path of what stands at a place. -/
def path (place : List String) : String :=
  if place = [] then "/" else String.ofList (place.flatMap fun name => '/' :: name.toList)

theorem toList_path {place : List String} (h : place ≠ []) :
    (path place).toList = place.flatMap fun name => '/' :: name.toList := by
  rw [path, if_neg h, String.toList_ofList]

theorem path_concat (place : List String) (name : String) :
    path (place ++ [name]) = (if place = [] then "" else path place) ++ "/" ++ name := by
  rw [← String.toList_inj, toList_path (List.concat_ne_nil name place), List.flatMap_append]
  by_cases h : place = []
  · subst h
    simp
  · simp [if_neg h, toList_path h]

/-- The parts of a path between its slashes. -/
def parts (path : String) : List String := (path.toList.splitOn '/').map String.ofList

theorem parts_singleton {name : String} (h : '/' ∉ name.toList) : parts name = [name] := by
  rw [parts, List.splitOn_eq_singleton h, List.map_singleton, String.ofList_toList]

theorem parts_append_slash (path rest : String) :
    parts (path ++ "/" ++ rest) = parts path ++ parts rest := by
  have hchars : (path ++ "/" ++ rest).toList = path.toList ++ '/' :: rest.toList := by
    simp
  rw [parts, hchars, List.splitOn_append_cons_self, List.map_append]
  rfl

/-- The parts of a path are the names at its place, behind an empty one. -/
theorem parts_path {place : List String} (h : place ≠ []) (hplace : ∀ name ∈ place, IsName name) :
    parts (path place) = "" :: place := by
  induction place using List.reverseRecOn with
  | nil => exact absurd rfl h
  | append_singleton place name ih =>
    rw [List.forall_mem_append] at hplace
    have hname := parts_singleton (hplace.2 name (List.mem_singleton_self name)).no_slash
    rw [path_concat, parts_append_slash, hname]
    by_cases hnil : place = []
    · subst hnil
      rfl
    · rw [if_neg hnil, ih hnil hplace.1, List.cons_append]

theorem segments_eq (path : String) : Outline.segments path = (parts path).filter (· ≠ "") := by
  rw [Outline.segments, parts, List.filter_map]
  congr 1
  refine List.filter_congr fun cs _ => ?_
  cases cs <;> simp

/-- The names on a path are those of its place. -/
theorem segments_path {place : List String} (hplace : ∀ name ∈ place, IsName name) :
    Outline.segments (path place) = place := by
  by_cases h : place = []
  · subst h
    rfl
  · rw [segments_eq, parts_path h hplace, List.filter_cons_of_neg (by simp), List.filter_eq_self]
    exact fun name hname => by simpa using (hplace name hname).ne_empty

/-- No two places have the same path. -/
theorem path_inj {place other : List String} (hplace : ∀ name ∈ place, IsName name)
    (hother : ∀ name ∈ other, IsName name) (h : path place = path other) : place = other := by
  rw [← segments_path hplace, h, segments_path hother]

theorem endsWith_iff {text tail : String} :
    text.endsWith tail = true ↔ tail.toList <:+ text.toList := by
  simp [← String.endsWith_toSlice]

/-- Only the path of the root ends with a slash. -/
theorem endsWith_path {place : List String} (h : place ≠ [])
    (hplace : ∀ name ∈ place, IsName name) : (path place).endsWith "/" = false := by
  rw [Bool.eq_false_iff, Ne, endsWith_iff]
  induction place using List.reverseRecOn with
  | nil => exact absurd rfl h
  | append_singleton place name =>
    rw [List.forall_mem_append] at hplace
    have hname := hplace.2 name (List.mem_singleton_self name)
    -- the last character is the last one of a name
    rw [path_concat, String.toList_append]
    rintro ⟨front, hfront⟩
    have hne : name.toList ≠ [] := by simpa using hname.ne_empty
    have hlast : name.toList.getLast? = some '/' := by
      have h := congrArg List.getLast? hfront
      rw [List.getLast?_append, List.getLast?_append, List.getLast?_eq_some_getLast hne] at h
      rw [List.getLast?_eq_some_getLast hne]
      exact h.symm
    exact hname.no_slash (List.mem_of_getLast? hlast)

theorem childPath_path {place : List String} (hplace : ∀ name ∈ place, IsName name)
    (name : String) : Draft.childPath (path place) name = path (place ++ [name]) := by
  rw [Draft.childPath, path_concat]
  by_cases h : place = []
  · subst h
    have hroot : (path []).endsWith "/" = true := endsWith_iff.mpr (List.suffix_refl _)
    rw [if_pos rfl, if_pos hroot, String.empty_append]
    rfl
  · rw [if_neg h, endsWith_path h hplace, if_neg Bool.false_ne_true]

/-! ### Following a path -/

/-- The place behind one part of a path. An empty part and a point stay, and two points take the
name before them away. -/
def enter (place : List String) (part : String) : List String :=
  if part == "" || part == "." then place
  else if part == ".." then place.dropLast
  else place ++ [part]

/-- The place that a path leads to from another one. -/
def follow (place : List String) (path : String) : List String := (parts path).foldl enter place

theorem normalize_eq (path : String) : PendingAlias.normalize path = follow [] path := rfl

theorem enter_of_isName {name : String} (h : IsName name) (place : List String) :
    enter place name = place ++ [name] := by
  rw [enter, if_neg (by simp [h.ne_empty, h.ne_point]), if_neg (by simp [h.ne_points])]

theorem foldl_enter {names : List String} (h : ∀ name ∈ names, IsName name)
    (place : List String) : names.foldl enter place = place ++ names := by
  induction names generalizing place with
  | nil => rw [List.foldl_nil, List.append_nil]
  | cons name names ih =>
    rw [List.forall_mem_cons] at h
    rw [List.foldl_cons, enter_of_isName h.1, ih h.2, List.append_assoc, List.singleton_append]

theorem follow_path {place : List String} (hplace : ∀ name ∈ place, IsName name) :
    follow [] (path place) = place := by
  by_cases h : place = []
  · subst h
    rfl
  · rw [follow, parts_path h hplace, List.foldl_cons]
    exact foldl_enter hplace []

/-- What follows the path of a place and a slash is followed from that place. -/
theorem follow_path_slash {place : List String} (hplace : ∀ name ∈ place, IsName name)
    (rest : String) : follow [] (path place ++ "/" ++ rest) = follow place rest := by
  rw [follow, parts_append_slash, List.foldl_append]
  change (parts rest).foldl enter (follow [] (path place)) = _
  rw [follow_path hplace]
  rfl

example : follow ["one", "@0"] "../.././two" = ["two"] := by decide +kernel

end Place

end CommandGrammar
