import CommandGrammar.Proofs.Building
import CommandGrammar.Proofs.Paths
import CommandGrammar.Proofs.Place

/-! Files that exist. A path leads through directories, part by part, so a file that can be read is
listed in the directory that its path names. -/

namespace CommandGrammar

namespace FileSystem

open CommandGrammar.Place (parts parts_singleton parts_append_slash)

variable {fs : FileSystem} {place next : List String} {part path text : String}

/-! ### Directories -/

theorem mem_ways_iff {front names : List String} :
    front ∈ ways names ↔ front <+: names ∧ front ≠ [] := by
  induction names generalizing front with
  | nil =>
    rw [List.prefix_nil]
    exact ⟨nofun, fun h => absurd h.1 h.2⟩
  | cons name names ih =>
    rw [ways, List.mem_cons, List.mem_map]
    constructor
    · rintro (rfl | ⟨rest, hrest, rfl⟩)
      · exact ⟨⟨names, rfl⟩, List.cons_ne_nil _ _⟩
      · exact ⟨List.cons_prefix_cons.mpr ⟨rfl, (ih.mp hrest).1⟩, List.cons_ne_nil _ _⟩
    · rintro ⟨hfront, hne⟩
      obtain ⟨first, rest, rfl⟩ := List.exists_cons_of_ne_nil hne
      obtain ⟨rfl, hrest⟩ := List.cons_prefix_cons.mp hfront
      cases rest with
      | nil => exact .inl rfl
      | cons second rest => exact .inr ⟨_, ih.mpr ⟨hrest, List.cons_ne_nil _ _⟩, rfl⟩

theorem entryAt_eq_directory_iff {names : List String} :
    fs.entryAt names = some .directory ↔ names ∈ fs.directoryPlaces := by
  unfold entryAt
  split
  · next h => simpa using h
  · next h => cases fs.files.find? (·.1 == names) <;> simpa using h

/-- The working directory and those that it is in are directories, up to the root. -/
theorem entryAt_of_prefix_working {front : List String} (h : front <+: fs.working) :
    fs.entryAt front = some .directory := by
  rw [entryAt_eq_directory_iff, directoryPlaces, List.mem_cons, List.mem_append]
  by_cases hroot : front = []
  · exact .inl hroot
  · exact .inr (.inl (mem_ways_iff.mpr ⟨h, hroot⟩))

/-! ### Walking -/

/-- Every place on the way to the place is a directory. -/
def Reached (fs : FileSystem) (names : List String) : Prop :=
  ∀ front, front <+: names → front ≠ names → fs.entryAt front = some .directory

theorem reached_start (path : String) : fs.Reached (fs.start path) := by
  intro front h hne
  unfold start at h hne
  split at h
  · next habs =>
    rw [if_pos habs] at hne
    exact absurd (List.prefix_nil.mp h) hne
  · exact entryAt_of_prefix_working h

/-- What one part of a path can do: it stays in a directory, goes back or goes on to an entry. -/
theorem walkPart_cases (h : fs.walkPart place part = .ok next) :
    fs.entryAt place = some .directory ∧
      (next = place ∨ next = place.dropLast ∨ next = place ++ [part]) := by
  unfold walkPart at h
  split at h
  · cases h
  · cases h
  · next hdir =>
    refine ⟨hdir, ?_⟩
    split_ifs at h
    · exact .inl (Except.ok.inj h).symm
    · exact .inr (.inl (Except.ok.inj h).symm)
    · exact .inr (.inr (Except.ok.inj h).symm)

/-- Where a place is reached and is a directory, all beginnings of its names are. -/
theorem Reached.entryAt_of_prefix {front : List String} (h : fs.Reached place)
    (hdir : fs.entryAt place = some .directory) (hfront : front <+: place) :
    fs.entryAt front = some .directory := by
  by_cases heq : front = place
  · exact heq ▸ hdir
  · exact h front hfront heq

theorem Reached.walkPart (h : fs.Reached place) (hstep : fs.walkPart place part = .ok next) :
    fs.Reached next := by
  obtain ⟨hdir, rfl | rfl | rfl⟩ := walkPart_cases hstep
  · exact h
  · intro front hfront _
    exact h.entryAt_of_prefix hdir (hfront.trans (List.dropLast_prefix place))
  · intro front hfront hne
    exact h.entryAt_of_prefix hdir ((List.prefix_concat_iff.mp hfront).resolve_left hne)

theorem Reached.foldlM {parts : List String} (h : fs.Reached place)
    (hrun : parts.foldlM fs.walkPart place = .ok next) : fs.Reached next := by
  induction parts generalizing place with
  | nil => exact Except.ok.inj hrun ▸ h
  | cons part parts ih =>
    rw [List.foldlM_cons, bind_ok_iff] at hrun
    obtain ⟨middle, hstep, hrest⟩ := hrun
    exact ih (h.walkPart hstep) hrest

/-- The part of a path that leads to a file is the name of the file in a directory. -/
theorem Reached.eq_of_walkPart (h : fs.Reached place) (hstep : fs.walkPart place part = .ok next)
    (hfile : fs.entryAt next ≠ some .directory) :
    fs.entryAt place = some .directory ∧ next = place ++ [part] := by
  obtain ⟨hdir, rfl | rfl | heq⟩ := walkPart_cases hstep
  · exact absurd hdir hfile
  · exact absurd (h.entryAt_of_prefix hdir (List.dropLast_prefix place)) hfile
  · exact ⟨hdir, heq⟩

/-! ### Locating -/

/-- What the operating system accepts as the text of a path. -/
structure IsPath (path : String) : Prop where
  nul : path.toList.contains '\x00' = false
  short : path.utf8ByteSize < 4096
  nonempty : path ≠ ""

/-- A path is followed part by part. -/
theorem IsPath.locate_eq (h : IsPath path) :
    fs.locate path = (parts path).foldlM fs.walkPart (fs.start path) := by
  unfold locate
  rw [h.nul, if_neg Bool.false_ne_true, if_neg (Nat.not_le.mpr h.short),
    if_neg (mt String.isEmpty_iff.mp h.nonempty)]
  rfl

/-- Only a path leads anywhere. -/
theorem isPath_of_locate (h : fs.locate path = .ok place) : IsPath path := by
  unfold locate at h
  split_ifs at h with hnul hlong hempty
  exact ⟨eq_false_of_ne_true hnul, Nat.lt_of_not_le hlong, mt String.isEmpty_iff.mpr hempty⟩

/-- A beginning of a path is one too, if it is not empty. -/
theorem IsPath.of_append {rest : String} (h : IsPath (path ++ rest)) (hne : path ≠ "") :
    IsPath path where
  nul := by
    have hnul := h.nul
    rw [String.toList_append, List.contains_append, Bool.or_eq_false_iff] at hnul
    exact hnul.1
  short := by
    have hshort := h.short
    rw [String.utf8ByteSize_append] at hshort
    omega
  nonempty := hne

theorem start_append (hne : path ≠ "") (rest : String) :
    fs.start (path ++ rest) = fs.start path := by
  have hchars : path.toList ≠ [] := mt String.toList_eq_nil_iff.mp hne
  rw [start, start, String.toList_append, List.head?_append_of_ne_nil _ hchars]

theorem start_of_slash_notMem (h : '/' ∉ path.toList) : fs.start path = fs.working := by
  refine if_neg fun hslash => h ?_
  exact List.mem_of_mem_head? (beq_iff_eq.mp hslash)

/-- What leads to a file by one part more leads through a directory. -/
theorem exists_of_foldlM_concat {start : List String} {parts : List String}
    (hstart : fs.Reached start)
    (h : (parts ++ [part]).foldlM fs.walkPart start = .ok next)
    (hfile : fs.entryAt next ≠ some .directory) :
    ∃ front, parts.foldlM fs.walkPart start = .ok front ∧
      fs.entryAt front = some .directory ∧ next = front ++ [part] := by
  rw [List.foldlM_append, bind_ok_iff] at h
  obtain ⟨front, hrun, hlast⟩ := h
  rw [List.foldlM_cons, bind_ok_iff] at hlast
  obtain ⟨last, hstep, hend⟩ := hlast
  obtain rfl : last = next := Except.ok.inj hend
  exact ⟨front, hrun, (hstart.foldlM hrun).eq_of_walkPart hstep hfile⟩

/-! ### Listing -/

theorem nodup_eraseDups (l : List String) : l.eraseDups.Nodup := by
  induction l using List.reverseRecOn with
  | nil => exact List.nodup_nil
  | append_singleton l name ih =>
    rw [List.eraseDups_append]
    by_cases h : name ∈ l
    · simpa [List.removeAll, h] using ih
    · have hnew : ∀ a ∈ l, a ≠ name := by
        rintro a ha rfl
        exact h ha
      simpa [List.removeAll, List.eraseDups_cons, h, List.nodup_append, ih] using hnew

theorem nodup_list (path : String) : (fs.list path).Nodup := by
  unfold list namesAt
  split
  · split
    · exact nodup_eraseDups _
    · exact List.nodup_nil
  · exact List.nodup_nil

theorem mem_namesAt {front : List String} (h : fs.entryAt (front ++ [part]) = some (.file text)) :
    part ∈ fs.namesAt front := by
  unfold entryAt at h
  split at h
  · cases h
  obtain ⟨file, hfind, -⟩ := Option.map_eq_some_iff.mp h
  have hname : file.1 = front ++ [part] := by simpa using List.find?_some hfind
  rw [namesAt, List.mem_eraseDups, List.mem_filterMap]
  have hmem : file.1 ∈ fs.files.map (·.1) :=
    List.mem_map_of_mem (List.mem_of_find?_eq_some hfind)
  exact ⟨file.1, List.mem_append_right _ hmem, by simp [hname]⟩

theorem list_of_locate (h : fs.locate path = .ok place)
    (hdir : fs.entryAt place = some .directory) : fs.list path = fs.namesAt place := by
  simp [list, h, hdir]

theorem walkPart_of_stays (h : fs.entryAt place = some .directory)
    (hpart : part = "" ∨ part = ".") :
    fs.walkPart place part = .ok place := by
  rcases hpart with rfl | rfl <;> (unfold walkPart; rw [h]; rfl)

theorem locate_here : fs.locate "." = .ok fs.working := by
  have hdir := fs.entryAt_of_prefix_working (List.prefix_refl fs.working)
  have hpath : IsPath "." := ⟨rfl, by decide, by decide⟩
  rw [hpath.locate_eq, start_of_slash_notMem (by decide), parts_singleton (by decide)]
  exact bind_ok_iff.mpr ⟨_, walkPart_of_stays hdir (.inr rfl), rfl⟩

theorem exists_append_slash {directory : String} (hne : directory ≠ "")
    (h : ∀ c ∈ directory.toList.getLast?, c = '/') : ∃ base, directory = base ++ "/" := by
  have hchars : directory.toList ≠ [] := mt String.toList_eq_nil_iff.mp hne
  have hlast := h _ (List.getLast?_eq_some_getLast hchars)
  refine ⟨String.ofList directory.toList.dropLast, ?_⟩
  rw [← String.toList_inj, String.toList_append, String.toList_ofList]
  exact (hlast ▸ List.dropLast_append_getLast hchars).symm

theorem exists_of_read (h : fs.read path = .ok text) :
    ∃ names, fs.locate path = .ok names ∧ fs.entryAt names = some (.file text) := by
  unfold read at h
  split at h
  · cases h
  · next names hlocate =>
    refine ⟨names, hlocate, ?_⟩
    split at h
    · next hfile => rw [hfile, Except.ok.inj h]
    · cases h
    · cases h

/-- A file that can be read is listed in its directory. -/
theorem mem_list_of_read (h : fs.read path = .ok text) :
    fs.isDirectory path = false ∧ FileFilter.baseName path ∈
      fs.list (if (FileFilter.splitDirectory path).1.isEmpty then "."
        else (FileFilter.splitDirectory path).1) := by
  obtain ⟨names, hlocate, hfile⟩ := exists_of_read h
  have hno : fs.entryAt names ≠ some .directory := by simp [hfile]
  refine ⟨by simp [isDirectory, hlocate, hfile], ?_⟩
  have hvalid := isPath_of_locate hlocate
  have hrun := hlocate
  rw [hvalid.locate_eq] at hrun
  have hreached := fs.reached_start path
  have hpath := FileFilter.directory_append_baseName path
  have hslash := FileFilter.slash_notMem_baseName path
  have hends := FileFilter.getLast?_directory path
  generalize (FileFilter.splitDirectory path).1 = directory at hpath hends ⊢
  generalize FileFilter.baseName path = name at hpath hslash ⊢
  subst hpath
  by_cases hempty : directory = ""
  · subst hempty
    rw [String.empty_append] at hrun hreached
    rw [parts_singleton hslash, ← List.nil_append [name]] at hrun
    obtain ⟨front, hstart, hdir, rfl⟩ := exists_of_foldlM_concat hreached hrun hno
    obtain rfl : fs.start name = front := Except.ok.inj hstart
    rw [start_of_slash_notMem hslash] at hdir hfile
    rw [if_pos (by rfl), list_of_locate locate_here hdir]
    exact mem_namesAt hfile
  · obtain ⟨base, rfl⟩ := exists_append_slash hempty hends
    rw [parts_append_slash, parts_singleton hslash] at hrun
    obtain ⟨front, hstart, hdir, rfl⟩ := exists_of_foldlM_concat hreached hrun hno
    rw [start_append hempty] at hstart
    have hfront : fs.locate (base ++ "/") = .ok front := by
      have hparts := parts_append_slash base ""
      rw [String.append_empty] at hparts
      rw [(hvalid.of_append hempty).locate_eq, hparts, List.foldlM_append, hstart]
      exact bind_ok_iff.mpr ⟨_, rfl, bind_ok_iff.mpr ⟨_, walkPart_of_stays hdir (.inl rfl), rfl⟩⟩
    rw [if_neg (mt String.isEmpty_iff.mp hempty), list_of_locate hfront hdir]
    exact mem_namesAt hfile

/-- A file in a home directory, which is not below the working directory. -/
example :
    let fs : FileSystem :=
      ⟨[["home"], ["home", "ann"]], [(["home", "ann", "notes"], "tea")], ["work"], some "/home/ann"⟩
    fs.read (fs.expandHome "~/notes") = .ok "tea" ∧ fs.list "../home/ann/" = ["notes"] :=
  ⟨rfl, rfl⟩

end FileSystem

end CommandGrammar
