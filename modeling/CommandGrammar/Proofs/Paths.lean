import CommandGrammar.Kind.File
import CommandGrammar.Proofs.Quoting
import Mathlib.Data.List.DropRight
import Mathlib.Data.List.Forall2

/-! What the candidates for a path stand for. The typed text loses its quotes, a tilde at its start
becomes the home directory, and the entries of its directory are offered, with the tilde put back
and in quotes again. Taking the quotes off undoes the quoting. Expanding the tilde undoes the
abbreviation as long as the home directory ends where a name ends: behind a tilde that was typed
alone it may be the beginning of a longer name, and an entry may itself be named by a tilde. -/

namespace CommandGrammar

/-! ### The home directory -/

namespace FileSystem

/-- The path is a tilde that can stand for the home directory, and what is behind it. -/
def FromHome (path : String) (behind : List Char) : Prop :=
  path.toList = '~' :: behind ∧ ∀ c ∈ behind.head?, c = '/'

variable {fs : FileSystem} {home path full : String}

theorem expandHome_of_none (h : fs.homeDirectory = none) (path : String) :
    fs.expandHome path = path := by
  unfold expandHome
  rw [h]
  split
  · next heq => cases heq
  · rfl

theorem expandHome_of_fromHome {behind : List Char} (h : fs.homeDirectory = some home)
    (hpath : FromHome path behind) : fs.expandHome path = home ++ String.ofList behind := by
  obtain ⟨hchars, hslash⟩ := hpath
  unfold expandHome
  rw [h, hchars]
  refine if_pos ?_
  cases behind with
  | nil => rfl
  | cons c cs => simp [hslash c rfl]

theorem expandHome_of_not_fromHome (h : ∀ behind, ¬FromHome path behind) :
    fs.expandHome path = path := by
  unfold expandHome
  split
  · next rest home hchars hhome =>
    refine if_neg fun hslash => h rest ⟨hchars, ?_⟩
    cases rest with
    | nil => exact nofun
    | cons c cs => simpa using hslash
  · rfl

/-- Expanding leaves a path as it is unless it starts with the tilde for the home directory. -/
theorem expandHome_eq_self_iff (h : fs.homeDirectory = some home) :
    fs.expandHome path = path ↔ home = "~" ∨ ∀ behind, ¬FromHome path behind := by
  by_cases hfrom : ∃ behind, FromHome path behind
  · obtain ⟨behind, hpath⟩ := hfrom
    have hsplit : path = "~" ++ String.ofList behind := by
      simp [← String.toList_inj, hpath.1]
    rw [expandHome_of_fromHome h hpath, or_iff_left (fun hnone => hnone behind hpath)]
    conv_lhs => rw [hsplit]
    exact String.append_left_inj _
  · rw [not_exists] at hfrom
    exact iff_of_true (expandHome_of_not_fromHome hfrom) (.inr hfrom)

theorem exists_fromHome_iff :
    (∃ behind, FromHome path behind) ↔ path = "~" ∨ path.startsWith "~/" = true := by
  rw [String.startsWith_string_iff, ← String.toList_inj]
  constructor
  · rintro ⟨behind, hchars, hslash⟩
    rw [hchars]
    cases behind with
    | nil => exact .inl rfl
    | cons c cs =>
      rw [hslash c rfl]
      exact .inr ⟨cs, rfl⟩
  · rintro (htilde | ⟨cs, hcs⟩)
    · exact ⟨[], htilde, nofun⟩
    · exact ⟨'/' :: cs, hcs.symm, fun c hc => (Option.some.inj hc).symm⟩

/-- A beginning of a path in the home directory is one too. -/
theorem FromHome.of_prefix {behind : List Char} (h : FromHome full behind)
    (hpath : path.toList <+: full.toList) (hne : path ≠ "") : ∃ rest, FromHome path rest := by
  obtain ⟨hchars, hslash⟩ := h
  rw [hchars, List.prefix_cons_iff] at hpath
  rcases hpath with hnil | ⟨rest, hrest, hmore, rfl⟩
  · exact absurd (String.toList_eq_nil_iff.mp hnil) hne
  · refine ⟨rest, hrest, fun c hc => hslash c ?_⟩
    rw [List.head?_append, Option.mem_def.mp hc]
    rfl

/-- With the tilde in front of it, what is behind the home directory stands for the path if the
tilde stands for the home directory there. -/
theorem expandHome_tilde_iff {more : List Char} (h : fs.homeDirectory = some home)
    (hpath : path.toList = '~' :: more) (hfull : full.toList = home.toList ++ more) :
    fs.expandHome path = full ↔ home = "~" ∨ ∀ c ∈ more.head?, c = '/' := by
  by_cases hslash : ∀ c ∈ more.head?, c = '/'
  · refine iff_of_true ?_ (.inr hslash)
    rw [expandHome_of_fromHome h ⟨hpath, hslash⟩, ← String.toList_inj, hfull]
    simp
  · have hfrom : ∀ behind, ¬FromHome path behind := by
      rintro behind ⟨hchars, hbehind⟩
      rw [hpath, List.cons.injEq] at hchars
      exact hslash (hchars.2 ▸ hbehind)
    rw [expandHome_of_not_fromHome hfrom, or_iff_left hslash, ← String.toList_inj, hpath, hfull,
      ← List.singleton_append, List.append_left_inj, ← String.toList_inj]
    exact eq_comm

/-- Whether a path of an entry, abbreviated as the path that was typed, stands for the entry. If no
more than a tilde was typed, the home directory must not end inside a name; if nothing was typed,
the entry must not be named by a tilde. -/
def ReadsBack (fs : FileSystem) (path full : String) : Prop :=
  ∀ home, fs.homeDirectory = some home → home = "~" ∨
    (path = "~" → full = home ∨ full.startsWith (home ++ "/") = true) ∧
      (path = "" → full ≠ "~" ∧ full.startsWith "~/" = false)

theorem readsBack_iff (h : fs.homeDirectory = some home) :
    fs.ReadsBack path full ↔ home = "~" ∨
      (path = "~" → full = home ∨ full.startsWith (home ++ "/") = true) ∧
        (path = "" → full ≠ "~" ∧ full.startsWith "~/" = false) := by
  simp [ReadsBack, h]

theorem readsBack_of_fromHome {behind more : List Char} (h : fs.homeDirectory = some home)
    (hpath : FromHome path behind) (hfull : full.toList = home.toList ++ (behind ++ more)) :
    fs.ReadsBack path full ↔ home = "~" ∨ ∀ c ∈ (behind ++ more).head?, c = '/' := by
  obtain ⟨hchars, hslash⟩ := hpath
  have hempty : path ≠ "" := by
    rintro rfl
    cases hchars
  rw [readsBack_iff h, iff_false_intro hempty, false_imp_iff, and_true]
  refine or_congr_right ?_
  cases behind with
  | nil =>
    have htilde : path = "~" := String.toList_inj.mp hchars
    rw [iff_true_intro htilde, true_imp_iff, String.startsWith_string_iff, ← String.toList_inj,
      hfull, String.toList_append, List.prefix_append_right_inj, List.append_right_eq_self]
    cases more with
    | nil => simp
    | cons c cs => simp [List.prefix_cons_iff, eq_comm]
  | cons c cs =>
    have htilde : path ≠ "~" := by
      rintro rfl
      cases hchars
    refine iff_of_true (fun h => absurd h htilde) fun d hd => ?_
    exact Option.some.inj hd ▸ hslash c rfl

theorem readsBack_of_not_fromHome (h : fs.homeDirectory = some home)
    (hpath : ∀ behind, ¬FromHome path behind) (hfull : path.toList <+: full.toList) :
    fs.ReadsBack path full ↔ home = "~" ∨ ∀ behind, ¬FromHome full behind := by
  have htilde : path ≠ "~" := by
    rintro rfl
    exact hpath [] ⟨rfl, nofun⟩
  rw [readsBack_iff h, iff_false_intro htilde, false_imp_iff, true_and, ← not_exists,
    exists_fromHome_iff, not_or, Bool.not_eq_true]
  refine or_congr_right ⟨fun h => ?_, fun h _ => h⟩
  by_cases hempty : path = ""
  · exact h hempty
  · rw [← Bool.not_eq_true, ← not_or, ← exists_fromHome_iff]
    rintro ⟨behind, hhere⟩
    obtain ⟨rest, hrest⟩ := hhere.of_prefix hfull hempty
    exact hpath rest hrest

end FileSystem

namespace FileFilter

variable {f : FileFilter} {fs : FileSystem} {path full : String}

open FileSystem (FromHome)

/-! ### Abbreviating and expanding -/

/-- What is typed in front of the first slash tells whether it is the tilde. -/
theorem fromHome_of_takeWhile {behind : List Char}
    (h : FromHome (String.ofList (path.toList.takeWhile (· != '/'))) behind) :
    FromHome path (path.toList.drop 1) := by
  obtain ⟨hshort, hslash⟩ := h
  rw [String.toList_ofList] at hshort
  have hnil : behind = [] := by
    cases behind with
    | nil => rfl
    | cons c cs =>
      have hc : c ∈ path.toList.takeWhile (· != '/') := by simp [hshort]
      simpa [hslash c rfl] using List.mem_takeWhile_imp hc
  cases hpath : path.toList with
  | nil => simp [hpath] at hshort
  | cons c cs =>
    rw [hpath, List.takeWhile_cons] at hshort
    split at hshort
    · obtain ⟨rfl, hrest⟩ := List.cons.inj hshort
      refine ⟨hpath, fun d hd => ?_⟩
      cases cs with
      | nil => cases hd
      | cons e es =>
        obtain rfl := Option.some.inj hd
        rw [hnil, List.takeWhile_eq_nil_iff] at hrest
        simpa using hrest
    · cases hshort

/-- What stands behind the home directory follows the tilde. -/
theorem shorten_of_fromHome {home : String} {behind more : List Char}
    (hhome : fs.homeDirectory = some home) (hpath : FromHome path behind)
    (hfull : full.toList = home.toList ++ more) :
    (shorten fs path full).toList = '~' :: more := by
  have htilde : path.startsWith "~" = true := by
    rw [String.startsWith_string_iff, hpath.1]
    exact List.cons_prefix_cons.mpr ⟨rfl, List.nil_prefix⟩
  have hshort : path.toList.takeWhile (· != '/') = ['~'] := by
    rw [hpath.1]
    cases behind with
    | nil => rfl
    | cons c cs =>
      rw [hpath.2 c rfl]
      rfl
  have hlong : fs.expandHome (String.ofList (path.toList.takeWhile (· != '/'))) = home := by
    have halone : FromHome (String.ofList ['~']) [] := ⟨rfl, nofun⟩
    rw [hshort, FileSystem.expandHome_of_fromHome hhome halone]
    exact String.append_empty
  have hstarts : full.startsWith home = true := by
    rw [String.startsWith_string_iff, hfull]
    exact List.prefix_append _ _
  unfold shorten
  rw [if_pos htilde]
  dsimp only
  rw [hlong, if_pos hstarts, hshort, String.toList_append, String.toList_ofList,
    String.toList_ofList, hfull, List.drop_left, List.singleton_append]

/-- Any other beginning is left as it is. -/
theorem shorten_eq_self
    (h : fs.homeDirectory = none ∨ ∀ behind, ¬FromHome path behind)
    (hfull : path.toList <+: full.toList) : shorten fs path full = full := by
  unfold shorten
  split
  · next htilde =>
    have hlong : fs.expandHome (String.ofList (path.toList.takeWhile (· != '/'))) =
        String.ofList (path.toList.takeWhile (· != '/')) := by
      rcases h with hnone | hfrom
      · exact FileSystem.expandHome_of_none hnone _
      · refine FileSystem.expandHome_of_not_fromHome fun behind hshort => ?_
        exact hfrom _ (fromHome_of_takeWhile hshort)
    have hstarts : path.toList.takeWhile (· != '/') <+: full.toList :=
      (List.takeWhile_prefix _).trans hfull
    obtain ⟨more, hmore⟩ := hstarts
    dsimp only
    rw [hlong, if_pos, ← String.toList_inj, String.toList_append, String.toList_ofList,
      String.toList_ofList, ← hmore, List.drop_left]
    rw [String.startsWith_string_iff, String.toList_ofList, ← hmore]
    exact List.prefix_append _ _
  · rfl

/-- Expanding undoes the abbreviation of what goes on from the expanded path exactly as far as
`ReadsBack` tells. -/
theorem expandHome_shorten_iff (hfull : (fs.expandHome path).toList <+: full.toList) :
    fs.expandHome (shorten fs path full) = full ↔ fs.ReadsBack path full := by
  cases hhome : fs.homeDirectory with
  | none =>
    rw [FileSystem.expandHome_of_none hhome] at hfull
    rw [shorten_eq_self (.inl hhome) hfull, FileSystem.expandHome_of_none hhome]
    exact iff_of_true rfl fun home h => by rw [hhome] at h; cases h
  | some home =>
    by_cases hfrom : ∃ behind, FromHome path behind
    · obtain ⟨behind, hpath⟩ := hfrom
      obtain ⟨more, hmore⟩ := hfull
      rw [FileSystem.expandHome_of_fromHome hhome hpath, String.toList_append,
        String.toList_ofList, List.append_assoc] at hmore
      rw [FileSystem.readsBack_of_fromHome hhome hpath hmore.symm]
      exact FileSystem.expandHome_tilde_iff hhome (shorten_of_fromHome hhome hpath hmore.symm)
        hmore.symm
    · rw [not_exists] at hfrom
      rw [FileSystem.expandHome_of_not_fromHome hfrom] at hfull
      rw [shorten_eq_self (.inr hfrom) hfull, FileSystem.expandHome_eq_self_iff hhome,
        FileSystem.readsBack_of_not_fromHome hhome hfrom hfull]

/-! ### The directory of a path -/

theorem toList_baseName (path : String) :
    (baseName path).toList = path.toList.rtakeWhile (· != '/') := String.toList_ofList

theorem toList_directory (path : String) :
    (splitDirectory path).1.toList = path.toList.rdropWhile (· != '/') := by
  have hsplit : path.toList.rdropWhile (· != '/') ++ path.toList.rtakeWhile (· != '/') =
      path.toList := List.rdropWhile_append_rtakeWhile
  have hlength := congrArg List.length hsplit
  rw [List.length_append] at hlength
  change (String.ofList (path.toList.take
    (path.toList.length - (path.toList.rtakeWhile (· != '/')).length))).toList = _
  rw [String.toList_ofList, show path.toList.length - (path.toList.rtakeWhile (· != '/')).length =
    (path.toList.rdropWhile (· != '/')).length by omega]
  exact (List.prefix_iff_eq_take.mp (List.rdropWhile_prefix _ _)).symm

/-- A path is its directory and its name. -/
theorem directory_append_baseName (path : String) :
    (splitDirectory path).1 ++ baseName path = path := by
  rw [← String.toList_inj, String.toList_append, toList_directory, toList_baseName,
    List.rdropWhile_append_rtakeWhile]

theorem slash_notMem_baseName (path : String) : '/' ∉ (baseName path).toList := by
  rw [toList_baseName]
  intro h
  simpa using List.mem_rtakeWhile_imp h

/-- A directory is empty or ends with a slash. -/
theorem getLast?_directory (path : String) :
    ∀ c ∈ (splitDirectory path).1.toList.getLast?, c = '/' := by
  rw [toList_directory]
  intro c hc
  obtain ⟨front, hfront⟩ := List.getLast?_eq_some_iff.mp hc
  have hne : path.toList.rdropWhile (· != '/') ≠ [] := by simp [hfront]
  simpa [hfront] using List.rdropWhile_last_not _ _ hne

/-! ### Candidates -/

variable {directory start typed : String}

theorem mem_names {name : String} : name ∈ f.names fs directory start ↔
    name ∈ fs.list (if directory.isEmpty then "." else directory) ∧
      name.startsWith start = true ∧ (f.dotfiles || !name.startsWith ".") = true ∧
      f.accepts fs (directory ++ name) true = true := by
  simp [names, List.mem_mergeSort, and_assoc]

/-- The path of such an entry goes on from what is typed. -/
theorem prefix_of_mem_names {name : String} (h : name ∈ f.names fs directory start) :
    (directory ++ start).toList <+: (directory ++ name).toList := by
  rw [String.toList_append, String.toList_append, List.prefix_append_right_inj]
  exact String.startsWith_string_iff.mp (mem_names.mp h).2.1

/-- What an entry of the directory is offered as, if it is the only one that is left or one of
several. A candidate stands for its path, and the value of a complete one is the path, exactly if
the path that was typed lets it be read back. -/
inductive Offers (f : FileFilter) (fs : FileSystem) (typed directory : String) :
    Bool → String → String → Prop
  | file {name token : String} (isFile : fs.isDirectory (directory ++ name) = false)
      (denotes : fs.expandHome (Text.unquote token) = directory ++ name ↔
        fs.ReadsBack (Text.unquote typed) (directory ++ name))
      (value : (Kind.file fs f).parse token = .ok (.path (directory ++ name)) ↔
        fs.ReadsBack (Text.unquote typed) (directory ++ name)) :
      Offers f fs typed directory true name (token ++ " ")
  | folder {name c : String} (isFolder : fs.isDirectory (directory ++ name) = true)
      (denotes : fs.expandHome (Text.unquote c) = directory ++ name ++ "/" ↔
        fs.ReadsBack (Text.unquote typed) (directory ++ name ++ "/")) :
      Offers f fs typed directory true name c
  | several {name c : String}
      (denotes : fs.expandHome (Text.unquote c) = directory ++ name ↔
        fs.ReadsBack (Text.unquote typed) (directory ++ name)) :
      Offers f fs typed directory false name c

theorem isQuote_of_openQuote? {q : Char} (h : q ∈ openQuote? typed) : Text.isQuote q = true :=
  (Option.filter_eq_some_iff.mp h).2

/-- Taking quotes off and expanding undo the abbreviation and the quoting. -/
theorem expandHome_unquote_iff (closed : Bool)
    (hfull : (fs.expandHome (Text.unquote typed)).toList <+: full.toList) :
    fs.expandHome (Text.unquote
        (Text.quote (openQuote? typed) closed (shorten fs (Text.unquote typed) full))) = full ↔
      fs.ReadsBack (Text.unquote typed) full := by
  rw [Text.unquote_quote fun q => isQuote_of_openQuote?, expandHome_shorten_iff hfull]

theorem accepts_file {b : Bool} (h : fs.isDirectory path = false) :
    f.accepts fs path b = f.accepts fs path true := by
  simp [accepts, h]

theorem parse_file (token : String) : (Kind.file fs f).parse token =
    if f.accepts fs (fs.expandHome (Text.unquote token)) f.directories then
      .ok (.path (fs.expandHome (Text.unquote token)))
    else Kind.refuse "path" token := by
  simp only [Kind.file]

theorem parse_eq_iff {token : String} (h : f.accepts fs full f.directories = true) :
    (Kind.file fs f).parse token = .ok (.path full) ↔
      fs.expandHome (Text.unquote token) = full := by
  rw [parse_file]
  constructor
  · intro hparse
    split at hparse
    · exact Value.path.inj (Except.ok.inj hparse)
    · exact nomatch hparse
  · intro hexpand
    rw [hexpand, if_pos h]

/-- The candidates are what the entries are offered as, in order. -/
theorem offers_candidates (f : FileFilter) (fs : FileSystem) (typed : String)
    (hsplit : splitDirectory (fs.expandHome (Text.unquote typed)) = (directory, start)) :
    List.Forall₂ (f.Offers fs typed directory ((f.names fs directory start).length == 1))
      (f.names fs directory start) (f.candidates fs typed) := by
  have hstart : directory ++ start = fs.expandHome (Text.unquote typed) := by
    have h := directory_append_baseName (fs.expandHome (Text.unquote typed))
    change _ ++ (splitDirectory _).2 = _ at h
    rwa [hsplit] at h
  have hbegins : ∀ name ∈ f.names fs directory start, ∀ more,
      (fs.expandHome (Text.unquote typed)).toList <+: (directory ++ name ++ more).toList := by
    intro name hname more
    have hmore := (prefix_of_mem_names hname).trans (List.prefix_append _ more.toList)
    rwa [← String.toList_append, hstart] at hmore
  simp only [candidates, hsplit]
  split
  · next name hnames =>
    have hname : name ∈ f.names fs directory start := by simp [hnames]
    rw [hnames]
    cases hdir : fs.isDirectory (directory ++ name) with
    | true =>
      exact .cons (.folder hdir (expandHome_unquote_iff _ (hbegins name hname "/"))) .nil
    | false =>
      have hfull := hbegins name hname ""
      rw [String.append_empty] at hfull
      have haccepts : f.accepts fs (directory ++ name) f.directories = true :=
        (accepts_file hdir).trans (mem_names.mp hname).2.2.2
      have hdenotes := expandHome_unquote_iff true hfull
      exact .cons (.file hdir hdenotes ((parse_eq_iff haccepts).trans hdenotes)) .nil
  · next hnames =>
    have hseveral : ((f.names fs directory start).length == 1) = false := by
      rw [beq_eq_false_iff_ne, Ne, List.length_eq_one_iff]
      exact fun ⟨name, hname⟩ => hnames name hname
    rw [hseveral, List.forall₂_map_right_iff, List.forall₂_same]
    intro name hname
    have hfull := hbegins name hname ""
    rw [String.append_empty] at hfull
    exact .several (expandHome_unquote_iff false hfull)

end FileFilter

/-- What is typed of a path names a directory and the beginning of a name. Each entry of the
directory that starts so and is accepted is offered, in order, and nothing else is. What is offered
stands for the path of the entry, and a complete path is also the value of what is offered, exactly
if the home directory can be read back: it cannot if nothing more than a tilde was typed and the
home directory ends inside a name, or if nothing was typed and an entry is named by a tilde. -/
theorem file_candidates_denote (f : FileFilter) (fs : FileSystem) (typed : String) :
    ∃ directory start : String,
      directory ++ start = fs.expandHome (Text.unquote typed) ∧
      '/' ∉ start.toList ∧ (∀ c ∈ directory.toList.getLast?, c = '/') ∧
      (∀ name ∈ f.names fs directory start,
        name ∈ fs.list (if directory.isEmpty then "." else directory) ∧
        name.startsWith start = true) ∧
      List.Forall₂ (f.Offers fs typed directory ((f.names fs directory start).length == 1))
        (f.names fs directory start) ((Kind.file fs f).candidates typed) := by
  refine ⟨(FileFilter.splitDirectory (fs.expandHome (Text.unquote typed))).1,
    FileFilter.baseName (fs.expandHome (Text.unquote typed)),
    FileFilter.directory_append_baseName _, FileFilter.slash_notMem_baseName _,
    FileFilter.getLast?_directory _, fun name hname => ?_,
    FileFilter.offers_candidates f fs typed rfl⟩
  have hname := FileFilter.mem_names.mp hname
  exact ⟨hname.1, hname.2.1⟩

/-- Behind a tilde that is typed alone, a name that the home directory is the beginning of is
offered as a path that leads to no entry. -/
theorem home_inside_name :
    let fs := FileSystem.ofPaths [] [("home2", "")] (some "home")
    let f : FileFilter := ⟨[], [], false, false⟩
    fs.list "." = ["home2"] ∧ (Kind.file fs f).candidates "~" = ["~2 "] ∧
      fs.expandHome (Text.unquote "~2") = "~2" ∧
      (Kind.file fs f).parse "~2" = .ok (.path "~2") := by
  intro fs f
  have hexpand : fs.expandHome (Text.unquote "~2") = "~2" := by decide +kernel
  exact ⟨by decide +kernel, by decide +kernel, hexpand,
    (FileFilter.parse_eq_iff (by decide +kernel)).mpr hexpand⟩

end CommandGrammar
