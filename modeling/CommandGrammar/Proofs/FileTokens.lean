import CommandGrammar.Proofs.Converting
import CommandGrammar.Proofs.ExistingFiles
import CommandGrammar.Proofs.Literal
import CommandGrammar.Proofs.Trail

/-! Files as tokens of a variable that accepts only what it offers. The path of a file, quoted where
it has to be, is offered as it is typed if no other entry of its directory goes on from it. If one
does, everything is offered with open quotes, and a path in quotes is then no longer accepted. -/

namespace CommandGrammar

variable {σ ε : Type}

open Text (forcesQuotes isBlank isQuote)

/-! ### Closed and open quotes -/

namespace Text

variable {q : Char} {s : String}

theorem quote_none_of_plain (h : s.toList.any forcesQuotes = false) (closed : Bool) :
    quote none closed s = s := by
  rw [quote, quoteChars, h]
  exact String.ofList_toList

theorem quote_none_of_forced (h : s.toList.any forcesQuotes = true) (closed : Bool) :
    quote none closed s = quote (some '\'') closed s := by
  rw [quote, quoteChars, h]
  rfl

theorem toList_quote_some (q : Char) (closed : Bool) (s : String) :
    (quote (some q) closed s).toList =
      q :: (escapeChars q s.toList ++ if closed then [q] else []) := String.toList_ofList

theorem openQuote?_of_plain (h : s.toList.any forcesQuotes = false) :
    FileFilter.openQuote? s = none := by
  rw [FileFilter.openQuote?, Option.filter_eq_none_iff]
  intro c hc hquote
  have hplain := List.any_eq_false.mp h c (List.mem_of_mem_head? hc)
  simp [forcesQuotes, hquote] at hplain

theorem openQuote?_quote_some (h : isQuote q = true) (closed : Bool) (s : String) :
    FileFilter.openQuote? (quote (some q) closed s) = some q := by
  rw [FileFilter.openQuote?, toList_quote_some, List.head?_cons, Option.filter_some, if_pos h]

theorem not_isBlank_of_plain (h : s.toList.any forcesQuotes = false) :
    ∀ c ∈ s.toList.getLast?, isBlank c = false := by
  intro c hc
  have hplain := List.any_eq_false.mp h c (List.mem_of_mem_getLast? hc)
  simp only [forcesQuotes, Bool.not_eq_true, Bool.or_eq_false_iff] at hplain
  exact hplain.1.1

theorem trimEnd_quoted_space (h : isQuote q = true) (s : String) :
    trimEnd (quote (some q) true s ++ " ") = quote (some q) true s := by
  refine trimEnd_append_space fun c hc => ?_
  rw [toList_quote_some, if_pos rfl, ← List.cons_append, List.getLast?_concat] at hc
  exact Option.some.inj hc ▸ not_isBlank_of_isQuote h

/-- What has an open quote is never a text with a closed one, as every quote in it is escaped. -/
theorem trimEnd_open_ne (h : isQuote q = true) (s t : String) :
    trimEnd (quote (some q) false t) ≠ quote (some q) true s := by
  intro heq
  have hbegins : (quote (some q) true s).toList <+: (quote (some q) false t).toList := by
    rw [← heq, trimEnd, dropTrailing_eq_rdropWhile, String.toList_ofList]
    exact List.rdropWhile_prefix _ _
  rw [toList_quote_some, toList_quote_some, if_pos rfl, if_neg Bool.false_ne_true, List.append_nil,
    List.cons_prefix_cons] at hbegins
  obtain ⟨rest, hrest⟩ := hbegins.2
  rw [List.append_assoc, List.singleton_append] at hrest
  have hescaped := unclosed_escapeChars (ne_backslash_of_isQuote h) t.toList _ _ hrest.symm
  rw [endsEscaped_escapeChars] at hescaped
  cases hescaped

end Text

/-! ### The token of a file -/

namespace FileFilter

variable {f : FileFilter} {fs : FileSystem} {path token : String}

/-- The entries of the path's directory that start with its name and are accepted. -/
def continued (f : FileFilter) (fs : FileSystem) (path : String) : List String :=
  f.names fs (splitDirectory path).1 (baseName path)

/-- Another entry of the directory starts with the name of the file. -/
def HasLonger (f : FileFilter) (fs : FileSystem) (path : String) : Prop :=
  ∃ name ∈ f.continued fs path, name ≠ baseName path

instance (f : FileFilter) (fs : FileSystem) (path : String) : Decidable (f.HasLonger fs path) :=
  inferInstanceAs (Decidable (∃ name ∈ f.continued fs path, name ≠ baseName path))

theorem nodup_names (directory start : String) : (f.names fs directory start).Nodup := by
  exact (List.mergeSort_perm _ _).nodup_iff.mpr ((FileSystem.nodup_list _).filter _)

/-- The file itself is among them. -/
theorem baseName_mem_continued {text : String} (hfile : fs.read path = .ok text)
    (haccepts : f.accepts fs path f.directories = true) :
    baseName path ∈ f.continued fs path := by
  obtain ⟨hno, hlisted⟩ := FileSystem.mem_list_of_read hfile
  have haccepts : f.accepts fs path true = true := accepts_file hno ▸ haccepts
  refine mem_names.mpr ⟨hlisted, String.startsWith_string_iff.mpr List.prefix_rfl, ?_, ?_⟩
  · rw [accepts, hno, if_neg Bool.false_ne_true, Bool.and_eq_true, Bool.and_eq_true] at haccepts
    exact haccepts.1.1
  · rwa [directory_append_baseName]

theorem continued_eq_singleton_iff (h : baseName path ∈ f.continued fs path) :
    f.continued fs path = [baseName path] ↔ ¬f.HasLonger fs path := by
  constructor
  · rintro heq ⟨name, hname, hne⟩
    rw [heq, List.mem_singleton] at hname
    exact hne hname
  · intro hlonger
    have hsame : ∀ name ∈ f.continued fs path, name = baseName path := by
      intro name hname
      by_contra hne
      exact hlonger ⟨name, hname, hne⟩
    have hreplicate := List.eq_replicate_of_mem hsame
    have hnodup : (f.continued fs path).Nodup := nodup_names _ _
    rw [hreplicate, List.nodup_replicate] at hnodup
    have hpos := List.length_pos_of_mem h
    rw [hreplicate, show (f.continued fs path).length = 1 by omega]
    rfl

/-- What is offered for a token with the path in it, where no home directory is known. -/
theorem candidates_token (hhome : fs.homeDirectory = none) (htoken : Text.unquote token = path)
    (hno : fs.isDirectory path = false) (h : baseName path ∈ f.continued fs path) :
    (¬f.HasLonger fs path →
      f.candidates fs token = [Text.quote (openQuote? token) true path ++ " "]) ∧
    (f.HasLonger fs path → f.candidates fs token = (f.continued fs path).map fun name =>
      Text.quote (openQuote? token) false ((splitDirectory path).1 ++ name)) := by
  have hsplit : splitDirectory (fs.expandHome path) = ((splitDirectory path).1, baseName path) := by
    rw [FileSystem.expandHome_of_none hhome]
    rfl
  have hshorten : ∀ name ∈ f.continued fs path,
      shorten fs path ((splitDirectory path).1 ++ name) = (splitDirectory path).1 ++ name := by
    intro name hname
    have hbegins := prefix_of_mem_names hname
    rw [directory_append_baseName] at hbegins
    exact shorten_eq_self (.inl hhome) hbegins
  have hnames : f.names fs (splitDirectory path).1 (baseName path) = f.continued fs path := rfl
  simp only [candidates, htoken, hsplit, hnames]
  constructor
  · intro hlonger
    have hown := hshorten _ h
    rw [directory_append_baseName] at hown
    rw [(continued_eq_singleton_iff h).mpr hlonger]
    simp only [directory_append_baseName, hno, Bool.false_eq_true, if_false, hown]
  · intro hlonger
    split
    · next name heq =>
      obtain rfl : baseName path = name := List.mem_singleton.mp (heq ▸ h)
      exact absurd hlonger ((continued_eq_singleton_iff h).mp heq)
    · exact List.map_congr_left fun name hname => by rw [hshorten name hname]

theorem accepts_of_parse {t : String} (h : (Kind.file fs f).parse t = .ok (.path path)) :
    f.accepts fs path f.directories = true := by
  rw [parse_file] at h
  split at h
  · next haccepts => rwa [Value.path.inj (Except.ok.inj h)] at haccepts
  · cases h

/-- The closed token of a file is among what is offered for it, unless it is in quotes and another
entry goes on from it. -/
theorem any_candidates_iff (hhome : fs.homeDirectory = none) (hno : fs.isDirectory path = false)
    (h : baseName path ∈ f.continued fs path) :
    (f.candidates fs (Text.quote none true path)).any
        (fun w => Text.trimEnd w == Text.quote none true path) = true ↔
      ¬(path.toList.any forcesQuotes = true ∧ f.HasLonger fs path) := by
  have htoken : Text.unquote (Text.quote none true path) = path :=
    Text.unquote_quote (by simp) true path
  obtain ⟨halone, hseveral⟩ := candidates_token hhome htoken hno h
  cases hforced : path.toList.any forcesQuotes with
  | false =>
    have hblank := Text.not_isBlank_of_plain hforced
    rw [Text.quote_none_of_plain hforced] at halone hseveral ⊢
    rw [Text.openQuote?_of_plain hforced] at halone hseveral
    refine iff_of_true ?_ fun h => Bool.false_ne_true h.1
    by_cases hlonger : f.HasLonger fs path
    · rw [hseveral hlonger, List.any_map, List.any_eq_true]
      refine ⟨baseName path, h, ?_⟩
      rw [Function.comp_apply, directory_append_baseName, Text.quote_none_of_plain hforced,
        Text.trimEnd_eq_self hblank, beq_self_eq_true]
    · rw [halone hlonger, Text.quote_none_of_plain hforced, List.any_cons,
        Text.trimEnd_append_space hblank, beq_self_eq_true, Bool.true_or]
  | true =>
    have hquote : isQuote '\'' = true := rfl
    rw [Text.quote_none_of_forced hforced] at halone hseveral ⊢
    rw [Text.openQuote?_quote_some hquote] at halone hseveral
    rw [iff_true_intro rfl, true_and]
    by_cases hlonger : f.HasLonger fs path
    · refine iff_of_false ?_ fun hno => hno hlonger
      rw [hseveral hlonger, List.any_map, List.any_eq_true]
      rintro ⟨name, -, heq⟩
      exact Text.trimEnd_open_ne hquote _ _ (beq_iff_eq.mp heq)
    · refine iff_of_true ?_ hlonger
      rw [halone hlonger, List.any_cons, Text.trimEnd_quoted_space hquote, beq_self_eq_true,
        Bool.true_or]

end FileFilter

/-! ### The node of a file -/

theorem Text.mem_escapeChars {q c : Char} {cs : List Char} (h : c ∈ escapeChars q cs) :
    c ∈ cs ∨ c = '\\' := by
  induction cs with
  | nil => cases h
  | cons d cs ih =>
    rw [escapeChars_cons, List.mem_append] at h
    rcases h with h | h
    · by_cases hd : d = q ∨ d = '\\'
      · rw [escapeChar_of_special hd, List.mem_cons, List.mem_singleton] at h
        exact h.elim .inr fun h => .inl (h ▸ List.mem_cons_self)
      · rw [escapeChar_of_plain hd, List.mem_singleton] at h
        exact .inl (h ▸ List.mem_cons_self)
    · exact (ih h).imp_left (List.mem_cons_of_mem d)

theorem Text.newline_notMem_quote {s : String} (h : '\n' ∉ s.toList) :
    '\n' ∉ (quote none true s).toList := by
  cases hforced : s.toList.any forcesQuotes with
  | false => rwa [quote_none_of_plain hforced]
  | true =>
    rw [quote_none_of_forced hforced, toList_quote_some]
    intro hmem
    rcases List.mem_cons.mp hmem with hquote | hmem
    · cases hquote
    · rcases List.mem_append.mp hmem with hmem | hmem
      · rcases mem_escapeChars hmem with hmem | hslash
        · exact h hmem
        · cases hslash
      · cases List.mem_singleton.mp hmem

theorem Text.quote_ne_empty {s : String} (h : s ≠ "") : quote none true s ≠ "" := by
  cases hforced : s.toList.any forcesQuotes with
  | false => rwa [quote_none_of_plain hforced]
  | true =>
    rw [quote_none_of_forced hforced, Ne, ← String.toList_eq_nil_iff, toList_quote_some]
    exact List.cons_ne_nil _ _

namespace Kind

/-- One line of text, `.+`. -/
def lineExpr : Expr := .rep (.chars (.complement (.single '\n'))) 1 none

theorem compile?_line : Pattern.compile? ".+" = some ⟨".+", lineExpr.whole⟩ := by
  decide +kernel

theorem accepts_line {t : String} (hne : t ≠ "") (hline : '\n' ∉ t.toList) :
    (⟨".+", lineExpr.whole⟩ : Pattern).accepts t = true := by
  have hbounded : lineExpr.Bounded := ⟨trivial, nofun⟩
  refine (Expr.occursIn_whole hbounded t).mpr (Expr.matches_rep_chars (fun c hc => ?_) ?_ _ _)
  · have hnot : c ≠ '\n' := by
      rintro rfl
      exact hline hc
    rw [CharClass.contains, Expr.contains_single, beq_eq_false_iff_ne.mpr hnot]
    rfl
  · exact List.length_pos_iff.mpr (mt String.toList_eq_nil_iff.mp hne)

end Kind

/-- A variable for files that accepts only what it offers itself. -/
structure NodeDecl.TakesListedFiles (decl : NodeDecl σ ε) (fs : FileSystem) (f : FileFilter) :
    Prop where
  body : decl.body = .var (Kind.file fs f)
  pattern : decl.pattern = none
  candidates : decl.candidates = none
  matchCandidates : decl.matchCandidates = some true

/-- A node that is made of such a variable. -/
structure Node.TakesListedFiles (n : Node σ ε) (fs : FileSystem) (f : FileFilter) : Prop where
  body : n.body = .var (Kind.file fs f)
  pattern : n.pattern = some ⟨".+", Kind.lineExpr.whole⟩
  candidates : n.candidates = none
  matchCandidates : n.matchCandidates = true

open FileFilter in
/-- A path of a file is taken exactly if it is offered, as its form and its value are right. -/
theorem Node.TakesListedFiles.step?_eq {n : Node σ ε} {fs : FileSystem} {f : FileFilter}
    (h : n.TakesListedFiles fs f) (hhome : fs.homeDirectory = none) {path text : String}
    (hfile : fs.read path = .ok text) (hline : '\n' ∉ path.toList)
    (haccepts : f.accepts fs path f.directories = true) (c : Context σ) :
    n.step? c (Text.quote none true path) =
      if path.toList.any forcesQuotes = true ∧ f.HasLonger fs path then none
      else some (c.advance n.toSite (some (.path path))) := by
  have hno := (FileSystem.mem_list_of_read hfile).1
  have hmem := baseName_mem_continued hfile haccepts
  have hne : path ≠ "" := by
    rintro rfl
    cases hfile
  have hfits : n.fits (Text.quote none true path) = true := by
    rw [Node.fits, h.pattern, Option.any_some]
    exact Kind.accepts_line (Text.quote_ne_empty hne) (Text.newline_notMem_quote hline)
  have hoffered : n.isOffered c (Text.quote none true path) = true ↔
      ¬(path.toList.any forcesQuotes = true ∧ f.HasLonger fs path) := by
    rw [← any_candidates_iff hhome hno hmem, Node.isOffered, h.matchCandidates, Node.candidatesFor,
      h.candidates, h.body]
    rfl
  have hvalue : n.value? (Text.quote none true path) = some (some (.path path)) := by
    have htoken : Text.unquote (Text.quote none true path) = path :=
      Text.unquote_quote (by simp) true path
    rw [Node.value?, h.body]
    dsimp only
    rw [parse_file, htoken, FileSystem.expandHome_of_none hhome, if_pos haccepts]
    rfl
  rw [Node.step?_eq, hfits, Bool.true_and, hvalue]
  split_ifs with hhere hlonger hlonger
  · exact absurd hlonger (hoffered.mp hhere)
  · rfl
  · rfl
  · exact absurd (hoffered.mpr hlonger) hhere

theorem Builder.exists_takesListedFiles {b : Builder σ ε} {g : Grammar σ ε} (hb : b.build = .ok g)
    {e : Entry σ ε} (he : e ∈ b.listing) {decl : NodeDecl σ ε} {inherited : Inherited σ}
    (item : e.item = .node decl inherited) {fs : FileSystem} {f : FileFilter}
    (hdecl : decl.TakesListedFiles fs f) :
    ∃ i n, g.node? i = some n ∧ b.listing.places[i]? = some e.place ∧
      n.TakesListedFiles fs f := by
  obtain ⟨i, n, hn, hi, parent, pattern, children, edges, compiled, hmade⟩ :=
    (b.shows_of_build hb).exists_made he item
  have hact : Draft.declaresAction decl = false := by rw [Draft.declaresAction, hdecl.body]
  have hsource : Draft.patternSource decl e.name = ".+" :=
    Draft.patternSource_of_var hdecl.body hdecl.pattern rfl e.name
  have hcompile : Pattern.compile? (Draft.patternSource decl e.name) =
      some ⟨".+", Kind.lineExpr.whole⟩ := by rw [hsource, Kind.compile?_line]
  refine ⟨i, n, hn, hi, ?_⟩
  rw [hmade]
  constructor
  case body => exact hdecl.body
  case pattern => exact Draft.compilePattern_of_compile? hact hcompile compiled
  case candidates => exact hdecl.candidates
  case matchCandidates =>
    change decl.matchCandidates.getD _ = true
    rw [hdecl.matchCandidates, Option.getD_some]

/-- Where no home directory is known, a variable that accepts only the files that it offers takes
the path of a file, closed in quotes where it has to be, exactly if it is not in quotes or no other
entry of the directory that is accepted starts with the name of the file. -/
theorem Builder.file_taken_iff {b : Builder σ ε} {g : Grammar σ ε} (hb : b.build = .ok g)
    {e : Entry σ ε} (he : e ∈ b.listing) {decl : NodeDecl σ ε} {inherited : Inherited σ}
    (item : e.item = .node decl inherited) {fs : FileSystem} {f : FileFilter}
    (hdecl : decl.TakesListedFiles fs f) (hhome : fs.homeDirectory = none) {path text t : String}
    (hfile : fs.read path = .ok text) (hline : '\n' ∉ path.toList)
    (hvalue : (Kind.file fs f).parse t = .ok (.path path)) :
    ∃ i n, g.node? i = some n ∧ b.listing.places[i]? = some e.place ∧ ∀ c : Context σ,
      n.step? c (Text.quote none true path) =
        if path.toList.any forcesQuotes = true ∧ f.HasLonger fs path then none
        else some (c.advance n.toSite (some (.path path))) := by
  obtain ⟨i, n, hn, hi, hfiles⟩ := exists_takesListedFiles hb he item hdecl
  exact ⟨i, n, hn, hi,
    hfiles.step?_eq hhome hfile hline (FileFilter.accepts_of_parse hvalue)⟩

namespace Sample

/-- A directory with files of these names. -/
def folder (names : List String) : FileSystem := .ofPaths [] (names.map (·, "")) none

def anyFile : FileFilter := ⟨[], [], false, false⟩

/-- A variable for a file of the directory. -/
def listedFile (names : List String) : NodeDecl Unit String where
  body := .var (.file (folder names) anyFile)
  name := some "file"
  matchCandidates := some true

theorem takesListedFiles (names : List String) :
    (listedFile names).TakesListedFiles (folder names) anyFile := ⟨rfl, rfl, rfl, rfl⟩

theorem parse_my_file (names : List String)
    (h : anyFile.accepts (folder names) "my file" false = true) :
    (Kind.file (folder names) anyFile).parse "'my file'" = .ok (.path "my file") := by
  have hunquote : Text.unquote "'my file'" = "my file" := by decide +kernel
  refine (FileFilter.parse_eq_iff h).mpr ?_
  rw [hunquote, FileSystem.expandHome_of_none rfl]

theorem file_taken_my_file :
    ∃ g i n, (Builder.single (listedFile ["my file", "other"])).build = .ok g ∧
      g.node? i = some n ∧ ∀ c : Context Unit, n.step? c "'my file'" =
        some (c.advance n.toSite (some (.path "my file"))) := by
  obtain ⟨g, hg, -⟩ := (Builder.single (listedFile ["my file", "other"])).exists_build
    (f := fun g => g.nodes.size) (v := 2) (by decide +kernel)
  have hlisting := Builder.listing_single
    (rfl : (listedFile ["my file", "other"]).name = some "file")
  have hread : (folder ["my file", "other"]).read "my file" = .ok "" := by rfl
  obtain ⟨i, n, hn, -, hstep⟩ := Builder.file_taken_iff hg (hlisting ▸ List.mem_cons_self) rfl
    (takesListedFiles _) rfl hread (by decide) (parse_my_file _ (by decide +kernel))
  refine ⟨g, i, n, hg, hn, fun c => ?_⟩
  have hshort : ¬("my file".toList.any forcesQuotes = true ∧
      anyFile.HasLonger (folder ["my file", "other"]) "my file") := by decide +kernel
  have hquote : Text.quote none true "my file" = "'my file'" := by decide +kernel
  rw [← hquote, hstep, if_neg hshort]

/-- Where another name starts with the name of a file, the file is not taken in quotes. -/
theorem file_with_longer_refused :
    (folder ["my file", "my file2"]).read "my file" = .ok "" ∧
    (Kind.file (folder ["my file", "my file2"]) anyFile).parse "'my file'" =
      .ok (.path "my file") ∧
    ∃ g i n, (Builder.single (listedFile ["my file", "my file2"])).build = .ok g ∧
      g.node? i = some n ∧ ∀ c : Context Unit, n.step? c "'my file'" = none := by
  have hread : (folder ["my file", "my file2"]).read "my file" = .ok "" := by rfl
  have haccepts : anyFile.accepts (folder ["my file", "my file2"]) "my file" false = true := by
    decide +kernel
  obtain ⟨g, hg, -⟩ := (Builder.single (listedFile ["my file", "my file2"])).exists_build
    (f := fun g => g.nodes.size) (v := 2) (by decide +kernel)
  have hlisting := Builder.listing_single
    (rfl : (listedFile ["my file", "my file2"]).name = some "file")
  obtain ⟨i, n, hn, -, hfiles⟩ := Builder.exists_takesListedFiles hg (hlisting ▸ List.mem_cons_self)
    rfl (takesListedFiles _)
  refine ⟨hread, parse_my_file _ haccepts, g, i, n, hg, hn, fun c => ?_⟩
  have hlonger : anyFile.HasLonger (folder ["my file", "my file2"]) "my file" :=
    ⟨"my file2", FileFilter.mem_names.mpr (by decide +kernel), by decide⟩
  have hquote : Text.quote none true "my file" = "'my file'" := by decide +kernel
  rw [← hquote, hfiles.step?_eq rfl hread (by decide) haccepts,
    if_pos ⟨by decide +kernel, hlonger⟩]

end Sample

end CommandGrammar
