import Mathlib
import CommandGrammar.Proofs.Rearranging
import CommandGrammar.Proofs.Trail
import CommandGrammar.Shell.Command

/-! The commands of the shell as they are declared: the entries that they list, the places that may
follow each other, and what each of them takes. Only the kind of the files to print looks at the
file system, so that all of this is told without it, and nothing is wrong with the declaration,
whatever the file system. -/

namespace CommandGrammar.Shell

/-! ### What the commands do -/

def catAction (fs : FileSystem) : Action Settings Effect := .ofVars fun vars =>
  withArgument vars (.list (.basic .path)) "files" (printFiles fs)

theorem four_inRange : (IntRange.unsigned 32).least ≤ 4 ∧ 4 ≤ (IntRange.unsigned 32).greatest := by
  decide

/-- Without a number that is typed there are four requests, a number that fits the type. -/
def pingAction
    (hfour : (IntRange.unsigned 32).least ≤ 4 ∧ 4 ≤ (IntRange.unsigned 32).greatest) :
    Action Settings Effect :=
  let count : ArgumentField :=
    ⟨"count", "count", .basic (.integer (.unsigned 32)), some ⟨4, hfour⟩⟩
  .ofVars fun vars =>
    withArgument vars (.basic .value) "host" fun host =>
      match count.read vars with
      | .ok n => printLine s!"pinging {host.text} {n.val} times"
      | .error e => Action.refuse (.argument e)

def levelAction : Action Settings Effect := .ofVars fun vars =>
  withArgument vars (.basic (.integer (.signed 64))) "level" fun n => once (.setLevel n.val)

def debugAction : Action Settings Effect := .ofVars fun vars =>
  withArgument vars (.basic .boolean) "enabled" fun on => once (.setDebug on)

def showAction : Action Settings Effect := fun c =>
  withArgument c.vars (.basic .string) "what" fun what =>
    match c.user with
    | none => ⟨[], .ok ()⟩
    | some settings =>
      if what == "level" then printLine ("level " ++ toString settings.level)
      else printLine ("debug " ++ toString settings.debug)

def resolveAction : Action Settings Effect := .ofVars fun vars =>
  withArgument vars (.basic .address) "address" fun a =>
    printLine (a.text ++ " is " ++ if a.isLoopback then "local" else "remote")

def quitAction : Action Settings Effect := fun _ => once .leave

/-! ### Entries -/

/-- A node in the node at a place. There are no conditions on groups. -/
def nodeEntry (parent : List String) (name : String) (decl : NodeDecl Settings Effect) :
    Entry Settings Effect :=
  ⟨parent, name, .node decl ⟨none, none, []⟩⟩

def wordEntry (parent : List String) (name : String) (help : Option String) :
    Entry Settings Effect :=
  nodeEntry parent name { body := .literal, name := some name, help := help.map .text }

def variableEntry (parent : List String) (name : String) (kind : Kind) (help : Option String) :
    Entry Settings Effect :=
  nodeEntry parent name { body := .var kind, name := some name, help := help.map .text }

def endEntry (parent : List String) (run : Action Settings Effect) : Entry Settings Effect :=
  nodeEntry parent "@0" { body := .action run, name := none }

def linkEntry (parent : List String) (name target : String) : Entry Settings Effect :=
  ⟨parent, name, .link { target }⟩

/-- The word that is there only while debugging. -/
def resolveEntry : Entry Settings Effect :=
  nodeEntry [] "resolve"
    { body := .literal
      name := some "resolve"
      help := some (.text "Look up an address")
      condition := some fun c => c.user.any (·.debug) }

/-- What the commands list. -/
def entries (fs : FileSystem) : Listing Settings Effect := [
  wordEntry [] "cat" (some "Print files"),
  nodeEntry ["cat"] "files"
    { body := .var (Kind.file fs ⟨[], [], false, false⟩)
      name := some "files"
      help := some (.text "File to print")
      traversals := some 0 },
  endEntry ["cat", "files"] (catAction fs),
  linkEntry ["cat", "files"] "@1" "..",
  wordEntry [] "ping" (some "Pretend to ping a host"),
  variableEntry ["ping"] "host" Kind.host (some "Address or name"),
  endEntry ["ping", "host"] (pingAction four_inRange),
  wordEntry ["ping", "host"] "count" (some "Number of requests"),
  variableEntry ["ping", "host", "count"] "count" Kind.integer none,
  linkEntry ["ping", "host", "count", "count"] "@0" "../../../@0",
  wordEntry [] "set" (some "Change settings"),
  wordEntry ["set"] "level" none,
  variableEntry ["set", "level"] "level" Kind.integer (some "Verbosity level"),
  endEntry ["set", "level", "level"] levelAction,
  wordEntry ["set"] "debug" none,
  variableEntry ["set", "debug"] "enabled" Kind.boolean (some "on or off"),
  endEntry ["set", "debug", "enabled"] debugAction,
  wordEntry [] "show" (some "Show state"),
  nodeEntry ["show"] "what"
    { body := .var Kind.keyword
      name := some "what"
      pattern := some "level|debug"
      candidates := some (.fixed ["level", "debug"])
      help := some (.dynamic fun _ => [("level", "Verbosity level"), ("debug", "Debug switch")]) },
  endEntry ["show", "what"] showAction,
  resolveEntry,
  variableEntry ["resolve"] "address" Kind.address none,
  endEntry ["resolve", "address"] resolveAction,
  nodeEntry [] "quit"
    { body := .literal
      name := some "quit"
      help := some (.text "Leave the shell")
      group := some 1 },
  endEntry ["quit"] quitAction]

theorem level_mem (fs : FileSystem) :
    variableEntry ["set", "level"] "level" Kind.integer (some "Verbosity level") ∈ entries fs := by
  simp [entries]

theorem enabled_mem (fs : FileSystem) :
    variableEntry ["set", "debug"] "enabled" Kind.boolean (some "on or off") ∈ entries fs := by
  simp [entries]

theorem address_mem (fs : FileSystem) :
    variableEntry ["resolve"] "address" Kind.address none ∈ entries fs := by
  simp [entries]

theorem resolve_mem (fs : FileSystem) : resolveEntry ∈ entries fs := by
  simp [entries]

theorem listing_eq (fs : FileSystem) : (commands fs).listing = entries fs := by
  cbv

/-! ### Nothing is wrong -/

/-- The patterns of the nodes that are no actions, in the order in which they are declared. -/
def sources : List String := [
  "cat", ".+", "ping",
  "[0-9A-Fa-f:.]+|(?i)[A-Z0-9][A-Z0-9_-]*" ++
    "(?:(?:\\.[A-Z0-9][A-Z0-9_-]*)*\\.[A-Z0-9][A-Z0-9_-]*[A-Z])?\\.?",
  "count", "[-+]?\\d+", "set", "level", "[-+]?\\d+", "debug",
  "(?i)true|yes|aye|enable|enabled|on|1|false|no|disable|disabled|off|0", "show", "level|debug",
  "resolve", "[0-9A-Fa-f:.]+", "quit"]

theorem sources_eq (fs : FileSystem) : (entries fs).filterMap (fun e => match e.item with
    | .node decl _ =>
      if Draft.declaresAction decl then none else some (Draft.patternSource decl e.name)
    | .link _ => none) = sources := by
  cbv

theorem denoted_eq (fs : FileSystem) : (entries fs).filterMap (fun e => match e.item with
    | .node _ _ => none
    | .link decl => some ((entries fs).denoted e.place decl.target)) =
      [["cat", "files"], ["ping", "host", "@0"]] := by
  cbv

theorem hasPattern_of_mem {fs : FileSystem} {e : Entry Settings Effect} (he : e ∈ entries fs) :
    e.HasPattern := by
  unfold Entry.HasPattern
  split
  · next decl inherited item =>
    intro hact
    have hmem : Draft.patternSource decl e.name ∈ sources := by
      rw [← sources_eq fs]
      refine List.mem_filterMap.mpr ⟨e, he, ?_⟩
      rw [item]
      dsimp only
      rw [hact, if_neg Bool.false_ne_true]
    have hall : ∀ source ∈ sources, (Pattern.new? source).isSome = true := by
      decide +kernel
    exact hall _ hmem
  · trivial

theorem resolves_of_mem {fs : FileSystem} {e : Entry Settings Effect} (he : e ∈ entries fs)
    {decl : AliasDecl} (item : e.item = .link decl) :
    (entries fs).Resolves ((entries fs).denoted e.place decl.target) := by
  have hmem : (entries fs).denoted e.place decl.target ∈
      [["cat", "files"], ["ping", "host", "@0"]] := by
    rw [← denoted_eq fs]
    refine List.mem_filterMap.mpr ⟨e, he, ?_⟩
    rw [item]
  have hglobs : ∀ names ∈ [["cat", "files"], ["ping", "host", "@0"]],
      ∀ last ∈ names.getLast?, PendingAlias.isGlob last = false := by
    decide
  have hplaces : ∀ names ∈ [["cat", "files"], ["ping", "host", "@0"]],
      names ∈ (entries fs).places := of_decide_eq_true rfl
  unfold Listing.Resolves
  split
  · next last hlast =>
    rw [if_neg (by simp [hglobs _ hmem last hlast])]
    exact hplaces _ hmem
  · trivial

theorem wellDeclared_commands (fs : FileSystem) : (commands fs).WellDeclared := by
  have hmerges : (commands fs).merges = [] := rfl
  have hnames : (entries fs).all (fun e => e.item.name?.all Draft.isValidName) = true := rfl
  have hdistinct : ((entries fs).map (·.place)).Nodup := of_decide_eq_true rfl
  have hlabels : (entries fs).labels = [] := rfl
  rw [Builder.wellDeclared_iff, Builder.searches_of_merges hmerges, listing_eq]
  refine ⟨⟨fun e he name hname => ?_, hdistinct, ?_, fun e he => hasPattern_of_mem he,
    fun e he decl item => resolves_of_mem he item⟩, List.forall_mem_nil _⟩
  · have hvalid := List.all_eq_true.mp hnames e he
    rw [Option.mem_def] at hname
    rw [hname] at hvalid
    exact isName_iff.mp hvalid
  · rw [hlabels]
    exact List.nodup_nil

/-- The commands make a grammar. -/
theorem exists_build (fs : FileSystem) : ∃ g, (commands fs).build = .ok g :=
  Builder.exists_build_iff.mpr (wellDeclared_commands fs)

theorem shows_of_build {fs : FileSystem} {g : Grammar Settings Effect}
    (h : (commands fs).build = .ok g) : g.Shows (entries fs) :=
  listing_eq fs ▸ (commands fs).shows_of_build h

theorem clean_entries (fs : FileSystem) : (entries fs).Clean := by
  obtain ⟨g, hg⟩ := exists_build fs
  exact (shows_of_build hg).clean

/-! ### Places that follow each other -/

/-- Places and those that may follow them. -/
def links : List (List String × List String) := [
  ([], ["cat"]), (["cat"], ["cat", "files"]), (["cat", "files"], ["cat", "files", "@0"]),
  (["cat", "files"], ["cat", "files"]),
  ([], ["ping"]), (["ping"], ["ping", "host"]), (["ping", "host"], ["ping", "host", "@0"]),
  (["ping", "host"], ["ping", "host", "count"]),
  (["ping", "host", "count"], ["ping", "host", "count", "count"]),
  (["ping", "host", "count", "count"], ["ping", "host", "@0"]),
  ([], ["set"]), (["set"], ["set", "level"]), (["set", "level"], ["set", "level", "level"]),
  (["set", "level", "level"], ["set", "level", "level", "@0"]),
  (["set"], ["set", "debug"]), (["set", "debug"], ["set", "debug", "enabled"]),
  (["set", "debug", "enabled"], ["set", "debug", "enabled", "@0"]),
  ([], ["show"]), (["show"], ["show", "what"]), (["show", "what"], ["show", "what", "@0"]),
  ([], ["resolve"]), (["resolve"], ["resolve", "address"]),
  (["resolve", "address"], ["resolve", "address", "@0"]),
  ([], ["quit"]), (["quit"], ["quit", "@0"])]

theorem links_eq (fs : FileSystem) :
    ((entries fs).flatMap fun e => ((entries fs).leads e).map (e.parent, ·)) = links := by
  cbv

theorem follows_iff {fs : FileSystem} {p q : List String} :
    (entries fs).Follows p q ↔ (p, q) ∈ links := by
  rw [Listing.follows_iff_mem, links_eq]

theorem not_follows_root (fs : FileSystem) (p : List String) : ¬(entries fs).Follows p [] := by
  intro h
  have hall : ∀ link ∈ links, link.2 ≠ [] := by decide
  exact hall _ (follows_iff.mp h) rfl

/-- The places on a trail belong to the command that it begins with. -/
theorem head?_eq_of_isChain {fs : FileSystem} {places : List (List String)} {p q : List String}
    (h : (p :: places).IsChain (entries fs).Follows) (hp : p ≠ []) (hq : q ∈ places) :
    q.head? = p.head? := by
  induction places generalizing p with
  | nil => cases hq
  | cons r places ih =>
    obtain ⟨hfollows, hrest⟩ := List.isChain_cons_cons.mp h
    have hall : ∀ link ∈ links, link.1 ≠ [] → link.2.head? = link.1.head? := by decide
    have hhead : r.head? = p.head? := hall _ (follows_iff.mp hfollows) hp
    rcases List.mem_cons.mp hq with rfl | hq
    · exact hhead
    · refine (ih hrest ?_ hq).trans hhead
      rintro rfl
      exact not_follows_root fs p hfollows

/-- The second place may follow the first, and no other. -/
def LinkedOnly (p q : List String) : Prop :=
  (p, q) ∈ links ∧ ∀ link ∈ links, link.2 = q → link.1 = p

instance (p q : List String) : Decidable (LinkedOnly p q) := by
  unfold LinkedOnly
  infer_instance

/-- There is only one trail to a place, if every place on it follows only one other. -/
theorem trail_eq {fs : FileSystem} {front trail : List (List String)} {last : List String}
    (hchain : ([] :: (trail ++ [last])).IsChain (entries fs).Follows)
    (honly : ([] :: (front ++ [last])).IsChain LinkedOnly) : trail = front := by
  refine Listing.eq_of_followsOnly (not_follows_root fs) (honly.imp fun p q h x => ?_) hchain
  rw [follows_iff]
  exact ⟨fun hx => h.2 _ hx rfl, fun hx => hx ▸ h.1⟩

/-! ### Ends of commands -/

theorem endings_eq (fs : FileSystem) : (entries fs).endings = [
    (["cat", "files", "@0"], catAction fs), (["ping", "host", "@0"], pingAction four_inRange),
    (["set", "level", "level", "@0"], levelAction),
    (["set", "debug", "enabled", "@0"], debugAction),
    (["show", "what", "@0"], showAction), (["resolve", "address", "@0"], resolveAction),
    (["quit", "@0"], quitAction)] := rfl

/-- The places at which commands end. -/
def ends : List (List String) := [["cat", "files", "@0"], ["ping", "host", "@0"],
  ["set", "level", "level", "@0"], ["set", "debug", "enabled", "@0"], ["show", "what", "@0"],
  ["resolve", "address", "@0"], ["quit", "@0"]]

theorem mem_ends {fs : FileSystem} {last : List String} {run : Action Settings Effect}
    (h : (last, run) ∈ (entries fs).endings) : last ∈ ends := by
  have hmem := List.mem_map_of_mem (f := Prod.fst) h
  rw [endings_eq] at hmem
  exact hmem

/-! ### What is taken -/

/-- The places of the words that may always be typed. -/
def words : List (List String) := [["cat"], ["ping"], ["ping", "host", "count"], ["set"],
  ["set", "level"], ["set", "debug"], ["show"], ["quit"]]

theorem map_place_words (fs : FileSystem) :
    ((entries fs).filter (·.isWord)).map (·.place) = words := rfl

section

variable {fs : FileSystem} {user : Option Settings} {place : List String} {name text : String}

theorem exists_word (fs : FileSystem) (h : place ∈ words) :
    ∃ e ∈ entries fs, e.isWord = true ∧ e.place = place := by
  rw [← map_place_words fs] at h
  obtain ⟨e, he, hplace⟩ := List.mem_map.mp h
  obtain ⟨hmem, hword⟩ := List.mem_filter.mp he
  exact ⟨e, hmem, hword, hplace⟩

/-- A word takes itself only. -/
theorem getLast?_of_takesAt (h : place ∈ words) (htakes : (entries fs).TakesAt user place text) :
    place.getLast? = some text := by
  obtain ⟨e, he, hword, rfl⟩ := exists_word fs h
  rw [htakes.eq_of_isWord (clean_entries fs) he hword, Entry.place, List.getLast?_concat]

theorem admitsAt_word (h : place ∈ words) (hname : place.getLast? = some name) :
    (entries fs).AdmitsAt user place name := by
  obtain ⟨e, he, hword, rfl⟩ := exists_word fs h
  rw [Entry.place, List.getLast?_concat, Option.some_inj] at hname
  exact hname ▸ Listing.admitsAt_of_isWord he hword

variable {parent : List String} {kind : Kind} {help : Option String}

/-- A variable takes only what its kind has a value for. -/
theorem parse_of_takesAt (h : variableEntry parent name kind help ∈ entries fs)
    (htakes : (entries fs).TakesAt user (parent ++ [name]) text) :
    ∃ v, kind.parse text = .ok v :=
  (htakes.of_entry (clean_entries fs) h rfl).1.parses kind rfl

theorem admitsAt_variable (h : variableEntry parent name kind help ∈ entries fs)
    (hpattern : kind.pattern.isSome = true) (hoffered : kind.matchCandidates = false)
    (hfits : kind.FitsValues) {v : Value} (hparse : kind.parse text = .ok v) :
    (entries fs).AdmitsAt user (parent ++ [name]) text := by
  obtain ⟨source, hsource⟩ := Option.isSome_iff_exists.mp hpattern
  exact Listing.admitsAt_of_fitsValues (clean_entries fs) h rfl rfl rfl hsource hfits hoffered rfl
    hparse

theorem takesAt_resolve (htakes : (entries fs).TakesAt user ["resolve"] text) :
    text = "resolve" ∧ user.any (·.debug) = true := by
  obtain ⟨haccepts, c, rfl, hconditions⟩ :=
    Listing.TakesAt.of_entry (clean_entries fs) (resolve_mem fs) htakes rfl
  exact ⟨haccepts.eq_of_isLiteral rfl, hconditions _ List.mem_cons_self⟩

theorem admitsAt_resolve (h : user.any (·.debug) = true) :
    (entries fs).AdmitsAt user ["resolve"] "resolve" := by
  refine ⟨resolveEntry, resolve_mem fs, rfl, _, _, rfl, rfl, NodeDecl.accepts_name rfl rfl _, rfl,
    ?_⟩
  rintro c rfl holds hholds
  obtain rfl := List.mem_singleton.mp hholds
  exact h

end

end CommandGrammar.Shell
