import CommandGrammar.Proofs.Commands
import CommandGrammar.Shell.Session

/-! What the lines of a session do. A line changes the state of the shell only if its tokens are
one of three commands, and then as that command orders. This is read off the trail of a line that
reaches an action: the place of the action tells the trail, and the trail the tokens. In the other
direction the tokens of such a command are admitted along its trail. A run of lines is then told by
what each line orders, up to the one that leaves. -/

namespace CommandGrammar.Shell

/-! ### Orders -/

/-- Whether the effect changes the state of the shell. -/
def Effect.changes : Effect → Bool
  | .print _ => false
  | _ => true

/-- The change that tokens with these texts order. -/
def order? : List String → Option Effect
  | ["set", "level", t] =>
    match Kind.integer.parse t with
    | .ok (.int n) => some (.setLevel n)
    | _ => none
  | ["set", "debug", t] =>
    match Kind.boolean.parse t with
    | .ok (.bool on) => some (.setDebug on)
    | _ => none
  | ["quit"] => some .leave
  | _ => none

/-- What is ordered, read backwards: the level by an integer, the debug switch by yes or no, and to
leave. -/
theorem order?_eq_some_iff {ts : List String} {e : Effect} : order? ts = some e ↔
    (∃ t n, ts = ["set", "level", t] ∧ Kind.integer.parse t = .ok (.int n) ∧ e = .setLevel n) ∨
    (∃ t on, ts = ["set", "debug", t] ∧ Kind.boolean.parse t = .ok (.bool on) ∧ e = .setDebug on) ∨
    (ts = ["quit"] ∧ e = .leave) := by
  constructor
  · intro h
    unfold order? at h
    split at h
    · next t =>
      split at h
      · next n hparse => exact .inl ⟨t, n, rfl, hparse, (Option.some.inj h).symm⟩
      · cases h
    · next t =>
      split at h
      · next on hparse => exact .inr (.inl ⟨t, on, rfl, hparse, (Option.some.inj h).symm⟩)
      · cases h
    · exact .inr (.inr ⟨rfl, (Option.some.inj h).symm⟩)
    · cases h
  · rintro (⟨t, n, rfl, hparse, rfl⟩ | ⟨t, on, rfl, hparse, rfl⟩ | ⟨rfl, rfl⟩)
    · rw [order?, hparse]
    · rw [order?, hparse]
    · rfl

/-- The texts of the tokens of a line. -/
def texts (line : String) : List String := (Line.read line).tokens.map (·.text)

/-- The state behind a line: what it orders, unless it asks for help or is not read any more. -/
def Session.next (s : Session) (line : String) : Session :=
  if s.running && !line.endsWith "?" then (order? (texts line)).elim s s.apply else s

/-! ### What the commands change -/

/-- The answer changes nothing. -/
def Unchanging (a : Answer) : Prop := a.effects.filter (·.changes) = []

theorem unchanging_withArgument {t : ArgumentType} {run : t.Carrier → Answer}
    (h : ∀ x, Unchanging (run x)) (vars : Vars) (name : String) :
    Unchanging (withArgument vars t name run) := by
  unfold withArgument
  split
  · exact h _
  · rfl

theorem unchanging_printFiles (fs : FileSystem) (paths : List String) :
    Unchanging (printFiles fs paths) := by
  induction paths with
  | nil => rfl
  | cons path paths ih =>
    unfold printFiles
    split
    · rfl
    · exact ih

theorem unchanging_cat (fs : FileSystem) (c : Context Settings) : Unchanging (catAction fs c) :=
  unchanging_withArgument (unchanging_printFiles fs) _ _

theorem unchanging_ping (c : Context Settings) : Unchanging (pingAction four_inRange c) := by
  refine unchanging_withArgument (fun host => ?_) _ _
  split
  · rfl
  · rfl

theorem unchanging_show (c : Context Settings) : Unchanging (showAction c) := by
  refine unchanging_withArgument (fun what => ?_) _ _
  split
  · rfl
  · split
    · rfl
    · rfl

theorem unchanging_resolve (c : Context Settings) : Unchanging (resolveAction c) :=
  unchanging_withArgument (fun _ => (rfl : Unchanging (printLine _))) _ _

/-- An argument is read from the value collected under its name. -/
theorem withArgument_eq {vars : Vars} {t : ArgumentType} {name : String} {v : Value} {x : t.Carrier}
    (hv : vars.value? name = some v) (hx : t.ofValue? v = some x) (run : t.Carrier → Answer) :
    withArgument vars t name run = run x := by
  have hget : vars.get t name = .ok x := by
    rw [Vars.get, hv]
    dsimp only
    rw [hx]
  rw [withArgument, hget]

theorem effects_level {c : Context Settings} {text : String} {n : Int}
    (hparse : Kind.integer.parse text = .ok (.int n)) (hv : c.vars.value? "level" = some (.int n)) :
    (levelAction c).effects = [.setLevel n] := by
  obtain ⟨_, hn, hread⟩ := Kind.exists_of_parse_integer hparse
  cases hn
  have hbounds : -(2 ^ 63 : Int) ≤ n ∧ n ≤ 2 ^ 63 - 1 := Decimal.bounds_of_readInteger hread
  have hmember : (ArgumentType.basic (.integer (.signed 64))).ofValue? (.int n) =
      some ⟨n, hbounds⟩ := dif_pos hbounds
  rw [levelAction, Action.ofVars, withArgument_eq hv hmember]
  rfl

theorem effects_debug {c : Context Settings} {on : Bool}
    (hv : c.vars.value? "enabled" = some (.bool on)) :
    (debugAction c).effects = [.setDebug on] := by
  have hread : (ArgumentType.basic .boolean).ofValue? (.bool on) = some on := rfl
  rw [debugAction, Action.ofVars, withArgument_eq hv hread]
  rfl

/-! ### From an action to the tokens -/

section

variable {fs : FileSystem} {g : Grammar Settings Effect} {input : String}
  {c : Context Settings} {trail : List (List String)} {last : List String}
  {run : Action Settings Effect}

theorem forall₂_texts {R : List String → String → Prop} :
    List.Forall₂ (fun place token => R place token.text) trail (Line.read input).tokens ↔
      List.Forall₂ R trail (texts input) := List.forall₂_map_right_iff.symm

/-- The first token is the name of a command. Looking up addresses is there only while debugging. -/
theorem first_of_takesAt {user : Option Settings} {place : List String} {text : String}
    (hfollows : (entries fs).Follows [] place) (htakes : (entries fs).TakesAt user place text) :
    place.head? = some text ∧ (text = "resolve" → user.any (·.debug) = true) := by
  have hall : ∀ link ∈ links, link.1 = [] → (link.2 ∈ words ∨ link.2 = ["resolve"]) ∧
      link.2.getLast? = link.2.head? := by
    decide
  obtain ⟨hplace, hsingle⟩ := hall _ (follows_iff.mp hfollows) rfl
  rcases hplace with hword | hresolve
  · have hlast := getLast?_of_takesAt hword htakes
    have hother : ∀ place ∈ words, place.getLast? ≠ some "resolve" := by decide
    exact ⟨hsingle.symm.trans hlast, fun h => absurd (h ▸ hlast) (hother place hword)⟩
  · change place = ["resolve"] at hresolve
    subst hresolve
    obtain ⟨rfl, hdebug⟩ := takesAt_resolve htakes
    exact ⟨rfl, fun _ => hdebug⟩

/-- A line begins with the name of the command whose action it reaches. -/
theorem exists_first (hg : g.Shows (entries fs))
    (h : g.Reaches (entries fs) (.read input) c trail last run) :
    ∃ first rest, texts input = first :: rest ∧ last.head? = some first ∧
      (first = "resolve" → c.user.any (·.debug) = true) := by
  have htaken := forall₂_texts.mp h.taken
  have hchain := h.chain
  generalize texts input = ts at htaken ⊢
  cases htaken with
  | nil =>
    -- no action follows the root
    have hall : ∀ link ∈ links, link.1 = [] → link.2 ∉ ends := by decide
    exact absurd (mem_ends (h.mem_endings hg))
      (hall _ (follows_iff.mp (List.isChain_cons_cons.mp hchain).1) rfl)
  | @cons place first trail rest htakes _ =>
    obtain ⟨hfollows, hrest⟩ := List.isChain_cons_cons.mp hchain
    obtain ⟨hhead, hdebug⟩ := first_of_takesAt hfollows htakes
    have hne : place ≠ [] := by
      rintro rfl
      cases hhead
    refine ⟨first, rest, rfl, ?_, hdebug⟩
    rw [head?_eq_of_isChain hrest hne (List.mem_append_right _ List.mem_cons_self), hhead]

theorem order?_eq_none {first : String} (hset : first ≠ "set") (hquit : first ≠ "quit")
    (rest : List String) : order? (first :: rest) = none := by
  rw [Option.eq_none_iff_forall_ne_some]
  intro e h
  rcases order?_eq_some_iff.mp h with ⟨t, n, hts, -⟩ | ⟨t, on, hts, -⟩ | ⟨hts, -⟩
  · exact hset (List.cons.inj hts).1
  · exact hset (List.cons.inj hts).1
  · exact hquit (List.cons.inj hts).1

/-- A line that reaches the end of one of the settings gives the value for it. -/
theorem exists_value_of_set (hg : g.Shows (entries fs)) {word name : String} {kind : Kind}
    {help : Option String}
    (h : g.Reaches (entries fs) (.read input) c [["set"], ["set", word], ["set", word, name]] last
      run)
    (hword : ["set", word] ∈ words) (honce : kind.traversals = none)
    (hvariable : variableEntry ["set", word] name kind help ∈ entries fs) :
    ∃ t v, texts input = ["set", word, t] ∧ kind.parse t = .ok v ∧ c.vars.value? name = some v := by
  have htaken := h.taken
  generalize htokens : (Line.read input).tokens = tokens at htaken
  rcases htaken with _ | ⟨hset, _ | ⟨hsetting, _ | ⟨hvalue, _ | _⟩⟩⟩
  next t₁ t₂ t₃ =>
  have hset : some "set" = some t₁.text := getLast?_of_takesAt (by decide) hset
  have hsetting : some word = some t₂.text := getLast?_of_takesAt hword hsetting
  obtain ⟨v, hparse⟩ := parse_of_takesAt hvariable hvalue
  refine ⟨t₃.text, v, ?_, hparse, ?_⟩
  · rw [texts, htokens, Option.some.inj hset, Option.some.inj hsetting]
    rfl
  · exact h.value?_last hg hvariable rfl rfl rfl (congrArg (·.getD 1) honce) rfl (htokens ▸ rfl)
      hparse

theorem changes_level (hg : g.Shows (entries fs))
    (h : g.Reaches (entries fs) (.read input) c trail ["set", "level", "level", "@0"] levelAction) :
    (levelAction c).effects.filter (·.changes) = (order? (texts input)).toList := by
  obtain rfl : trail = [["set"], ["set", "level"], ["set", "level", "level"]] :=
    trail_eq h.chain (by decide)
  obtain ⟨t, v, htexts, hparse, hvalue⟩ :=
    exists_value_of_set hg h (by decide) rfl (level_mem fs)
  obtain ⟨n, rfl, -⟩ := Kind.exists_of_parse_integer hparse
  have horder := order?_eq_some_iff.mpr (.inl ⟨t, n, htexts, hparse, rfl⟩)
  rw [effects_level hparse hvalue, horder]
  rfl

theorem changes_debug (hg : g.Shows (entries fs))
    (h : g.Reaches (entries fs) (.read input) c trail ["set", "debug", "enabled", "@0"]
      debugAction) :
    (debugAction c).effects.filter (·.changes) = (order? (texts input)).toList := by
  obtain rfl : trail = [["set"], ["set", "debug"], ["set", "debug", "enabled"]] :=
    trail_eq h.chain (by decide)
  obtain ⟨t, v, htexts, hparse, hvalue⟩ :=
    exists_value_of_set hg h (by decide) rfl (enabled_mem fs)
  obtain ⟨on, rfl, -⟩ := Kind.exists_of_parse_boolean hparse
  have horder := order?_eq_some_iff.mpr (.inr (.inl ⟨t, on, htexts, hparse, rfl⟩))
  rw [effects_debug hvalue, horder]
  rfl

theorem changes_quit
    (h : g.Reaches (entries fs) (.read input) c trail ["quit", "@0"] quitAction) :
    (quitAction c).effects.filter (·.changes) = (order? (texts input)).toList := by
  obtain rfl : trail = [["quit"]] := trail_eq h.chain (by decide)
  have htaken := h.taken
  generalize htokens : (Line.read input).tokens = tokens at htaken
  rcases htaken with _ | ⟨hquit, _ | _⟩
  next t =>
  have hquit : some "quit" = some t.text := getLast?_of_takesAt (by decide) hquit
  have htexts : texts input = ["quit"] := by
    rw [texts, htokens, Option.some.inj hquit]
    rfl
  rw [htexts]
  rfl

/-- What an action changes is what the line that reaches it orders. -/
theorem changes_of_reaches (hg : g.Shows (entries fs))
    (h : g.Reaches (entries fs) (.read input) c trail last run) :
    (run c).effects.filter (·.changes) = (order? (texts input)).toList := by
  obtain ⟨first, rest, htexts, hhead, -⟩ := exists_first hg h
  have hnone (hset : last.head? ≠ some "set") (hquit : last.head? ≠ some "quit") :
      [] = (order? (texts input)).toList := by
    rw [htexts, order?_eq_none (fun h => hset (h ▸ hhead)) (fun h => hquit (h ▸ hhead))]
    rfl
  have hending := h.mem_endings hg
  simp only [endings_eq, List.mem_cons, Prod.mk.injEq, List.not_mem_nil, or_false] at hending
  rcases hending with ⟨rfl, rfl⟩ | ⟨rfl, rfl⟩ | ⟨rfl, rfl⟩ | ⟨rfl, rfl⟩ | ⟨rfl, rfl⟩ | ⟨rfl, rfl⟩ |
    ⟨rfl, rfl⟩
  · exact (unchanging_cat fs c).trans (hnone (by decide) (by decide))
  · exact (unchanging_ping c).trans (hnone (by decide) (by decide))
  · exact changes_level hg h
  · exact changes_debug hg h
  · exact (unchanging_show c).trans (hnone (by decide) (by decide))
  · exact (unchanging_resolve c).trans (hnone (by decide) (by decide))
  · exact changes_quit h

end

/-! ### From the tokens to an action -/

section

variable {fs : FileSystem} {g : Grammar Settings Effect} {input : String}
  {user : Option Settings}

/-- A line whose tokens are admitted along a trail to the end of a command reaches an action. -/
theorem isComplete_of_admits (hg : (commands fs).build = .ok g) {place : List String}
    {run : Action Settings Effect} (hend : endEntry place run ∈ entries fs)
    (trail : List (List String))
    (hchain : ([] :: (trail ++ [place ++ ["@0"]])).IsChain fun p q => (p, q) ∈ links)
    (hnodup : trail.Nodup)
    (hadmits : List.Forall₂ ((entries fs).AdmitsAt user) trail (texts input)) :
    (g.check input user).isComplete = true := by
  refine Grammar.isComplete_of_admits hg ?_ (listing_eq fs ▸ ?_) hnodup (listing_eq fs ▸ hend) rfl
    rfl rfl
  · rw [listing_eq]
    exact forall₂_texts.mpr hadmits
  · exact hchain.imp fun _ _ => follows_iff.mpr

theorem isComplete_level (hg : (commands fs).build = .ok g) {t : String} {v : Value}
    (h : texts input = ["set", "level", t]) (hparse : Kind.integer.parse t = .ok v) :
    (g.check input user).isComplete = true := by
  have hend : endEntry ["set", "level", "level"] levelAction ∈ entries fs := by simp [entries]
  refine isComplete_of_admits hg hend [["set"], ["set", "level"], ["set", "level", "level"]]
    (by decide) (by decide) ?_
  rw [h]
  exact .cons (admitsAt_word (by decide) rfl) (.cons (admitsAt_word (by decide) rfl)
    (.cons (admitsAt_variable (level_mem fs) rfl rfl Kind.integer_fitsValues hparse) .nil))

theorem isComplete_debug (hg : (commands fs).build = .ok g) {t : String} {v : Value}
    (h : texts input = ["set", "debug", t]) (hparse : Kind.boolean.parse t = .ok v) :
    (g.check input user).isComplete = true := by
  have hend : endEntry ["set", "debug", "enabled"] debugAction ∈ entries fs := by simp [entries]
  refine isComplete_of_admits hg hend [["set"], ["set", "debug"], ["set", "debug", "enabled"]]
    (by decide) (by decide) ?_
  rw [h]
  exact .cons (admitsAt_word (by decide) rfl) (.cons (admitsAt_word (by decide) rfl)
    (.cons (admitsAt_variable (enabled_mem fs) rfl rfl Kind.boolean_fitsValues hparse) .nil))

theorem isComplete_quit (hg : (commands fs).build = .ok g) (h : texts input = ["quit"]) :
    (g.check input user).isComplete = true := by
  have hend : endEntry ["quit"] quitAction ∈ entries fs := by simp [entries]
  refine isComplete_of_admits hg hend [["quit"]] (by decide) (by decide) ?_
  rw [h]
  exact .cons (admitsAt_word (by decide) rfl) .nil

theorem isComplete_resolve (hg : (commands fs).build = .ok g) {t : String} {v : Value}
    (h : texts input = ["resolve", t]) (hparse : Kind.address.parse t = .ok v)
    (hdebug : user.any (·.debug) = true) : (g.check input user).isComplete = true := by
  have hend : endEntry ["resolve", "address"] resolveAction ∈ entries fs := by simp [entries]
  refine isComplete_of_admits hg hend [["resolve"], ["resolve", "address"]] (by decide) (by decide)
    ?_
  rw [h]
  exact .cons (admitsAt_resolve hdebug)
    (.cons (admitsAt_variable (address_mem fs) rfl rfl Kind.address_fitsValues hparse) .nil)

/-- A line that orders a change reaches an action. -/
theorem isComplete_of_order? (hg : (commands fs).build = .ok g) {e : Effect}
    (h : order? (texts input) = some e) : (g.check input user).isComplete = true := by
  rcases order?_eq_some_iff.mp h with ⟨t, n, htexts, hparse, -⟩ | ⟨t, on, htexts, hparse, -⟩ |
    ⟨htexts, -⟩
  · exact isComplete_level hg htexts hparse
  · exact isComplete_debug hg htexts hparse
  · exact isComplete_quit hg htexts

/-! ### Lines -/

theorem exists_reaches (hg : (commands fs).build = .ok g)
    (h : (g.check input user).isComplete = true) :
    ∃ trail last run, g.Reaches (entries fs) (.read input) (g.check input user) trail last run ∧
      (g.check input user).user = user := listing_eq fs ▸ Grammar.exists_reaches hg h

/-- What a line changes is what it orders. -/
theorem changes_eq (hg : (commands fs).build = .ok g) (input : String) (user : Option Settings) :
    (g.parse input user).2.effects.filter (·.changes) = (order? (texts input)).toList := by
  cases hcomplete : (g.check input user).isComplete with
  | true =>
    obtain ⟨trail, last, run, h, -⟩ := exists_reaches hg hcomplete
    rw [h.parse_eq]
    exact changes_of_reaches (shows_of_build hg) h
  | false =>
    rw [Grammar.parse_of_not_isComplete hcomplete]
    cases horder : order? (texts input) with
    | none => rfl
    | some e =>
      rw [isComplete_of_order? hg horder] at hcomplete
      cases hcomplete

/-- An address is looked up only while debugging. -/
theorem resolve_iff (hg : (commands fs).build = .ok g) {t : String} {v : Value}
    (h : texts input = ["resolve", t]) (hparse : Kind.address.parse t = .ok v) :
    ((g.check input user).action.bind g.node?).map (·.path) = some "/resolve/address/@0" ↔
      user.any (·.debug) = true := by
  have hshows := shows_of_build hg
  constructor
  · intro hpath
    have hcomplete : (g.check input user).isComplete = true := by
      rw [Context.isComplete]
      by_contra hnone
      rw [Bool.not_eq_true, Option.isSome_eq_false_iff, Option.isNone_iff_eq_none] at hnone
      rw [hnone] at hpath
      cases hpath
    obtain ⟨trail, last, run, hreaches, huser⟩ := exists_reaches hg hcomplete
    obtain ⟨first, rest, htexts, -, hdebug⟩ := exists_first hshows hreaches
    rw [huser] at hdebug
    exact hdebug (List.cons.inj (htexts.symm.trans h)).1
  · intro hdebug
    obtain ⟨trail, last, run, hreaches, -⟩ :=
      exists_reaches hg (isComplete_resolve hg h hparse hdebug)
    obtain ⟨first, rest, htexts, hhead, -⟩ := exists_first hshows hreaches
    obtain rfl : first = "resolve" := (List.cons.inj (htexts.symm.trans h)).1
    have hall : ∀ place ∈ ends, place.head? = some "resolve" →
        Place.path place = "/resolve/address/@0" := by
      decide
    rw [hreaches.path_eq hshows, hall last (mem_ends (hreaches.mem_endings hshows)) hhead]

end

/-- Printing leaves the state as it is. -/
theorem foldl_apply_filter (s : Session) (effects : List Effect) :
    (effects.filter (·.changes)).foldl .apply s = effects.foldl .apply s := by
  induction effects generalizing s with
  | nil => rfl
  | cons e effects ih =>
    cases e with
    | print text => exact ih s
    | _ => exact ih _

section

variable {fs : FileSystem} {g : Grammar Settings Effect}

/-- A line that asks for help leaves the state as it is. -/
theorem runLine_help (g : Grammar Settings Effect) (s : Session) {line : String}
    (h : line.endsWith "?" = true) : (runLine g s line).1 = s := by
  rw [runLine, if_pos h]

/-- Any other line changes the state as it orders. -/
theorem runLine_order (hg : (commands fs).build = .ok g) (s : Session) {line : String}
    (h : line.endsWith "?" = false) :
    (runLine g s line).1 = (order? (texts line)).elim s s.apply := by
  have hchanges := changes_eq hg line (some s.settings)
  rw [runLine, if_neg (ne_true_of_eq_false h)]
  change (g.parse line (some s.settings)).2.effects.foldl .apply s = _
  rw [← foldl_apply_filter, hchanges]
  cases order? (texts line) <;> rfl

theorem runLine_eq_next (hg : (commands fs).build = .ok g) {s : Session} (hs : s.running = true)
    (line : String) : (runLine g s line).1 = s.next line := by
  rw [Session.next, hs, Bool.true_and]
  cases h : line.endsWith "?" with
  | true => exact runLine_help g s h
  | false => exact runLine_order hg s h

/-! ### Runs -/

theorem run_of_not_running {s : Session} (hs : s.running = false) (lines : List String) :
    run g s lines = (s, "") := by
  cases lines with
  | nil => rfl
  | cons line lines => rw [run, hs, if_neg Bool.false_ne_true]

theorem run_cons {s : Session} (hs : s.running = true) (line : String) (lines : List String) :
    run g s (line :: lines) = ((run g (runLine g s line).1 lines).1,
      (runLine g s line).2 ++ (run g (runLine g s line).1 lines).2) := by
  rw [run, if_pos hs]

theorem foldl_next_of_not_running {s : Session} (hs : s.running = false) (lines : List String) :
    lines.foldl Session.next s = s := by
  induction lines with
  | nil => rfl
  | cons line lines ih =>
    have hnext : s.next line = s := by
      rw [Session.next, hs, Bool.false_and, if_neg Bool.false_ne_true]
    rw [List.foldl_cons, hnext, ih]

/-- A run of lines changes the state as the lines order one after the other. -/
theorem run_fst_eq (hg : (commands fs).build = .ok g) (s : Session) (lines : List String) :
    (run g s lines).1 = lines.foldl Session.next s := by
  induction lines generalizing s with
  | nil => rfl
  | cons line lines ih =>
    cases hs : s.running with
    | false => rw [run_of_not_running hs, foldl_next_of_not_running hs]
    | true => rw [run_cons hs, List.foldl_cons, ih, runLine_eq_next hg hs]

/-- Lines are run from the state that the lines before them leave. -/
theorem run_append (s : Session) (front rest : List String) :
    run g s (front ++ rest) = ((run g (run g s front).1 rest).1,
      (run g s front).2 ++ (run g (run g s front).1 rest).2) := by
  induction front generalizing s with
  | nil => exact Prod.ext rfl (String.empty_append).symm
  | cons line front ih =>
    cases hs : s.running with
    | false =>
      rw [run_of_not_running hs, run_of_not_running hs]
      dsimp only
      rw [run_of_not_running hs, String.empty_append]
    | true => rw [List.cons_append, run_cons hs, run_cons hs, ih, String.append_assoc]

theorem running_next_leave (s : Session) {line : String} (hhelp : line.endsWith "?" = false)
    (h : texts line = ["quit"]) : (s.next line).running = false := by
  rw [Session.next, hhelp, h]
  cases hs : s.running with
  | false => exact hs
  | true => rfl

/-- No line behind one that leaves is read. -/
theorem run_leave (hg : (commands fs).build = .ok g) (s : Session) (front : List String)
    {line : String} (hhelp : line.endsWith "?" = false) (h : texts line = ["quit"])
    (rest : List String) :
    run g s (front ++ line :: rest) = run g s (front ++ [line]) := by
  have hstopped : (run g s (front ++ [line])).1.running = false := by
    rw [run_fst_eq hg, List.foldl_append]
    exact running_next_leave _ hhelp h
  rw [List.append_cons, run_append, run_of_not_running hstopped, String.append_empty]

end

/-- A line that asks for help changes nothing. Any other line changes what its tokens order, and
nothing else: the level, the debug switch, or that the shell is running. A session is told by what
its lines order one after the other, and no line behind one that leaves is read. A line that looks
up an address reaches its action if and only if the debug switch is on. -/
theorem run_changes_as_ordered (fs : FileSystem) : ∃ g, (commands fs).build = .ok g ∧
    (∀ s line, line.endsWith "?" = true → (runLine g s line).1 = s) ∧
    (∀ s line, line.endsWith "?" = false →
      (g.parse line (some s.settings)).2.effects.filter (·.changes) = (order? (texts line)).toList ∧
      (runLine g s line).1 = (order? (texts line)).elim s s.apply) ∧
    (∀ lines, (run g .start lines).1 = lines.foldl Session.next .start) ∧
    (∀ front line rest, line.endsWith "?" = false → texts line = ["quit"] →
      run g .start (front ++ line :: rest) = run g .start (front ++ [line])) ∧
    ∀ (s : Session) line t v, texts line = ["resolve", t] → Kind.address.parse t = .ok v →
      (((g.check line (some s.settings)).action.bind g.node?).map (·.path) =
        some "/resolve/address/@0" ↔ s.settings.debug = true) := by
  obtain ⟨g, hg⟩ := exists_build fs
  refine ⟨g, hg, fun s line h => runLine_help g s h, fun s line h => ⟨?_, ?_⟩, run_fst_eq hg .start,
    fun front line rest hhelp h => run_leave hg .start front hhelp h rest,
    fun s line t v h hparse => ?_⟩
  · exact changes_eq hg line _
  · exact runLine_order hg s h
  · exact resolve_iff hg h hparse

theorem run_changes_as_ordered_quit :
    ∃ g, (commands (.ofPaths [] [] none)).build = .ok g ∧
      (runLine g .start "set level 7 ?").1 = .start ∧
      (runLine g .start "set level -7").1 = ⟨true, -7, false⟩ ∧
      run g .start ["set level 7", "set debug ON", "quit", "set level 8"] =
        run g .start ["set level 7", "set debug ON", "quit"] ∧
      (run g .start ["set level 7", "set debug ON", "quit", "set level 8"]).1 =
        ⟨false, 7, true⟩ ∧
      ((g.check "resolve ::1" (some ⟨7, true⟩)).action.bind g.node?).map (·.path) =
        some "/resolve/address/@0" ∧
      ((g.check "resolve ::1" (some ⟨7, false⟩)).action.bind g.node?).map (·.path) ≠
        some "/resolve/address/@0" := by
  obtain ⟨g, hg, hhelp, horder, hrun, hleave, hresolve⟩ :=
    run_changes_as_ordered (.ofPaths [] [] none)
  have htexts : texts "resolve ::1" = ["resolve", "::1"] := by decide +kernel
  obtain ⟨v, haddress⟩ : ∃ v, Kind.address.parse "::1" = .ok v := by
    have hsome : (Kind.address.parse "::1").toOption.isSome = true := by decide +kernel
    cases h : Kind.address.parse "::1" with
    | ok v => exact ⟨v, rfl⟩
    | error e =>
      rw [h] at hsome
      cases hsome
  have hiff (s : Session) := hresolve s "resolve ::1" "::1" v htexts haddress
  refine ⟨g, hg, hhelp .start _ (by decide +kernel), ?_, ?_, ?_, (hiff ⟨true, 7, true⟩).mpr rfl, ?_⟩
  · rw [(horder .start "set level -7" (by decide +kernel)).2]
    decide +kernel
  · exact hleave ["set level 7", "set debug ON"] "quit" ["set level 8"] (by decide +kernel)
      (by decide +kernel)
  · rw [hrun]
    decide +kernel
  · exact fun h => Bool.false_ne_true ((hiff ⟨true, 7, false⟩).mp h)

end CommandGrammar.Shell
