import CommandGrammar.Proofs.Place

/-! What a declaration lists. Read from front to back, with the groups taken away and the merges at
the end, the declaration of a grammar is a list of nodes and aliases. Each of them stands at a
place: below the node that it is declared in, under the name that it is given or under one that is
made up. The list is made without any check, so that it can be said of it what is wrong with a
declaration. -/

namespace CommandGrammar

variable {σ ε : Type}

/-! ### Entries -/

/-- What is declared at a place: a node, with what the groups around it give to it, or an alias. -/
inductive Item (σ ε : Type) where
  | node (decl : NodeDecl σ ε) (inherited : Inherited σ)
  | link (decl : AliasDecl)

/-- The name that the declaration gives, if it gives one. -/
def Item.name? : Item σ ε → Option String
  | node decl _ => decl.name
  | link decl => decl.name

/-- A node or an alias, and the place of the node that it is declared in. -/
structure Entry (σ ε : Type) where
  parent : List String
  name : String
  item : Item σ ε

namespace Entry

/-- The names on the way from the root to what is declared. -/
def place (e : Entry σ ε) : List String := e.parent ++ [e.name]

def isNode (e : Entry σ ε) : Bool :=
  match e.item with
  | .node _ _ => true
  | .link _ => false

def isAction (e : Entry σ ε) : Bool :=
  match e.item with
  | .node decl _ => Draft.declaresAction decl
  | .link _ => false

def label? (e : Entry σ ε) : Option String :=
  match e.item with
  | .node decl _ => decl.label
  | .link _ => none

/-- The alias that has to be resolved. -/
def pending? (e : Entry σ ε) : Option PendingAlias :=
  match e.item with
  | .node _ _ => none
  | .link decl => some ⟨Place.path e.place, decl.target⟩

/-- The pattern can be read and is not too large, if what is declared needs one. -/
def HasPattern [PatternDialect] (e : Entry σ ε) : Prop :=
  match e.item with
  | .node decl _ => Draft.declaresAction decl = false →
      (Pattern.new? (Draft.patternSource decl e.name)).isSome = true
  | .link _ => True

end Entry

/-- The entries of a declaration in order. -/
abbrev Listing (σ ε : Type) := List (Entry σ ε)

namespace Listing

/-! ### Looking things up -/

/-- What is declared in the node at a place. -/
def under (l : Listing σ ε) (place : List String) : Listing σ ε := l.filter (·.parent == place)

/-- The nodes without the aliases. -/
def nodes (l : Listing σ ε) : Listing σ ε := l.filter (·.isNode)

/-- The places of all nodes, that of the root first. -/
def places (l : Listing σ ε) : List (List String) := [] :: l.nodes.map (·.place)

/-- How many of the names in a node are made up. -/
def unnamed (l : Listing σ ε) (place : List String) : Nat :=
  (l.under place).countP (·.item.name?.isNone)

/-- The labels, each with the place of its node. -/
def labels (l : Listing σ ε) : List (String × List String) :=
  l.filterMap fun e => e.label?.map (·, e.place)

/-- The place of the node with a label. -/
def labelled? (l : Listing σ ε) (label : String) : Option (List String) := l.labels.lookup label

/-- Whether the node at a place is an action. -/
def isAction (l : Listing σ ε) (place : List String) : Bool :=
  l.any fun e => e.place == place && e.isAction

/-- The place of the node with a label, or else of the one to which a path leads from the given
place. -/
def locate? (l : Listing σ ε) (base : List String) (target : String) : Option (List String) :=
  match l.labelled? target with
  | some place => some place
  | none =>
    let place := base ++ Outline.segments target
    if place ∈ l.places then some place else none

/-- The place at which a merge adds its elements. Nothing is added to an action. -/
def mergePlace? (l : Listing σ ε) (base : List String) (target : String) : Option (List String) :=
  (l.locate? base target).filter (!l.isAction ·)

/-! ### Making the list -/

/-- The name of a new child or alias of the node at a place. -/
def chosenName (l : Listing σ ε) (place : List String) (name : Option String) : String :=
  name.getD ("@" ++ toString (l.unnamed place))

/-- The list with one more entry. -/
def add (l : Listing σ ε) (place : List String) (item : Item σ ε) : Listing σ ε :=
  l ++ [⟨place, l.chosenName place item.name?, item⟩]

mutual

/-- The list with an element declared in the node at a place, and with all that is declared in the
element. -/
def addElement (place : List String) (inherited : Inherited σ) (l : Listing σ ε) :
    Element σ ε → Listing σ ε
  | .node decl elements =>
    addElements (place ++ [l.chosenName place decl.name]) inherited
      (l.add place (.node decl inherited)) elements
  | .link decl => l.add place (.link decl)
  | .group decl elements => addElements place (inherited.inside decl) l elements

def addElements (place : List String) (inherited : Inherited σ) (l : Listing σ ε) :
    List (Element σ ε) → Listing σ ε
  | [] => l
  | e :: es => addElements place inherited (addElement place inherited l e) es

end

mutual

/-- The list with the elements of a merge, whose target is seen from the node at a place. A target
that is no node changes nothing. -/
def addMerge (base : List String) (l : Listing σ ε) : Merge σ ε → Listing σ ε
  | .into target elements merges =>
    match l.mergePlace? base target with
    | none => l
    | some place => addMerges place (addElements place ⟨none, none, []⟩ l elements) merges

def addMerges (base : List String) (l : Listing σ ε) : List (Merge σ ε) → Listing σ ε
  | [] => l
  | m :: ms => addMerges base (addMerge base l m) ms

end

/-- The target of a merge, what is listed when it is looked up, and the place from which it is. -/
structure Search (σ ε : Type) where
  listing : Listing σ ε
  base : List String
  target : String

/-- The target is a node to which elements can be added. -/
def Search.Succeeds (s : Search σ ε) : Prop := (s.listing.mergePlace? s.base s.target).isSome = true

mutual

/-- The targets that are looked up for a merge. -/
def searches (base : List String) (l : Listing σ ε) : Merge σ ε → List (Search σ ε)
  | .into target elements merges =>
    ⟨l, base, target⟩ ::
      match l.mergePlace? base target with
      | none => []
      | some place => searchesAll place (addElements place ⟨none, none, []⟩ l elements) merges

def searchesAll (base : List String) (l : Listing σ ε) : List (Merge σ ε) → List (Search σ ε)
  | [] => []
  | m :: ms => searches base l m ++ searchesAll base (addMerge base l m) ms

end

/-! ### The targets of aliases -/

/-- The place from which the target of an alias at a place is followed, and what is followed from
there. A target with a slash in front is followed from the root, one that starts with a label from
the labelled node, and any other from the place of the alias itself. -/
def origin (l : Listing σ ε) (place : List String) (target : String) : List String × String :=
  if target.startsWith "/" then ([], target)
  else
    match l.labelled? (PendingAlias.splitFirst target).1 with
    | some labelled => (labelled, (PendingAlias.splitFirst target).2)
    | none => (place, target)

/-- The names from the root that an alias at a place denotes. -/
def denoted (l : Listing σ ε) (place : List String) (target : String) : List String :=
  Place.follow (l.origin place target).1 (l.origin place target).2

/-- The names are those of a node, or else the last of them is a pattern that can be read and the
others are the names of a node. -/
def Resolves (l : Listing σ ε) (names : List String) : Prop :=
  match names.getLast? with
  | some last =>
    if PendingAlias.isGlob last then
      (∃ glob, Glob.read last = .ok glob) ∧ names.dropLast ∈ l.places
    else names ∈ l.places
  | none => True

theorem resolves_iff_of_isGlob {l : Listing σ ε} {names : List String} {last : String}
    (hlast : names.getLast? = some last) (hglob : PendingAlias.isGlob last = true) :
    l.Resolves names ↔ (∃ glob, Glob.read last = .ok glob) ∧ names.dropLast ∈ l.places := by
  rw [Resolves, hlast]
  dsimp only
  rw [if_pos hglob]

theorem resolves_iff_of_not_isGlob {l : Listing σ ε} {names : List String} {last : String}
    (hlast : names.getLast? = some last) (hglob : ¬PendingAlias.isGlob last = true) :
    l.Resolves names ↔ names ∈ l.places := by
  rw [Resolves, hlast]
  dsimp only
  rw [if_neg hglob]

/-! ### Entries that are added -/

@[simp]
theorem under_append (l m : Listing σ ε) (place : List String) :
    (l ++ m : Listing σ ε).under place = l.under place ++ m.under place := List.filter_append _ _

@[simp]
theorem nodes_append (l m : Listing σ ε) : (l ++ m : Listing σ ε).nodes = l.nodes ++ m.nodes :=
  List.filter_append _ _

theorem places_append (l m : Listing σ ε) :
    (l ++ m : Listing σ ε).places = l.places ++ m.nodes.map (·.place) := by
  rw [places, nodes_append, List.map_append]
  rfl

theorem labels_append (l m : Listing σ ε) :
    (l ++ m : Listing σ ε).labels = l.labels ++ m.labels := List.filterMap_append

/-- What is listed stays listed. -/
theorem prefix_add (l : Listing σ ε) (place : List String) (item : Item σ ε) :
    l <+: l.add place item := List.prefix_append _ _

mutual

theorem prefix_addElement (place : List String) (inherited : Inherited σ) (l : Listing σ ε)
    (e : Element σ ε) : l <+: addElement place inherited l e := by
  cases e with
  | node decl elements =>
    rw [addElement]
    exact (prefix_add _ _ _).trans (prefix_addElements _ _ _ elements)
  | link decl => rw [addElement]; exact prefix_add _ _ _
  | group decl elements => rw [addElement]; exact prefix_addElements _ _ _ elements

theorem prefix_addElements (place : List String) (inherited : Inherited σ) (l : Listing σ ε)
    (es : List (Element σ ε)) : l <+: addElements place inherited l es := by
  cases es with
  | nil => exact List.prefix_rfl
  | cons e es =>
    rw [addElements]
    exact (prefix_addElement _ _ _ e).trans (prefix_addElements _ _ _ es)

end

mutual

theorem prefix_addMerge (base : List String) (l : Listing σ ε) (m : Merge σ ε) :
    l <+: addMerge base l m := by
  cases m with
  | into target elements merges =>
    rw [addMerge]
    split
    · exact List.prefix_rfl
    · exact (prefix_addElements _ _ _ elements).trans (prefix_addMerges _ _ merges)

theorem prefix_addMerges (base : List String) (l : Listing σ ε) (ms : List (Merge σ ε)) :
    l <+: addMerges base l ms := by
  cases ms with
  | nil => exact List.prefix_rfl
  | cons m ms =>
    rw [addMerges]
    exact (prefix_addMerge _ _ m).trans (prefix_addMerges _ _ ms)

end

/-! ### What can be wrong with the entries -/

/-- The error tells of an entry that cannot be added to the others. -/
def Clash [PatternDialect] (l : Listing σ ε) : GrammarError → Prop
  | .invalidName parent name =>
    ∃ e ∈ l, Place.path e.parent = parent ∧ e.item.name? = some name ∧ ¬IsName name
  | .duplicateChild parent name =>
    ∃ place, Place.path place = parent ∧ 1 < ((l.under place).map (·.name)).count name
  | .duplicateLabel label path =>
    1 < (l.labels.map (·.1)).count label ∧
      ∃ place, l.labelled? label = some place ∧ Place.path place = path
  | .invalidPattern path => ∃ e ∈ l, Place.path e.place = path ∧ ¬e.HasPattern
  | _ => False

/-- What is wrong with some of the entries is wrong with all of them. -/
theorem Clash.mono [PatternDialect] {l m : Listing σ ε} {error : GrammarError} (h : l.Clash error)
    (hm : l <+: m) :
    m.Clash error := by
  obtain ⟨rest, rfl⟩ := hm
  cases error with
  | invalidName parent name =>
    obtain ⟨e, he, h⟩ := h
    exact ⟨e, List.mem_append_left _ he, h⟩
  | duplicateChild parent name =>
    obtain ⟨place, hplace, hcount⟩ := h
    refine ⟨place, hplace, ?_⟩
    rw [under_append, List.map_append, List.count_append]
    omega
  | duplicateLabel label path =>
    obtain ⟨hcount, place, hlabel, hplace⟩ := h
    refine ⟨?_, place, ?_, hplace⟩
    · rw [labels_append, List.map_append, List.count_append]
      omega
    · rw [labelled?, labels_append, List.lookup_append]
      exact Option.or_of_isSome (Option.isSome_of_eq_some hlabel) ▸ hlabel
  | invalidPattern path =>
    obtain ⟨e, he, h⟩ := h
    exact ⟨e, List.mem_append_left _ he, h⟩
  | _ => exact h.elim

end Listing

/-! ### Declarations of grammars -/

namespace Builder

/-- What the declaration lists. -/
def listing (b : Builder σ ε) : Listing σ ε :=
  Listing.addMerges [] (Listing.addElements [] ⟨none, none, []⟩ [] b.elements) b.merges

/-- The targets that are looked up for the merges. -/
def searches (b : Builder σ ε) : List (Listing.Search σ ε) :=
  Listing.searchesAll [] (Listing.addElements [] ⟨none, none, []⟩ [] b.elements) b.merges

/-- Nothing is wrong with the declaration. -/
structure WellDeclared [PatternDialect] (b : Builder σ ε) : Prop where
  names : ∀ e ∈ b.listing, ∀ name ∈ e.item.name?, IsName name
  distinct : ∀ place, ((b.listing.under place).map (·.name)).Nodup
  labels : (b.listing.labels.map (·.1)).Nodup
  patterns : ∀ e ∈ b.listing, e.HasPattern
  merges : ∀ s ∈ b.searches, s.Succeeds
  aliases : ∀ e ∈ b.listing, ∀ decl, e.item = .link decl →
    b.listing.Resolves (b.listing.denoted e.place decl.target)

/-- What an error tells about a declaration. -/
def Fault [PatternDialect] (b : Builder σ ε) : GrammarError → Prop
  | .mergeTarget target => ∃ s ∈ b.searches, s.target = target ∧ ¬s.Succeeds
  | .unresolvedAlias path target =>
    ∃ e ∈ b.listing, ∃ decl, e.item = .link decl ∧ Place.path e.place = path ∧
      target = "/" ++ "/".intercalate (b.listing.denoted e.place decl.target) ∧
      ¬b.listing.Resolves (b.listing.denoted e.place decl.target)
  | .invalidGlob pattern error =>
    ∃ e ∈ b.listing, ∃ decl last, e.item = .link decl ∧ decl.target = pattern ∧
      (b.listing.denoted e.place decl.target).getLast? = some last ∧
      PendingAlias.isGlob last = true ∧ Glob.read last = .error error
  | error => b.listing.Clash error

end Builder

end CommandGrammar
