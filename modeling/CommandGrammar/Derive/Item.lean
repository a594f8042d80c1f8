import CommandGrammar.Derive.Attribute

/-! Items of source code: a struct's name, its parameters and its fields. Items are taken to be
valid, so that only what is needed is looked at. -/

namespace CommandGrammar.Derive

/-- What a parameter of a generic type stands for. -/
inductive ParameterKind where
  | lifetime (bounds : List TokenTree)
  | type (bounds : List TokenTree)
  | const (type : List TokenTree)

structure Parameter where
  attributes : List TokenTree
  name : List TokenTree
  kind : ParameterKind
  /-- Whether a comma follows. -/
  comma : Bool

structure FieldItem where
  attributes : List Attribute
  name : String

inductive ItemBody where
  | unit
  | named (fields : List FieldItem)
  | tuple
  | notStruct

structure Item where
  name : String
  parameters : List Parameter
  /-- The conditions on parameters, or nothing if there are none. -/
  conditions : List TokenTree
  body : ItemBody

namespace Item

/-! ### Splitting -/

/-- The change of depth that a token makes. An arrow closes no bracket. -/
def depthBehind (depth : Nat) (before : Option TokenTree) (t : TokenTree) : Nat :=
  let isArrow := before.any fun b => b.isJoined && (b.isPunct '-' || b.isPunct '=')
  if t.isPunct '<' then depth + 1
  else if t.isPunct '>' && !isArrow then depth - 1
  else depth

/-- The tokens up to the one at which the test holds outside of angle brackets, and those from it
on. -/
def spanOutside (stop : TokenTree → Bool) :
    Nat → Option TokenTree → List TokenTree → List TokenTree × List TokenTree
  | _, _, [] => ([], [])
  | depth, before, t :: ts =>
    if depth == 0 && stop t then ([], t :: ts)
    else
      let (inner, rest) := spanOutside stop (depthBehind depth before t) (some t) ts
      (t :: inner, rest)

/-- The pieces between commas outside of angle brackets, each with whether a comma follows. -/
def splitCommas : Nat → List TokenTree → List (List TokenTree × Bool)
  | 0, _ => []
  | _, [] => []
  | n + 1, ts =>
    match spanOutside (·.isPunct ',') 0 none ts with
    | (piece, _ :: rest) => (piece, true) :: splitCommas n rest
    | (piece, []) => [(piece, false)]

/-! ### Attributes and visibility -/

def attributeOf (inner : List TokenTree) : Attribute :=
  match Meta.readPath inner with
  | .ok (p, rest) => ⟨p, rest⟩
  | .error _ => ⟨⟨false, []⟩, inner⟩

def takeAttributes : List TokenTree → List Attribute × List TokenTree
  | .punct '#' _ :: .group .brackets inner :: ts =>
    let (attributes, rest) := takeAttributes ts
    (attributeOf inner :: attributes, rest)
  | ts => ([], ts)

/-- The tokens of the attributes in front, as they are printed. -/
def takeAttributeTokens : List TokenTree → List TokenTree × List TokenTree
  | .punct '#' _ :: .group .brackets inner :: ts =>
    let (tokens, rest) := takeAttributeTokens ts
    (.punct '#' false :: .group .brackets inner :: tokens, rest)
  | ts => ([], ts)

def dropVisibility : List TokenTree → List TokenTree
  | .ident "pub" :: .group .parentheses inner :: ts =>
    if inner.head?.any fun t => ["crate", "self", "super", "in"].any fun w => t.isWord w then ts
    else .group .parentheses inner :: ts
  | .ident "pub" :: ts => ts
  | .ident "crate" :: ts => ts
  | ts => ts

/-! ### Parameters -/

/-- The tokens behind a colon, up to an equals sign, as they stand in types. -/
def boundsOf (ts : List TokenTree) : List TokenTree :=
  match ts with
  | .punct ':' _ :: rest => TokenTree.allInType (spanOutside (·.isPunct '=') 0 none rest).1
  | _ => []

def parameter (piece : List TokenTree × Bool) : Parameter :=
  let (attributes, ts) := takeAttributeTokens piece.1
  match ts with
  | .punct '\'' _ :: .ident name :: rest =>
    ⟨attributes, [.punct '\'' true, .ident name], .lifetime (boundsOf rest), piece.2⟩
  | .ident "const" :: name :: rest => ⟨attributes, [name], .const (boundsOf rest), piece.2⟩
  | name :: rest => ⟨attributes, [name], .type (boundsOf rest), piece.2⟩
  | [] => ⟨attributes, [], .type [], piece.2⟩

def takeParameters (ts : List TokenTree) : List Parameter × List TokenTree :=
  match ts with
  | .punct '<' _ :: ts =>
    let (inner, rest) := spanOutside (·.isPunct '>') 0 none ts
    ((splitCommas inner.length inner).map parameter, rest.tail)
  | ts => ([], ts)

/-! ### Fields -/

def field (piece : List TokenTree × Bool) : Option FieldItem :=
  let (attributes, ts) := takeAttributes piece.1
  match dropVisibility ts with
  | .ident name :: _ => some ⟨attributes, name⟩
  | _ => none

/-- The conditions and the body behind a struct's parameters. -/
def structBody (ts : List TokenTree) : List TokenTree × ItemBody :=
  match ts with
  | .group .parentheses _ :: _ => ([], .tuple)
  | ts =>
    let isBody := fun (t : TokenTree) => match t with
      | .group .braces _ => true
      | .punct ';' _ => true
      | _ => false
    let conditions := ts.takeWhile (!isBody ·)
    let printed := if conditions.length ≤ 1 then [] else TokenTree.allInType conditions
    match ts.drop conditions.length with
    | .group .braces inner :: _ =>
      (printed, .named ((splitCommas inner.length inner).filterMap field))
    | _ => (printed, .unit)

def ofTokens (ts : List TokenTree) : Option Item :=
  match dropVisibility (takeAttributes ts).2 with
  | .ident word :: .ident name :: rest =>
    let (parameters, rest) := takeParameters rest
    if word == "struct" then
      let (conditions, body) := structBody rest
      some ⟨name, parameters, conditions, body⟩
    else if word == "enum" || word == "union" then some ⟨name, parameters, [], .notStruct⟩
    else none
  | _ => none

end Item

end CommandGrammar.Derive
