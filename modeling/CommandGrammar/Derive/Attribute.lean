import CommandGrammar.Derive.Expression
import CommandGrammar.Derive.StringLiteral

/-! Attributes of fields. Those with the path `cly` say under which name a field's variable is
looked up, and what the field is when there is no such variable. -/

namespace CommandGrammar.Derive

structure AttributePath where
  absolute : Bool
  names : List String
  deriving DecidableEq, Repr

/-- The only name of a path. -/
def AttributePath.name? (p : AttributePath) : Option String :=
  match p.absolute, p.names with
  | false, [name] => some name
  | _, _ => none

/-- An attribute: its path, and the tokens behind it. -/
structure Attribute where
  path : AttributePath
  tokens : List TokenTree

inductive AttributeLiteral where
  | text (text : String)
  | other
  deriving DecidableEq, Repr

/-- What an attribute says. -/
inductive Meta where
  | literal (l : AttributeLiteral)
  | path (p : AttributePath)
  | nameValue (p : AttributePath) (l : AttributeLiteral)
  | list (p : AttributePath) (items : List Meta)

namespace Meta

/-- The error that something else is wanted in front of the tokens. -/
def fail {α : Type} (ts : List TokenTree) (what : String) : Except SyntaxError α :=
  .error (.expected what ts.isEmpty)

def literalOf (text : String) : AttributeLiteral :=
  match StringLiteral.value? text with
  | some value => .text value
  | none => .other

/-- A literal in front of the tokens. A minus sign belongs to a number. -/
def literal? : List TokenTree → Option (AttributeLiteral × List TokenTree)
  | .literal text :: rest => some (literalOf text, rest)
  | .ident "true" :: rest => some (.other, rest)
  | .ident "false" :: rest => some (.other, rest)
  | .punct '-' _ :: .literal text :: rest =>
    if text.toList.head?.any Char.isDigit then some (.other, rest) else none
  | _ => none

/-- The names of a path, of which those before are given. -/
def readNames (names : List String) :
    List TokenTree → Except SyntaxError (List String × List TokenTree)
  | .ident name :: .punct ':' true :: .punct ':' _ :: rest => readNames (names ++ [name]) rest
  | .ident name :: rest => .ok (names ++ [name], rest)
  | ts => if names.isEmpty then fail ts "path" else fail ts "path segment"

def readPath (ts : List TokenTree) : Except SyntaxError (AttributePath × List TokenTree) :=
  match TokenTree.dropOperator? [':', ':'] ts with
  | some rest => (readNames [] rest).map fun (names, rest) => (⟨true, names⟩, rest)
  | none => (readNames [] ts).map fun (names, rest) => (⟨false, names⟩, rest)

/-- Whether the tokens start with a word or with a double colon and a word. -/
def seesPath : List TokenTree → Bool
  | .ident _ :: _ => true
  | .punct ':' true :: .punct ':' _ :: .ident _ :: _ => true
  | _ => false

/-- Whether the tokens start with a literal that is not the name of a value. -/
def seesLiteral (ts : List TokenTree) : Bool :=
  match ts with
  | .ident _ :: .punct '=' _ :: _ => false
  | ts => (literal? ts).isSome

mutual

/-- What follows a path. In all of these functions the number bounds the tokens still to come. -/
def readBehind : Nat → AttributePath → List TokenTree →
    Except SyntaxError (Meta × List TokenTree)
  | n + 1, p, .group .parentheses inner :: rest => do return (.list p (← readItems n inner), rest)
  | _, p, .punct '=' _ :: rest =>
    match literal? rest with
    | some (l, rest) => .ok (.nameValue p l, rest)
    | none => fail rest "literal"
  | _, p, rest => .ok (.path p, rest)

def readItems : Nat → List TokenTree → Except SyntaxError (List Meta)
  | _, [] => .ok []
  | 0, ts => fail ts "identifier or literal"
  | n + 1, ts => do
    let (item, rest) ← readItem n ts
    match rest with
    | [] => return [item]
    | .punct ',' _ :: rest => return item :: (← readItems n rest)
    | rest => fail rest "\x60,\x60"

def readItem : Nat → List TokenTree → Except SyntaxError (Meta × List TokenTree)
  | n, ts =>
    if seesLiteral ts then
      match literal? ts with
      | some (l, rest) => .ok (.literal l, rest)
      | none => fail ts "literal"
    else if seesPath ts then
      match n with
      | 0 => fail ts "path"
      | n + 1 => do
        let (p, rest) ← readPath ts
        readBehind n p rest
    else fail ts "identifier or literal"

end

end Meta

def Attribute.read (a : Attribute) : Except SyntaxError Meta := do
  let size := 2 * TokenTree.sizeOfList a.tokens + 2
  match ← Meta.readBehind size a.path a.tokens with
  | (m, []) => return m
  | (_, _ :: _) => .error .unexpectedToken

/-! ### Settings of a field -/

/-- What a field is when there is no variable for it: the default of its type, or the value of an
expression. -/
inductive FieldDefault where
  | ofType
  | expression (tokens : List TokenTree)

structure FieldSettings where
  rename : Option String
  fallback : Option FieldDefault

namespace FieldSettings

def none : FieldSettings := ⟨.none, .none⟩

/-- Sets the default, which can be done only once. -/
def setFallback (s : FieldSettings) (d : FieldDefault) : Except DeriveError FieldSettings :=
  if s.fallback.isSome then .error .duplicateDefault else .ok { s with fallback := some d }

/-- The text of a literal, which must be a string. -/
def stringOf : AttributeLiteral → Except DeriveError String
  | .text text => .ok text
  | .other => .error .expectedString

/-- Adds what one item of an attribute says. -/
def add (s : FieldSettings) : Meta → Except DeriveError FieldSettings
  | .literal _ => .error .unexpectedLiteral
  | .path p =>
    if p.name? == some "default" then s.setFallback .ofType
    else .error (.unknownAttribute p.name?)
  | .nameValue p l =>
    if p.name? == some "rename" then
      if s.rename.isSome then .error .duplicateRename
      else do
        let name ← stringOf l
        if name.isEmpty then .error .emptyName else return { s with rename := some name }
    else if p.name? == some "default" then do
      let source ← stringOf l
      s.setFallback (.expression (← (readExpression source).mapError .malformed))
    else .error (.unknownAttribute p.name?)
  | .list p _ => .error (.unknownAttribute p.name?)

/-- Adds what one attribute says. Attributes with other paths say nothing. -/
def addAttribute (s : FieldSettings) (a : Attribute) : Except DeriveError FieldSettings :=
  if a.path.name? == some "cly" then do
    match ← a.read.mapError .malformed with
    | .list _ items => items.foldlM add s
    | .nameValue .. => .error .keyValueStyle
    | _ => .error .missingParameters
  else .ok s

def ofAttributes (attributes : List Attribute) : Except DeriveError FieldSettings :=
  attributes.foldlM addAttribute none

end FieldSettings

end CommandGrammar.Derive
