import CommandGrammar.Derive.Error
import CommandGrammar.Derive.Lexer

/-! Expressions in source code: literals, paths, calls, fields, indices, casts and operators.
Reading one gives back its tokens, with the characters of each operator joined and no others.

The reader takes tokens from the front and keeps what it has accepted. Tokens left over in a group
are noticed only at the end. -/

namespace CommandGrammar.Derive

/-- Where a reader of expressions is. -/
structure ExpressionReader where
  rest : List TokenTree
  accepted : List TokenTree
  leftover : Bool

namespace ExpressionReader

/-- The words that cannot be names. -/
def keywords : List String :=
  ["_", "abstract", "as", "become", "box", "break", "const", "continue", "crate", "do", "else",
    "enum", "extern", "false", "final", "fn", "for", "if", "impl", "in", "let", "loop", "macro",
    "match", "mod", "move", "mut", "override", "priv", "pub", "ref", "return", "Self", "self",
    "static", "struct", "super", "trait", "true", "type", "typeof", "unsafe", "unsized", "use",
    "virtual", "where", "while", "yield"]

/-- The operators between two expressions, longer ones first. -/
def binaryOperators : List String :=
  ["&&", "||", "<<", ">>", "==", "<=", "!=", ">=", "+", "-", "*", "/", "%", "^", "&", "|", "<", ">"]

/-- The error that something else is wanted here. -/
def fail {α : Type} (r : ExpressionReader) (what : String) : Except SyntaxError α :=
  .error (.expected what r.rest.isEmpty)

/-- Accepts tokens and goes on with the rest. -/
def accept (r : ExpressionReader) (ts rest : List TokenTree) : ExpressionReader :=
  { r with accepted := r.accepted ++ ts, rest }

def operator? (r : ExpressionReader) (op : String) : Option ExpressionReader :=
  (TokenTree.dropOperator? op.toList r.rest).map fun rest =>
    r.accept (TokenTree.operator op.toList) rest

def operator (r : ExpressionReader) (op : String) : Except SyntaxError ExpressionReader :=
  match r.operator? op with
  | some r => .ok r
  | none => r.fail ("\x60" ++ op ++ "\x60")

def sees (r : ExpressionReader) (op : String) : Bool := TokenTree.startsWith op r.rest

def word? (r : ExpressionReader) (w : String) : Option ExpressionReader :=
  match r.rest with
  | .ident name :: rest => if name == w then some (r.accept [.ident name] rest) else none
  | _ => none

def name (r : ExpressionReader) : Except SyntaxError ExpressionReader :=
  match r.rest with
  | .ident n :: rest =>
    if keywords.contains n then r.fail "identifier" else .ok (r.accept [.ident n] rest)
  | _ => r.fail "identifier"

def lifetime? (r : ExpressionReader) : Option ExpressionReader :=
  match r.rest with
  | .punct '\'' _ :: .ident n :: rest => some (r.accept [.punct '\'' true, .ident n] rest)
  | _ => none

def seesPath (r : ExpressionReader) : Bool :=
  r.sees "::" || r.sees "<" ||
    match r.rest with
    | .ident n :: _ => !keywords.contains n || ["self", "Self", "super", "crate"].contains n
    | _ => false

def seesLiteral (r : ExpressionReader) : Bool :=
  match r.rest with
  | .literal _ :: _ => true
  | .ident n :: _ => n == "true" || n == "false"
  | _ => false

def isPlainNumber (text : List Char) : Bool :=
  !text.isEmpty && text.all fun c => c.isDigit || c == '_'

/-- Accepts the name or the number of a field. Two numbers with a point between may be one
token. -/
def member (r : ExpressionReader) : Except SyntaxError ExpressionReader :=
  match r.rest with
  | .literal text :: rest =>
    let parts := text.toList.splitOn '.'
    if parts.all isPlainNumber then
      let tokens := (parts.map fun p => TokenTree.literal (String.ofList p)).intersperse
        (.punct '.' false)
      .ok (r.accept tokens rest)
    else r.fail "identifier or integer"
  | .ident n :: _ => if keywords.contains n then r.fail "identifier or integer" else r.name
  | _ => r.fail "identifier or integer"

/-- What stands behind a cast and cannot stand there. -/
def afterCast? (r : ExpressionReader) : Option String :=
  if r.sees "." && !r.sees ".." then
    match r.rest with
    | _ :: .ident "await" :: _ => some "\x60.await\x60"
    | _ :: .ident _ :: .group .parentheses _ :: _ => some "a method call"
    | _ :: .ident _ :: .punct ':' true :: _ => some "a method call"
    | _ => some "a field access"
  else if r.sees "?" then some "\x60?\x60"
  else
    match r.rest with
    | .group .brackets _ :: _ => some "indexing"
    | .group .parentheses _ :: _ => some "a function call"
    | _ => none

/-- A reader of the tokens in a group. -/
def within (ts : List TokenTree) : ExpressionReader := ⟨ts, [], false⟩

/-- Goes on behind a group whose tokens another reader has read. -/
def leave (r : ExpressionReader) (delimiter : Delimiter) (inner : ExpressionReader)
    (rest : List TokenTree) : ExpressionReader :=
  { accepted := r.accepted ++ [.group delimiter inner.accepted]
    rest
    leftover := r.leftover || inner.leftover || !inner.rest.isEmpty }

/-- Reads things with commas between, up to the end of the tokens. -/
def separated (read : ExpressionReader → Except SyntaxError ExpressionReader) :
    Nat → ExpressionReader → Except SyntaxError ExpressionReader
  | 0, r => .ok r
  | n + 1, r => do
    if r.rest.isEmpty then return r
    let r ← read r
    if r.rest.isEmpty then return r
    separated read n (← r.operator ",")

mutual

/-- Reads a type. In all of these functions the number bounds the depth of what is read. -/
def type : Nat → ExpressionReader → Except SyntaxError ExpressionReader
  | 0, r => r.fail "type"
  | n + 1, r =>
    match r.rest with
    | .group .parentheses inner :: rest => do
      let inner ← separated (type n) inner.length (within inner)
      return r.leave .parentheses inner rest
    | .group .brackets inner :: rest => do
      let element ← type n (within inner)
      match element.operator? ";" with
      | some length => return r.leave .brackets (← expression n length) rest
      | none => return r.leave .brackets element rest
    | .ident "_" :: rest => .ok (r.accept [.ident "_"] rest)
    | _ =>
      match r.operator? "&" with
      | some r =>
        let r := r.lifetime?.getD r
        type n ((r.word? "mut").getD r)
      | none =>
        match r.operator? "*" with
        | some r =>
          match (r.word? "const") <|> (r.word? "mut") with
          | some r => type n r
          | none => r.fail "\x60mut\x60 or \x60const\x60"
        | none =>
          match r.operator? "!" with
          | some r => .ok r
          | none => path n false r

def typeArguments : Nat → ExpressionReader → Except SyntaxError ExpressionReader
  | 0, r => r.fail "\x60>\x60"
  | n + 1, r =>
    match r.operator? ">" with
    | some r => .ok r
    | none => do
      let r ← match r.lifetime? with
        | some r => pure r
        | none =>
          match r.rest with
          | .literal t :: rest => pure (r.accept [.literal t] rest)
          | .group .braces inner :: rest => pure (r.accept [.group .braces inner] rest)
          | .ident b :: .punct '=' false :: rest =>
            type n (r.accept [.ident b, .punct '=' false] rest)
          | _ => type n r
      match r.operator? ">" with
      | some r => return r
      | none => typeArguments n (← r.operator ",")

/-- Reads a part of a path. In an expression the arguments of a generic type stand behind a double
colon. -/
def pathPart : Nat → Bool → ExpressionReader → Except SyntaxError ExpressionReader
  | 0, _, r => r.fail "identifier"
  | n + 1, inExpression, r => do
    match (r.word? "super") <|> (r.word? "self") <|> (r.word? "crate") with
    | some r => return r
    | none =>
      let r ← match r.word? "Self" with
        | some r => pure r
        | none => r.name
      if !inExpression && r.sees "<" && !r.sees "<=" then
        typeArguments n (← r.operator "<")
      else
        match r.operator? "::" with
        | some behind =>
          match behind.operator? "<" with
          | some behind => typeArguments n behind
          | none => return r
        | none => return r

def pathTail : Nat → Bool → ExpressionReader → Except SyntaxError ExpressionReader
  | 0, _, r => .ok r
  | n + 1, inExpression, r =>
    match r.operator? "::" with
    | some behind =>
      match behind.rest with
      | .group .parentheses _ :: _ => .ok r
      | _ => do pathTail n inExpression (← pathPart n inExpression behind)
    | none => .ok r

def path : Nat → Bool → ExpressionReader → Except SyntaxError ExpressionReader
  | 0, _, r => r.fail "identifier"
  | n + 1, inExpression, r =>
    match r.operator? "<" with
    | some r => do
      let r ← type n r
      let r ← match r.word? "as" with
        | some r => path n false r
        | none => pure r
      let r ← r.operator ">"
      let r ← r.operator "::"
      pathTail n inExpression (← pathPart n inExpression r)
    | none => do
      pathTail n inExpression (← pathPart n inExpression ((r.operator? "::").getD r))

def atom : Nat → ExpressionReader → Except SyntaxError ExpressionReader
  | 0, r => r.fail "an expression"
  | n + 1, r =>
    match r.rest with
    | [] => r.fail "an expression"
    | .group .parentheses inner :: rest => do
      return r.leave .parentheses (← expression n (within inner)) rest
    | .group .braces inner :: rest =>
      match expression n (within inner) with
      | .ok content =>
        if content.rest.isEmpty then .ok (r.accept [.group .braces inner] rest)
        else .error .unsupportedExpression
      | .error _ => .error .unsupportedExpression
    | t :: rest =>
      if r.seesLiteral then .ok (r.accept [t] rest)
      else if r.seesPath then path n true r
      else .error .unsupportedExpression

def trailers : Nat → ExpressionReader → Except SyntaxError ExpressionReader
  | 0, r => .ok r
  | n + 1, r =>
    match r.rest with
    | .group .parentheses inner :: rest => do
      let arguments ← separated (expression n) inner.length (within inner)
      trailers n (r.leave .parentheses arguments rest)
    | .group .brackets inner :: rest => do
      trailers n (r.leave .brackets (← expression n (within inner)) rest)
    | _ :: .ident "await" :: _ => .ok r
    | _ =>
      if r.sees "." && !r.sees ".." then do trailers n (← (← r.operator ".").member)
      else .ok r

def signed : Nat → ExpressionReader → Except SyntaxError ExpressionReader
  | 0, r => r.fail "an expression"
  | n + 1, r =>
    match (r.operator? "*") <|> (r.operator? "!") <|> (r.operator? "-") with
    | some r => signed n r
    | none => do trailers n (← atom n r)

/-- Reads operators, operands and casts behind an expression. -/
def operations : Nat → ExpressionReader → Except SyntaxError ExpressionReader
  | 0, r => .ok r
  | n + 1, r =>
    match binaryOperators.findSome? r.operator? with
    | some r => do operations n (← signed n r)
    | none =>
      match r.word? "as" with
      | some r => do
        let r ← type n r
        match r.afterCast? with
        | some what => .error (.afterCast what)
        | none => operations n r
      | none => .ok r

def expression : Nat → ExpressionReader → Except SyntaxError ExpressionReader
  | 0, r => r.fail "an expression"
  | n + 1, r => do operations n (← signed n r)

end

end ExpressionReader

/-- The tokens of an expression. -/
def readExpression (source : String) : Except SyntaxError (List TokenTree) :=
  match tokens? source with
  | none => .error .notTokens
  | some ts => do
    let r ← ExpressionReader.expression (8 * TokenTree.sizeOfList ts + 8) (.within ts)
    if r.leftover || !r.rest.isEmpty then .error .unexpectedToken else .ok r.accepted

end CommandGrammar.Derive
