import CommandGrammar.Derive.StringLiteral
import CommandGrammar.Derive.TokenTree
import CommandGrammar.Text.Property.Letter

/-! Splitting Rust source code into tokens. White space and comments are left out, but for comments
with documentation, which stand for attributes. -/

namespace CommandGrammar.Derive

namespace Lexer

/-- White space, and the marks for the direction of a text. -/
def isBlank (c : Char) : Bool := Text.isBlank c || c == '\u200e' || c == '\u200f'

def isIdentStart (c : Char) : Bool :=
  c == '_' || c.isAlpha || (127 < c.toNat && Text.xidStartRanges.contains c.toNat)

def isIdentChar (c : Char) : Bool :=
  c == '_' || c.isAlphanum || (127 < c.toNat && Text.xidContinueRanges.contains c.toNat)

/-! ### Comments -/

/-- Behind a comment in which the given number of further comments is open. -/
def skipComment : Nat → List Char → Option (List Char)
  | _, [] => none
  | 0, '*' :: '/' :: cs => some cs
  | depth + 1, '*' :: '/' :: cs => skipComment depth cs
  | depth, '/' :: '*' :: cs => skipComment (depth + 1) cs
  | depth, _ :: cs => skipComment depth cs

def spanLine : List Char → List Char × List Char
  | [] => ([], [])
  | '\n' :: cs => ([], '\n' :: cs)
  | '\r' :: '\n' :: cs => ([], '\n' :: cs)
  | c :: cs => let (line, rest) := spanLine cs; (c :: line, rest)

/-- The text up to the end of a comment, and what follows the comment. -/
def spanBlock (cs : List Char) : Option (List Char × List Char) :=
  (skipComment 0 cs).map fun rest => (cs.take (cs.length - rest.length - 2), rest)

def hasBareReturn : List Char → Bool
  | [] => false
  | '\r' :: '\n' :: cs => hasBareReturn cs
  | c :: cs => c == '\r' || hasBareReturn cs

/-- The attribute that a documentation comment stands for. -/
def docTokens (inner : Bool) (text : List Char) : List TokenTree :=
  .punct '#' false :: (if inner then [.punct '!' false] else []) ++
    [.group .brackets [.ident "doc", .punct '=' false,
      .literal (StringLiteral.ofText (String.ofList text))]]

/-- The attribute of a comment that documents something, with what follows the comment. -/
def documentation? (inner : Bool) (found : Option (List Char × List Char)) :
    Option (List TokenTree × List Char) :=
  found.bind fun (text, rest) =>
    if hasBareReturn text then none else some (docTokens inner text, rest)

/-- The tokens of a comment and what follows it, if the text starts with one. Only documentation
has tokens. -/
def comment? (cs : List Char) : Option (List TokenTree × List Char) :=
  match cs with
  | '/' :: '/' :: '/' :: '/' :: rest => some ([], (spanLine rest).2)
  | '/' :: '/' :: '/' :: rest => documentation? false (spanLine rest)
  | '/' :: '/' :: '!' :: rest => documentation? true (spanLine rest)
  | '/' :: '/' :: rest => some ([], (spanLine rest).2)
  | '/' :: '*' :: '*' :: '/' :: rest => some ([], rest)
  | '/' :: '*' :: '*' :: '*' :: rest => (spanBlock ('*' :: '*' :: rest)).map fun p => ([], p.2)
  | '/' :: '*' :: '*' :: rest => documentation? false (spanBlock rest)
  | '/' :: '*' :: '!' :: rest => documentation? true (spanBlock rest)
  | '/' :: '*' :: rest => (spanBlock rest).map fun p => ([], p.2)
  | _ => none

/-! ### Strings and characters -/

/-- What a literal in quotes is made of: characters, bytes, or bytes up to a null byte. -/
inductive QuotedKind where
  | text
  | bytes
  | terminated
  deriving DecidableEq, Repr

namespace QuotedKind

def allows (kind : QuotedKind) (c : Char) : Bool :=
  match kind with
  | text => true
  | bytes => c.toNat < 128
  | terminated => c != '\x00'

/-- Whether two hexadecimal digits may stand for this number. -/
def allowsByte (kind : QuotedKind) (n : Nat) : Bool :=
  match kind with
  | text => n < 128
  | bytes => true
  | terminated => n != 0

/-- The characters that mean something behind a backslash, alone. -/
def escapes (kind : QuotedKind) : List Char :=
  ['n', 'r', 't', '\\', '\'', '"'] ++ if kind = terminated then [] else ['0']

end QuotedKind

def hexDigit? (c : Char) : Option Nat :=
  if c.isDigit then some (c.toNat - 48)
  else if 'a' ≤ c && c ≤ 'f' then some (c.toNat - 87)
  else if 'A' ≤ c && c ≤ 'F' then some (c.toNat - 55)
  else none

/-- Where the reader of a literal in quotes is. -/
inductive QuoteReader where
  | between
  /-- Behind a carriage return, which has to end a line. -/
  | behindReturn
  | behindBackslash
  /-- In a code of two digits, of which the first may be known. -/
  | inByte (first : Option Nat)
  | beforeBrace
  /-- In a code in braces with so many digits so far. -/
  | inBraces (digits value : Nat)
  /-- In the white space behind a backslash at the end of a line. -/
  | inMargin
  | inMarginBehindReturn

namespace QuoteReader

/-- The reader behind a character that stands for itself. -/
def plain? (kind : QuotedKind) (c : Char) : Option QuoteReader :=
  if c == '\\' then some behindBackslash
  else if c == '\r' then some behindReturn
  else if kind.allows c then some between
  else none

/-- The reader behind the next character. -/
def step? (kind : QuotedKind) : QuoteReader → Char → Option QuoteReader
  | between, c => plain? kind c
  | behindReturn, c => if c == '\n' then some between else none
  | behindBackslash, c =>
    if c == 'x' then some (inByte none)
    else if c == 'u' && kind != .bytes then some beforeBrace
    else if c == '\n' then some inMargin
    else if c == '\r' then some inMarginBehindReturn
    else if kind.escapes.contains c then some between
    else none
  | inByte none, c => (hexDigit? c).map fun digit => inByte (some digit)
  | inByte (some first), c => do
    if kind.allowsByte (16 * first + (← hexDigit? c)) then some between else none
  | beforeBrace, c => if c == '\x7b' then some (inBraces 0 0) else none
  | inBraces digits value, c =>
    if 0 < digits && c == '_' then some (inBraces digits value)
    else if 0 < digits && c == '\x7d' then
      if value.isValidChar && (kind != .terminated || value != 0) then some between else none
    else do
      let digit ← hexDigit? c
      if digits < 6 then some (inBraces (digits + 1) (16 * value + digit)) else none
  | inMargin, c =>
    if c == ' ' || c == '\t' || c == '\n' then some inMargin
    else if c == '\r' then some inMarginBehindReturn
    else plain? kind c
  | inMarginBehindReturn, c => if c == '\n' then some inMargin else none

/-- Whether a quote ends the literal here. -/
def isOpen : QuoteReader → Bool
  | between => true
  | inMargin => true
  | _ => false

/-- What follows the double quote at the end of a string. -/
def stringEnd? (kind : QuotedKind) : QuoteReader → List Char → Option (List Char)
  | _, [] => none
  | reader, c :: cs =>
    if reader.isOpen && c == '"' then some cs
    else (reader.step? kind c).bind fun reader => stringEnd? kind reader cs

/-- What follows the quote behind an escape for one character. -/
def escapeEnd? (kind : QuotedKind) : QuoteReader → List Char → Option (List Char)
  | between, cs => if cs.head? == some '\'' then some cs.tail else none
  | inMargin, _ => none
  | inMarginBehindReturn, _ => none
  | _, [] => none
  | reader, c :: cs => (reader.step? kind c).bind fun reader => escapeEnd? kind reader cs

end QuoteReader

/-- What follows a double quote with the given number of hash signs behind it. -/
def hashedEnd? (kind : QuotedKind) (hashes : List Char) : List Char → Option (List Char)
  | [] => none
  | '\r' :: '\n' :: cs => hashedEnd? kind hashes cs
  | c :: cs =>
    if c == '"' && hashes.isPrefixOf cs then some (cs.drop hashes.length)
    else if c != '\r' && kind.allows c then hashedEnd? kind hashes cs
    else none

def rawEnd? (kind : QuotedKind) (cs : List Char) : Option (List Char) :=
  let hashes := cs.takeWhile (· == '#')
  match cs.drop hashes.length with
  | '"' :: rest => if hashes.length ≤ 255 then hashedEnd? kind hashes rest else none
  | _ => none

/-- What follows one character in quotes, behind the first of them. -/
def characterEnd? (kind : QuotedKind) (cs : List Char) : Option (List Char) :=
  match cs with
  | '\\' :: rest => QuoteReader.escapeEnd? kind .behindBackslash rest
  | c :: '\'' :: rest => if c != '\'' && kind.allows c then some rest else none
  | _ => none

/-! ### Numbers -/

/-- The digits and underscores in front of a text, and what follows. The digits must belong to the
base. Letters that are no digits of the base follow the number. -/
def spanDigits (base : Nat) : List Char → Option (List Char × List Char)
  | [] => some ([], [])
  | c :: cs =>
    let more := (spanDigits base cs).map fun (digits, rest) => (c :: digits, rest)
    if c == '_' then more
    else
      match hexDigit? c with
      | some digit => if digit < base then more else if c.isDigit then none else some ([], c :: cs)
      | none => some ([], c :: cs)

/-- What follows a literal and the name that may stand directly behind it. -/
def suffixEnd (cs : List Char) : List Char :=
  if cs.head?.any isIdentStart then cs.dropWhile isIdentChar else cs

/-- What follows a number and its suffix. No name may go on there. -/
def numberEnd? (cs : List Char) : Option (List Char) :=
  let rest := suffixEnd cs
  if rest.head?.any isIdentChar then none else some rest

def exponentEnd? (cs : List Char) : Option (List Char) :=
  match cs with
  | e :: rest =>
    if e == 'e' || e == 'E' then
      let unsigned := if rest.head?.any fun c => c == '+' || c == '-' then rest.tail else rest
      let digits := unsigned.takeWhile fun c => c.isDigit || c == '_'
      if digits.any Char.isDigit then some (unsigned.drop digits.length) else none
    else none
  | [] => none

/-- What follows a number with a point or an exponent. A point belongs to the number unless another
point or a name follows. -/
def floatEnd? (cs : List Char) : Option (List Char) :=
  let isDigit := fun (c : Char) => c.isDigit || c == '_'
  match cs.dropWhile isDigit with
  | '.' :: rest =>
    if rest.head?.any fun c => c == '.' || isIdentStart c then none
    else
      let behind := rest.dropWhile isDigit
      numberEnd? ((exponentEnd? behind).getD behind)
  | behind => (exponentEnd? behind).bind numberEnd?

def integerEnd? (cs : List Char) : Option (List Char) :=
  let (base, digits) := match cs with
    | '0' :: 'x' :: rest => (16, rest)
    | '0' :: 'o' :: rest => (8, rest)
    | '0' :: 'b' :: rest => (2, rest)
    | cs => (10, cs)
  (spanDigits base digits).bind fun (digits, rest) =>
    if digits.any (· != '_') then numberEnd? rest else none

/-! ### Tokens -/

/-- What follows a literal, if the text starts with one. -/
def literalEnd? (cs : List Char) : Option (List Char) :=
  match cs with
  | '"' :: rest => (QuoteReader.stringEnd? .text .between rest).map suffixEnd
  | 'r' :: rest => (rawEnd? .text rest).map suffixEnd
  | 'b' :: '"' :: rest => (QuoteReader.stringEnd? .bytes .between rest).map suffixEnd
  | 'b' :: 'r' :: rest => (rawEnd? .bytes rest).map suffixEnd
  | 'c' :: '"' :: rest => (QuoteReader.stringEnd? .terminated .between rest).map suffixEnd
  | 'c' :: 'r' :: rest => (rawEnd? .terminated rest).map suffixEnd
  | 'b' :: '\'' :: rest => (characterEnd? .bytes rest).map suffixEnd
  | '\'' :: rest => (characterEnd? .text rest).map suffixEnd
  | c :: _ => if c.isDigit then floatEnd? cs <|> integerEnd? cs else none
  | [] => none

def literal? (cs : List Char) : Option (List Char × List Char) :=
  (literalEnd? cs).map fun rest => (cs.take (cs.length - rest.length), rest)

/-- The letters in front of a quote or of hash signs that announce a literal. -/
def announcements : List (List Char) :=
  [['r', '"'], ['r', '#', '"'], ['r', '#', '#'], ['b', '"'], ['b', '\''], ['b', 'r', '"'],
    ['b', 'r', '#'], ['c', '"'], ['c', 'r', '"'], ['c', 'r', '#']]

/-- An identifier or a lifetime's name, if the text starts with one. The words for parts of a path
cannot be raw. -/
def name? (cs : List Char) : Option (List Char × List Char) :=
  let name := fun (cs : List Char) =>
    if cs.head?.any isIdentStart then
      let letters := cs.takeWhile isIdentChar
      some (letters, cs.drop letters.length)
    else none
  match cs with
  | 'r' :: '#' :: rest => do
    let (letters, rest) ← name rest
    if ["_", "super", "self", "Self", "crate"].contains (String.ofList letters) then none
    else some ('r' :: '#' :: letters, rest)
  | cs => name cs

def ident? (cs : List Char) : Option (List Char × List Char) :=
  if announcements.any (·.isPrefixOf cs) then none else name? cs

/-- Whether a character of an operator, or the mark of a lifetime, comes next. -/
def seesPunct (cs : List Char) : Bool :=
  match cs with
  | '/' :: '/' :: _ => false
  | '/' :: '*' :: _ => false
  | c :: _ =>
    ['~', '!', '@', '#', '$', '%', '^', '&', '*', '-', '=', '+', '|', ';', ':', ',', '<', '.', '>',
      '/', '?', '\''].contains c
  | [] => false

def seesLifetime (cs : List Char) : Bool :=
  (name? cs).any fun (name, rest) =>
    rest.head? != some '\'' && (rest.head? != some '#' || ['r', '#'].isPrefixOf name)

def opens? : Char → Option Delimiter
  | '(' => some .parentheses
  | '[' => some .brackets
  | '\x7b' => some .braces
  | _ => none

def closes? : Char → Option Delimiter
  | ')' => some .parentheses
  | ']' => some .brackets
  | '\x7d' => some .braces
  | _ => none

/-- An open group: its delimiter, and the tokens before it in reverse order. -/
structure Frame where
  delimiter : Delimiter
  before : List TokenTree

/-- The tokens of a text, where those read so far are given in reverse order. The number bounds the
pieces still to come. -/
def run : Nat → List Frame → List TokenTree → List Char → Option (List TokenTree)
  | 0, _, _, _ => none
  | _ + 1, [], read, [] => some read.reverse
  | _ + 1, _ :: _, _, [] => none
  | n + 1, frames, read, c :: cs =>
    if isBlank c then run n frames read cs
    else
      match comment? (c :: cs), opens? c, closes? c with
      | some (tokens, rest), _, _ => run n frames (tokens.reverse ++ read) rest
      | none, some d, _ => run n (⟨d, read⟩ :: frames) [] cs
      | none, none, some d =>
        match frames with
        | f :: frames =>
          if f.delimiter = d then run n frames (.group d read.reverse :: f.before) cs else none
        | [] => none
      | none, none, none =>
        match literal? (c :: cs), ident? (c :: cs) with
        | some (text, rest), _ => run n frames (.literal (String.ofList text) :: read) rest
        | none, some (name, rest) => run n frames (.ident (String.ofList name) :: read) rest
        | none, none =>
          if c == '\'' then
            if seesLifetime cs then run n frames (.punct c true :: read) cs else none
          else if seesPunct (c :: cs) then run n frames (.punct c (seesPunct cs) :: read) cs
          else none

end Lexer

/-- The tokens of source code, unless something in it is no token or a group is not closed. -/
def tokens? (source : String) : Option (List TokenTree) :=
  Lexer.run (source.length + 1) [] [] source.toList

end CommandGrammar.Derive
