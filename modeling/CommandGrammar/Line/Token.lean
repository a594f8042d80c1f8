import CommandGrammar.Text.Quoting

/-! Tokens of a line: the pieces between white space. A quote at the start of a token makes the
token reach to the matching quote, white space included; anywhere else a quote is an ordinary
character. Positions are counted in bytes of the UTF-8 form. -/

namespace CommandGrammar

/-- A piece of the line, and where it starts. The text is kept as typed, quotes included. -/
structure Token where
  text : String
  start : Nat
  deriving DecidableEq, Repr

namespace Token

def stop (t : Token) : Nat := t.start + t.text.utf8ByteSize

/-- The text that the token stands for. -/
def unquoted (t : Token) : String := Text.unquote t.text

end Token

/-- Where the reader of a line is: between tokens, inside a bare token, or inside a quoted one,
with the position where the token started and the characters read of it. -/
inductive Lexer where
  | between
  | bare (start : Nat) (read : List Char)
  | quoted (quote : Char) (escaped : Bool) (start : Nat) (read : List Char)
  deriving DecidableEq, Repr

namespace Lexer

/-- The token being read, at the end of the line. -/
def finish : Lexer → List Token
  | between => []
  | bare start read => [⟨String.ofList read, start⟩]
  | quoted _ _ start read => [⟨String.ofList read, start⟩]

/-- Reads the character at the given position. White space ends a bare token, and the matching
quote ends a quoted one and belongs to it. -/
def step : Lexer → Nat → Char → Lexer × List Token
  | between, pos, c =>
    if Text.isBlank c then (between, [])
    else if Text.isQuote c then (quoted c false pos [c], [])
    else (bare pos [c], [])
  | bare start read, _, c =>
    if Text.isBlank c then (between, [⟨String.ofList read, start⟩])
    else (bare start (read ++ [c]), [])
  | quoted quote escaped start read, _, c =>
    if escaped then (quoted quote false start (read ++ [c]), [])
    else if c == quote then (between, [⟨String.ofList (read ++ [c]), start⟩])
    else (quoted quote (c == '\\') start (read ++ [c]), [])

/-- The tokens completed by reading the characters from the given position to the end. -/
def run : Lexer → Nat → List Char → List Token
  | lexer, _, [] => lexer.finish
  | lexer, pos, c :: cs =>
    let (next, done) := lexer.step pos c
    done ++ run next (pos + c.utf8Size) cs

end Lexer

end CommandGrammar
