import CommandGrammar.Line.Token

/-! A line that was typed, split into tokens. The matcher refers to tokens by their index, and a
position behind `n` matched tokens is the start of the next token, or the end of the line. -/

namespace CommandGrammar

/-- A line and its tokens, in order. -/
structure Line where
  input : String
  tokens : List Token
  deriving DecidableEq, Repr

namespace Line

def read (input : String) : Line := ⟨input, Lexer.between.run 0 input.toList⟩

def isEmpty (l : Line) : Bool := l.tokens.isEmpty

/-- The position behind the given number of matched tokens. White space up to the next token is
counted as matched. -/
def cursor (l : Line) (matched : Nat) : Nat :=
  match l.tokens[matched]? with
  | some t => t.start
  | none => l.input.utf8ByteSize

/-- The characters up to a position given in bytes, and those behind it. -/
def splitAt : Nat → List Char → List Char × List Char
  | _, [] => ([], [])
  | pos, c :: cs =>
    if pos = 0 then ([], c :: cs)
    else
      let (before, behind) := splitAt (pos - c.utf8Size) cs
      (c :: before, behind)

/-- The part of the line in front of the first unmatched token. -/
def parsed (l : Line) (matched : Nat) : String :=
  String.ofList (splitAt (l.cursor matched) l.input.toList).1

/-- The part of the line from the first unmatched token on. -/
def remaining (l : Line) (matched : Nat) : String :=
  String.ofList (splitAt (l.cursor matched) l.input.toList).2

/-- Separates the token that is still being typed, at the very end of the line, from those that
are complete. It is empty if the line ends in white space. -/
def splitTrailing (l : Line) : Line × String :=
  match l.tokens.getLast? with
  | some last =>
    if last.stop = l.input.utf8ByteSize then (⟨l.input, l.tokens.dropLast⟩, last.text)
    else (l, "")
  | none => (l, "")

end Line

end CommandGrammar
