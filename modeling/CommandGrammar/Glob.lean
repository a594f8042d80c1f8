/-! Patterns for names: a question mark stands for one character, an asterisk for any characters,
two asterisks as a whole part of a path for any parts, and brackets for one of some characters. -/

namespace CommandGrammar

/-- A pattern for names, piece by piece. -/
inductive GlobPiece where
  | char (c : Char)
  | anyChar
  | anyText
  | anyParts
  | oneOf (negated : Bool) (ranges : List (Char × Char))
  deriving DecidableEq, Repr

abbrev Glob := List GlobPiece

inductive GlobFault where
  | wildcards
  | recursive
  | brackets
  deriving DecidableEq, Repr

/-- What is wrong with a pattern for names, and at which character. -/
structure GlobError where
  position : Nat
  fault : GlobFault
  deriving DecidableEq, Repr

def GlobError.message (e : GlobError) : String :=
  let fault := match e.fault with
    | .wildcards => "wildcards are either regular `*` or recursive `**`"
    | .recursive => "recursive wildcards must form a single path component"
    | .brackets => "invalid range pattern"
  s!"Pattern syntax error near position {e.position}: " ++ fault

namespace Glob

def readRanges : List Char → List (Char × Char)
  | a :: '-' :: b :: rest => (a, b) :: readRanges rest
  | a :: rest => (a, a) :: readRanges rest
  | [] => []

/-- The piece in brackets, behind the opening one, and what follows it. The first character, behind
an exclamation mark, never closes the brackets. -/
def readBrackets? (cs : List Char) : Option (GlobPiece × List Char) :=
  let (negated, cs) := match cs with
    | '!' :: rest => (true, rest)
    | rest => (false, rest)
  match cs with
  | [] => none
  | first :: rest =>
    let inner := rest.takeWhile (· != ']')
    match rest.drop inner.length with
    | _ :: behind => some (.oneOf negated (readRanges (first :: inner)), behind)
    | [] => none

/-- Reads one piece of a pattern at the given position, where the character before is given, and
tells what follows it. -/
def readPiece (position : Nat) (before : Option Char) (c : Char) (cs : List Char) :
    Except GlobError (GlobPiece × List Char) :=
  match c with
  | '?' => .ok (.anyChar, cs)
  | '*' =>
    let stars := 1 + (cs.takeWhile (· == '*')).length
    let behind := cs.dropWhile (· == '*')
    if stars = 1 then .ok (.anyText, cs)
    else if 2 < stars then .error ⟨position + 2, .wildcards⟩
    else if before.any (· != '/') then .error ⟨position - 1, .recursive⟩
    else
      match behind with
      | [] => .ok (.anyParts, [])
      | '/' :: rest => .ok (.anyParts, rest)
      | _ => .error ⟨position + 2, .recursive⟩
  | '[' =>
    match readBrackets? cs with
    | some result => .ok result
    | none => .error ⟨position, .brackets⟩
  | c => .ok (.char c, cs)

/-- Reads the pieces of a pattern from a position on, behind the given character. The first number
bounds how many there are. -/
def readPieces : Nat → Nat → Option Char → List Char → Except GlobError Glob
  | _, _, _, [] => .ok []
  | 0, _, _, _ => .ok []
  | fuel + 1, position, before, c :: cs =>
    match readPiece position before c cs with
    | .error e => .error e
    | .ok (piece, rest) =>
      let read := cs.length - rest.length
      let last := if read = 0 then some c else cs[read - 1]?
      (readPieces fuel (position + 1 + read) last rest).map (piece :: ·)

def read (text : String) : Except GlobError Glob :=
  readPieces text.length 0 none text.toList

/-- What follows each slash of a text. -/
def afterSlashes : List Char → List (List Char)
  | [] => []
  | c :: cs => if c == '/' then cs :: afterSlashes cs else afterSlashes cs

def tails : List Char → List (List Char)
  | [] => [[]]
  | c :: cs => (c :: cs) :: tails cs

def GlobPiece.accepts (piece : GlobPiece) (c : Char) : Bool :=
  match piece with
  | .char d => c == d
  | .anyChar => true
  | .oneOf negated ranges => negated != ranges.any fun (lo, hi) => lo ≤ c && c ≤ hi
  | .anyText => false
  | .anyParts => false

/-- Whether the characters match the pattern as a whole. The end of the text counts as the end of a
part. -/
def matchesChars : Glob → List Char → Bool
  | [], cs => cs.isEmpty
  | .anyText :: rest, cs => (tails cs).any (matchesChars rest)
  | .anyParts :: rest, cs => (cs :: afterSlashes cs ++ [[]]).any (matchesChars rest)
  | piece :: rest, cs =>
    match cs with
    | [] => false
    | c :: cs => GlobPiece.accepts piece c && matchesChars rest cs

/-- Whether the text matches the pattern as a whole. -/
def accepts (g : Glob) (text : String) : Bool := matchesChars g text.toList

end Glob

end CommandGrammar
