import CommandGrammar.Pattern.Expr
import CommandGrammar.Text.Blank
import CommandGrammar.Text.DecimalDigit
import CommandGrammar.Text.Property

/-! Reading the written form of a regular expression.

The reader goes through the pattern once. It keeps the items of the branch it is in, the branches
finished before it, and one frame for each group that is still open. Flags set inside a group hold
to the end of the group. Beside each item it keeps how deep the item is nested in itself, as
patterns may not be nested too deeply. -/

namespace CommandGrammar

namespace PatternReader

/-- The settings that a pattern can switch. -/
structure Flags where
  ignoreCase : Bool
  multiLine : Bool
  dotAll : Bool
  crlf : Bool
  spaced : Bool
  unicode : Bool
  deriving DecidableEq, Repr

def Flags.default : Flags := ⟨false, false, false, false, false, true⟩

/-! ### White space and comments -/

/-- Skips white space, and comments that start with a hash sign and end with the line. -/
def skipComments : Bool → List Char → List Char
  | _, [] => []
  | true, c :: cs => skipComments (c != '\n') cs
  | false, c :: cs =>
    if Text.isBlank c then skipComments false cs
    else if c == '#' then skipComments true cs
    else c :: cs

/-- Skips what has no meaning in a spaced pattern. -/
def skip (flags : Flags) (cs : List Char) : List Char :=
  if flags.spaced then skipComments false cs else cs

/-! ### Escapes -/

def hexValue? (c : Char) : Option Nat :=
  if '0' ≤ c && c ≤ '9' then some (c.toNat - 48)
  else if 'a' ≤ c && c ≤ 'f' then some (c.toNat - 87)
  else if 'A' ≤ c && c ≤ 'F' then some (c.toNat - 55)
  else none

def charOfCode? (n : Nat) : Option Char :=
  if n.isValidChar then some (Char.ofNat n) else none

def readHexDigits (flags : Flags) : Nat → Nat → List Char → Option (Nat × List Char)
  | 0, value, cs => some (value, cs)
  | n + 1, value, cs =>
    match skip flags cs with
    | [] => none
    | c :: rest => do readHexDigits flags n (16 * value + (← hexValue? c)) rest

/-- The text up to a closing brace, and what follows it. In a spaced pattern white space and
comments do not count. -/
def readBraced (flags : Flags) : Bool → List Char → List Char → Option (List Char × List Char)
  | _, _, [] => none
  | true, read, c :: cs => readBraced flags (c != '\n') read cs
  | false, read, c :: cs =>
    if c == '\x7d' then some (read, cs)
    else if flags.spaced && Text.isBlank c then readBraced flags false read cs
    else if flags.spaced && c == '#' then readBraced flags true read cs
    else readBraced flags false (read ++ [c]) cs

def hexNumber? (digits : List Char) : Option Nat :=
  if digits.isEmpty then none
  else digits.foldlM (fun value c => (hexValue? c).map (16 * value + ·)) 0

/-- The character of a code of so many digits. Without Unicode two digits write a byte, and only the
bytes of ASCII are characters. -/
def charOfDigits? (flags : Flags) (digits n : Nat) : Option Char :=
  if digits == 2 && !flags.unicode && decide (127 < n) then none else charOfCode? n

/-- The rest of an escape that names a character by its code. -/
def readCode (flags : Flags) (digits : Nat) (cs : List Char) : Option (Char × List Char) :=
  match skip flags cs with
  | [] => none
  | '\x7b' :: rest => do
    let (code, rest) ← readBraced flags false [] rest
    some (← charOfCode? (← hexNumber? code), rest)
  | cs => do
    let (n, rest) ← readHexDigits flags digits 0 cs
    some (← charOfDigits? flags digits n, rest)

/-- The characters that mean something in a pattern. -/
def isMeta (c : Char) : Bool :=
  ['\\', '.', '+', '*', '?', '(', ')', '|', '[', ']', '\x7b', '\x7d', '^', '$', '#', '&', '-',
    '~'].contains c

/-- The characters in front of which a backslash is allowed without need. -/
def isEscapable (c : Char) : Bool :=
  isMeta c || (c.toNat < 128 && !c.isAlphanum && c != '<' && c != '>')

/-- What an escape or a single character stands for. -/
inductive Atom where
  | literal (c : Char)
  | cls (c : CharClass)
  | boundary (b : Boundary)

/-- The ASCII digits, white space and word characters. -/
def asciiClass? : Char → Option CharClass
  | 'd' => some (.range 48 57)
  | 's' => some (.union (.range 9 13) (.single ' '))
  | 'w' =>
    some (.union (.union (.range 48 57) (.range 65 90)) (.union (.single '_') (.range 97 122)))
  | _ => none

/-- The digits, white space and word characters of all scripts. -/
def unicodeClass? : Char → Option CharClass
  | 'd' => some (.table Text.decimalDigitRanges)
  | 's' => some (.table Text.blankRanges)
  | 'w' => some (.table Text.wordRanges)
  | _ => none

/-- The complement of a class. Without Unicode a complement would hold bytes that are no
characters. -/
def negate (flags : Flags) (negated : Bool) (c : CharClass) : Option CharClass :=
  if !negated then some c else if flags.unicode then some (.complement c) else none

/-- The class with all case variants, if case is ignored. Without Unicode only the letters of ASCII
have variants. -/
def fold (flags : Flags) (c : CharClass) : CharClass :=
  if !flags.ignoreCase then c
  else if flags.unicode then .anyCase c
  else .union c (.inter (.anyCase (.inter c (.range 0 127))) (.range 0 127))

section

variable [Text.Properties]

def propertyClass? (flags : Flags) (negated : Bool) (name : List Char) : Option CharClass := do
  let ranges ← Text.Properties.named? name
  if !flags.unicode then none else negate flags negated (fold flags (.table ranges))

def readProperty (flags : Flags) (negated : Bool) (cs : List Char) :
    Option (CharClass × List Char) :=
  match skip flags cs with
  | [] => none
  | '\x7b' :: rest => do
    let (name, rest) ← readBraced flags false [] rest
    some (← propertyClass? flags negated name, rest)
  | '\\' :: _ => none
  | c :: rest => do some (← propertyClass? flags negated [c], rest)

/-- The rest of an escape for a word boundary, which may have a name in braces. Braces that begin
otherwise are a repetition and are left alone. -/
def readWordBoundary (flags : Flags) (cs : List Char) : Option (Boundary × List Char) :=
  let ascii := !flags.unicode
  match cs with
  | '\x7b' :: rest =>
    match skip flags rest with
    | [] => none
    | c :: more =>
      if c.isAlpha || c == '-' then do
        let (name, rest) ← readBraced flags false [] (c :: more)
        match String.ofList name with
        | "start" => some (.wordStart ascii, rest)
        | "end" => some (.wordEnd ascii, rest)
        | "start-half" => some (.wordStartHalf ascii, rest)
        | "end-half" => some (.wordEndHalf ascii, rest)
        | _ => none
      else some (.word ascii, cs)
  | _ => some (.word ascii, cs)

/-- What follows a backslash. -/
def readEscape (flags : Flags) : List Char → Option (Atom × List Char)
  | [] => none
  | c :: cs =>
    let ascii := !flags.unicode
    match c with
    | 'x' => (readCode flags 2 cs).map fun (c, rest) => (.literal c, rest)
    | 'u' => (readCode flags 4 cs).map fun (c, rest) => (.literal c, rest)
    | 'U' => (readCode flags 8 cs).map fun (c, rest) => (.literal c, rest)
    | 'p' => (readProperty flags false cs).map fun (c, rest) => (.cls c, rest)
    | 'P' => (readProperty flags true cs).map fun (c, rest) => (.cls c, rest)
    | 'a' => some (.literal '\x07', cs)
    | 'f' => some (.literal '\x0c', cs)
    | 't' => some (.literal '\t', cs)
    | 'n' => some (.literal '\n', cs)
    | 'r' => some (.literal '\r', cs)
    | 'v' => some (.literal '\x0b', cs)
    | 'A' => some (.boundary .textStart, cs)
    | 'z' => some (.boundary .textEnd, cs)
    | 'b' => (readWordBoundary flags cs).map fun (b, rest) => (.boundary b, rest)
    | 'B' => some (.boundary (.notWord ascii), cs)
    | '<' => some (.boundary (.wordStart ascii), cs)
    | '>' => some (.boundary (.wordEnd ascii), cs)
    | c =>
      if isEscapable c then some (.literal c, cs)
      else
        let named := if flags.unicode then unicodeClass? else asciiClass?
        match named c, named c.toLower with
        | some cls, _ => some (.cls cls, cs)
        | none, some cls => (negate flags true cls).map fun cls => (.cls cls, cs)
        | none, none => none

end

/-! ### Classes in brackets -/

def posixClass? : String → Option CharClass
  | "alnum" => some (.union (.range 48 57) (.union (.range 65 90) (.range 97 122)))
  | "alpha" => some (.union (.range 65 90) (.range 97 122))
  | "ascii" => some (.range 0 127)
  | "blank" => some (.union (.single '\t') (.single ' '))
  | "cntrl" => some (.union (.range 0 31) (.range 127 127))
  | "digit" => some (.range 48 57)
  | "graph" => some (.range 33 126)
  | "lower" => some (.range 97 122)
  | "print" => some (.range 32 126)
  | "punct" =>
    some (.union (.union (.range 33 47) (.range 58 64)) (.union (.range 91 96) (.range 123 126)))
  | "space" => some (.union (.range 9 13) (.single ' '))
  | "upper" => some (.range 65 90)
  | "word" => asciiClass? 'w'
  | "xdigit" => some (.union (.range 48 57) (.union (.range 65 70) (.range 97 102)))
  | _ => none

/-- A named ASCII class such as `[:alpha:]`, behind its opening bracket. -/
def readPosix (cs : List Char) : Option (Bool × CharClass × List Char) :=
  match cs with
  | ':' :: rest =>
    let (negated, rest) := match rest with
      | '^' :: more => (true, more)
      | more => (false, more)
    let name := rest.takeWhile (· != ':')
    match rest.drop name.length with
    | ':' :: ']' :: rest => (posixClass? (String.ofList name)).map fun c => (negated, c, rest)
    | _ => none
  | _ => none

inductive SetOp where
  | inter
  | diff
  | symmDiff

def SetOp.apply (flags : Flags) (op : SetOp) (a b : CharClass) : CharClass :=
  match op with
  | inter => .inter (fold flags a) (fold flags b)
  | diff => .diff (fold flags a) (fold flags b)
  | symmDiff => .symmDiff (fold flags a) (fold flags b)

/-- The class read so far in a pair of brackets: what stands before the last operator, and the
items behind it. The numbers are those of the levels of nesting and of the items. -/
structure SetState where
  before : Option (SetOp × CharClass × Nat)
  items : CharClass
  count : Nat
  depth : Nat

def SetState.start : SetState := ⟨none, .none, 0, 0⟩

/-- The levels of nesting in the items. More than one item make a level of their own. -/
def SetState.itemsDepth (s : SetState) : Nat := if s.count ≤ 1 then s.depth else s.depth + 1

/-- The class when no more items come, and the levels of nesting in it. -/
def SetState.close (flags : Flags) (s : SetState) : CharClass × Nat :=
  match s.before with
  | none => (s.items, s.itemsDepth)
  | some (op, lhs, depth) => (op.apply flags lhs s.items, max depth s.itemsDepth + 1)

def SetState.operator (flags : Flags) (s : SetState) (op : SetOp) : SetState :=
  ⟨some (op, s.close flags), .none, 0, 0⟩

def SetState.add (s : SetState) (c : CharClass) (depth : Nat) : SetState :=
  ⟨s.before, .union s.items c, s.count + 1, max s.depth depth⟩

def readSetAtom [Text.Properties] (flags : Flags) : List Char → Option (Atom × List Char)
  | [] => none
  | '\\' :: cs => readEscape flags cs
  | c :: cs => some (.literal c, cs)

/-- The character of an atom, if it is one. Without Unicode only ASCII is allowed in brackets. -/
def Atom.literal? (flags : Flags) : Atom → Option Char
  | .literal c => if flags.unicode || c.toNat < 128 then some c else none
  | _ => none

/-- The class of an atom, if it may stand in brackets. -/
def Atom.cls? (flags : Flags) : Atom → Option CharClass
  | .cls c => some c
  | .boundary _ => none
  | .literal c => ((Atom.literal c).literal? flags).map .single

/-- Whether a hyphen makes no range with this behind it, as a closing bracket or another hyphen
comes next. In a spaced pattern white space and a hash sign may stand between them, but the reader
looks into the comment of the hash sign and not behind it. -/
def standsAlone (flags : Flags) (cs : List Char) : Bool :=
  let next :=
    if flags.spaced then
      match cs.dropWhile Text.isBlank with
      | '#' :: rest => rest.dropWhile Text.isBlank
      | rest => rest
    else cs
  next.head? == some ']' || next.head? == some '-'

/-- A range of characters or a single item inside brackets. -/
def readSetItem [Text.Properties] (flags : Flags) (cs : List Char) :
    Option (CharClass × List Char) := do
  let (first, rest) ← readSetAtom flags cs
  match skip flags rest with
  | [] => none
  | '-' :: rest =>
    if standsAlone flags rest then some (← first.cls? flags, '-' :: rest)
    else
      let (last, rest) ← readSetAtom flags (skip flags rest)
      let lo ← first.literal? flags
      let hi ← last.literal? flags
      if hi < lo then none else some (.range lo.toNat hi.toNat, rest)
  | rest => some (← first.cls? flags, rest)

/-- Hyphens at the start of a bracketed class stand for themselves. -/
def readLeadingHyphens (flags : Flags) : Nat → SetState → List Char → SetState × List Char
  | 0, s, cs => (s, cs)
  | n + 1, s, cs =>
    match cs with
    | '-' :: rest => readLeadingHyphens flags n (s.add (.single '-') 0) (skip flags rest)
    | cs => (s, cs)

/-- The start of a bracketed class, behind its opening bracket: whether it is negated, and the
items that stand for themselves only here. -/
def openSet (flags : Flags) (cs : List Char) : Bool × SetState × List Char :=
  let (negated, cs) := match skip flags cs with
    | '^' :: rest => (true, skip flags rest)
    | rest => (false, rest)
  match cs with
  | ']' :: rest => (negated, SetState.start.add (.single ']') 0, skip flags rest)
  | cs =>
    let (s, rest) := readLeadingHyphens flags cs.length .start cs
    (negated, s, rest)

/-- The class in brackets that is closed, and the levels of nesting in it. -/
def SetState.finish? (flags : Flags) (negated : Bool) (s : SetState) : Option (CharClass × Nat) :=
  (negate flags negated (fold flags (s.close flags).1)).map (·, (s.close flags).2 + 1)

/-- The rest of a bracketed class, with the levels of nesting in it. The number bounds the items
still to come. -/
def readSet [Text.Properties] (flags : Flags) :
    Nat → Bool → SetState → List Char → Option ((CharClass × Nat) × List Char)
  | 0, _, _, _ => none
  | n + 1, negated, s, cs =>
    match skip flags cs with
    | [] => none
    | ']' :: rest => do some (← s.finish? flags negated, rest)
    | '[' :: rest =>
      match readPosix rest with
      | some (neg, cls, rest) => do
        readSet flags n negated (s.add (← negate flags neg (fold flags cls)) 0) rest
      | none => do
        let (neg, inner, rest) := openSet flags rest
        let ((cls, depth), rest) ← readSet flags n neg inner rest
        readSet flags n negated (s.add cls depth) rest
    | '&' :: '&' :: rest => readSet flags n negated (s.operator flags .inter) rest
    | '-' :: '-' :: rest => readSet flags n negated (s.operator flags .diff) rest
    | '~' :: '~' :: rest => readSet flags n negated (s.operator flags .symmDiff) rest
    | cs => do
      let (cls, rest) ← readSetItem flags cs
      readSet flags n negated (s.add cls 0) rest

/-! ### Repetitions -/

/-- Digits and the number they write. In a spaced pattern white space and comments may stand
between them. -/
def readDigits (flags : Flags) : Bool → List Char → List Char → List Char × List Char
  | _, read, [] => (read, [])
  | true, read, c :: cs => readDigits flags (c != '\n') read cs
  | false, read, c :: cs =>
    if c.isDigit then readDigits flags false (read ++ [c]) cs
    else if flags.spaced && Text.isBlank c then readDigits flags false read cs
    else if flags.spaced && c == '#' then readDigits flags true read cs
    else (read, c :: cs)

/-- A number of at most 32 bits with white space around it. -/
def readDecimal (flags : Flags) (cs : List Char) : Option (Nat × List Char) :=
  let (digits, rest) := readDigits flags false [] (cs.dropWhile Text.isBlank)
  let value := digits.foldl (fun n c => 10 * n + (c.toNat - 48)) 0
  if digits.isEmpty || value ≥ Nat.pow 2 32 then none
  else some (value, rest.dropWhile Text.isBlank)

/-- The numbers of a counted repetition, behind its opening brace. -/
def readCount (flags : Flags) (cs : List Char) : Option (Nat × Option Nat × List Char) := do
  let (least, rest) ← readDecimal flags (skip flags cs)
  match rest with
  | '\x7d' :: rest => some (least, some least, rest)
  | ',' :: rest =>
    match skip flags rest with
    | '\x7d' :: rest => some (least, none, rest)
    | rest =>
      let (most, rest) ← readDecimal flags rest
      match rest with
      | '\x7d' :: rest => if least ≤ most then some (least, some most, rest) else none
      | _ => none
  | _ => none

/-! ### Groups -/

def isNameChar (first : Bool) (c : Char) : Bool :=
  c == '_' || Text.isAlphabetic c ||
    (!first && (c == '.' || c == '[' || c == ']' || Text.isNumeric c))

def readName (cs : List Char) : Option (List Char × List Char) :=
  let name := cs.takeWhile (· != '>')
  match name, cs.drop name.length with
  | c :: rest, '>' :: behind =>
    if isNameChar true c && rest.all (isNameChar false) then some (name, behind) else none
  | _, _ => none

def Flags.set (flags : Flags) (on : Bool) : Char → Option Flags
  | 'i' => some { flags with ignoreCase := on }
  | 'm' => some { flags with multiLine := on }
  | 's' => some { flags with dotAll := on }
  | 'U' => some flags
  | 'u' => some { flags with unicode := on }
  | 'R' => some { flags with crlf := on }
  | 'x' => some { flags with spaced := on }
  | _ => none

/-- Letters that switch settings, up to the colon or the closing parenthesis. No letter may occur
twice, and a hyphen, after which settings are switched off, only once and not at the end. -/
def readFlags (flags : Flags) (on : Bool) (seen : List Char) :
    List Char → Option (Flags × List Char × List Char)
  | [] => none
  | c :: cs =>
    if c == ':' || c == ')' then
      if seen.head? == some '-' then none else some (flags, seen, c :: cs)
    else if seen.contains c then none
    else if c == '-' then readFlags flags false (c :: seen) cs
    else do readFlags (← flags.set on c) on (c :: seen) cs

inductive Opening where
  | group (name : Option (List Char)) (flags : Flags)
  | flags (flags : Flags)

/-- Behind an opening parenthesis. Groups that look ahead or behind are refused. -/
def readOpening (flags : Flags) (cs : List Char) : Option (Opening × List Char) :=
  match skip flags cs with
  | '?' :: 'P' :: '<' :: rest => (readName rest).map fun (n, rest) => (.group (some n) flags, rest)
  | '?' :: '<' :: '=' :: _ => none
  | '?' :: '<' :: '!' :: _ => none
  | '?' :: '<' :: rest => (readName rest).map fun (n, rest) => (.group (some n) flags, rest)
  | '?' :: '=' :: _ => none
  | '?' :: '!' :: _ => none
  | '?' :: rest =>
    match readFlags flags true [] rest with
    | some (inner, _, ':' :: rest) => some (.group none inner, rest)
    | some (inner, _ :: _, ')' :: rest) => some (.flags inner, rest)
    | _ => none
  | rest => some (.group none flags, rest)

/-! ### The reader -/

/-- An item of a branch, with the levels of nesting in it. Switching settings is an item that
nothing can repeat. -/
inductive Item where
  | expr (e : Expr) (depth : Nat)
  | switch

def Item.depth : Item → Nat
  | expr _ depth => depth
  | switch => 0

/-- An open group: what stands before it, and the settings to return to. -/
structure Frame where
  items : List Item
  branches : List (List Item)
  flags : Flags

/-- Where the reader is. Items and branches are in reverse order. -/
structure State where
  flags : Flags
  items : List Item
  branches : List (List Item)
  frames : List Frame
  names : List (List Char)

def State.start : State := ⟨.default, [], [], [], []⟩

/-- The expression of a branch, from its items in reverse order. -/
def branchExpr (items : List Item) : Expr :=
  items.foldl (fun e item => match item with
    | .switch => e
    | .expr a _ => match e with
      | .empty => a
      | e => .cat a e) .empty

/-- The levels of nesting in a sequence of parts. More than one part make a level of their own. -/
def joinDepth (depths : List Nat) : Nat :=
  depths.foldl max 0 + if depths.length ≤ 1 then 0 else 1

/-- The expression of all branches read since the last opening parenthesis. -/
def State.body (s : State) : Expr :=
  s.branches.foldl (fun e b => .alt (branchExpr b) e) (branchExpr s.items)

/-- The levels of nesting in these branches. -/
def State.depth (s : State) : Nat :=
  joinDepth ((s.items :: s.branches).map fun items => joinDepth (items.map Item.depth))

def State.push (s : State) (e : Expr) (depth : Nat) : State :=
  { s with items := .expr e depth :: s.items }

def State.repeatLast (s : State) (least : Nat) (most : Option Nat) : Option State :=
  match s.items with
  | .expr e depth :: items =>
    some { s with items := .expr (.rep e least most) (depth + 1) :: items }
  | _ => none

def literalExpr (flags : Flags) (c : Char) : Expr :=
  .chars (fold flags (.single c))

def Atom.expr (flags : Flags) : Atom → Expr
  | .literal c => literalExpr flags c
  | .cls c => .chars c
  | .boundary b => .boundary b

/-- The expression of a dot: any character but a line end. Without Unicode it would match bytes
that are no characters. -/
def dotExpr? (flags : Flags) : Option Expr :=
  if !flags.unicode then none
  else if flags.dotAll then some (.chars (.range 0 0x10FFFF))
  else if flags.crlf then some (.chars (.complement (.union (.single '\n') (.single '\r'))))
  else some (.chars (.complement (.single '\n')))

/-- A question mark directly behind a repetition only changes what is preferred. -/
def skipLazy : List Char → List Char
  | '?' :: rest => rest
  | rest => rest

section

variable [Text.Properties]

/-- Reads the next piece of the pattern, which is not empty. -/
def step (s : State) (c : Char) (cs : List Char) : Option (State × List Char) :=
  match c with
  | '(' => do
    match ← readOpening s.flags cs with
    | (.flags flags, rest) => some ({ s with flags, items := .switch :: s.items }, rest)
    | (.group name flags, rest) =>
      let names ← match name with
        | none => some s.names
        | some n => if s.names.contains n then none else some (n :: s.names)
      some (⟨flags, [], [], ⟨s.items, s.branches, s.flags⟩ :: s.frames, names⟩, rest)
  | ')' =>
    match s.frames with
    | [] => none
    | f :: frames =>
      some (⟨f.flags, .expr s.body (s.depth + 1) :: f.items, f.branches, frames, s.names⟩, cs)
  | '|' => some ({ s with items := [], branches := s.items :: s.branches }, cs)
  | '[' => do
    let (negated, inner, rest) := openSet s.flags cs
    let ((cls, depth), rest) ← readSet s.flags (rest.length + 1) negated inner rest
    some (s.push (.chars cls) depth, rest)
  | '?' => do some (← s.repeatLast 0 (some 1), skipLazy cs)
  | '*' => do some (← s.repeatLast 0 none, skipLazy cs)
  | '+' => do some (← s.repeatLast 1 none, skipLazy cs)
  | '\x7b' => do
    let (least, most, rest) ← readCount s.flags cs
    some (← s.repeatLast least most, skipLazy (skip s.flags rest))
  | '\\' => do
    let (atom, rest) ← readEscape s.flags cs
    some (s.push (atom.expr s.flags) 0, rest)
  | '.' => do some (s.push (← dotExpr? s.flags) 0, cs)
  | '^' =>
    let start := if s.flags.multiLine then .lineStart s.flags.crlf else .textStart
    some (s.push (.boundary start) 0, cs)
  | '$' =>
    let finish := if s.flags.multiLine then .lineEnd s.flags.crlf else .textEnd
    some (s.push (.boundary finish) 0, cs)
  | c => some (s.push (literalExpr s.flags c) 0, cs)

/-- Reads to the end of the pattern, where no group may be open. The number bounds the pieces
still to come. -/
def run : Nat → State → List Char → Option State
  | n, s, cs =>
    match skip s.flags cs with
    | [] => if s.frames.isEmpty then some s else none
    | c :: rest =>
      match n with
      | 0 => none
      | n + 1 => do
        let (next, rest) ← step s c rest
        run n next rest

def read? (text : String) : Option State := run text.length .start text.toList

end

end PatternReader

/-- Reads a regular expression, if the text is one. -/
def Expr.read? [Text.Properties] (text : String) : Option Expr :=
  (PatternReader.read? text).map (·.body)

end CommandGrammar
