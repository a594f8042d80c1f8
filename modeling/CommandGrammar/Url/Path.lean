import CommandGrammar.Url.Percent

/-! The path of a URL. Segments `.` and `..` are resolved while the path is read. Under the scheme
`file` a drive letter at the start of the path stays where it is. -/

namespace CommandGrammar.Url

/-- How the path of a URL is read: whether its scheme is special, so that a backslash separates
segments too, and whether it is `file`. -/
structure PathRules where
  special : Bool
  file : Bool

/-- Whether the text is a letter and one of the given characters. -/
def isDrive (marks : List Char) : List Char → Bool
  | [letter, mark] => letter.isAlpha && marks.contains mark
  | _ => false

/-- Whether the text starts with a slash and a drive letter, alone or before another segment. -/
def startsWithDrive : List Char → Bool
  | '/' :: letter :: mark :: rest =>
    letter.isAlpha && [':', '|'].contains mark &&
      (rest.isEmpty || rest.head?.any ['/', '\\', '?', '#'].contains)
  | _ => false

/-- A segment in lower case and with encoded points decoded, for comparison. -/
def plainDots : List Char → List Char
  | '%' :: '2' :: 'e' :: rest => '.' :: plainDots rest
  | '%' :: '2' :: 'E' :: rest => '.' :: plainDots rest
  | c :: rest => c :: plainDots rest
  | [] => []

/-- The text up to its last slash, that slash included. -/
def throughLastSlash (path : List Char) : List Char :=
  (path.reverse.dropWhile (· != '/')).reverse

/-- The last segment: what follows the last slash. -/
def lastSegment (path : List Char) : List Char := (path.reverse.takeWhile (· != '/')).reverse

/-- Whether the slash at the end may be taken off: it is not the first one and does not stand
behind a drive letter. -/
def lastSlashFree (path : List Char) : Bool :=
  path.dropLast.contains '/' &&
    !startsWithDrive ('/' :: lastSegment path.dropLast ++ ['/'])

/-- The path without its last segment. -/
def shorten (rules : PathRules) (path : List Char) : List Char :=
  if path.isEmpty || (rules.file && isDrive [':'] path) then path
  else if rules.file && isDrive [':'] (lastSegment path) then path
  else throughLastSlash path

/-- The path after its next segment was read, where a slash may have followed. -/
def addSegment (rules : PathRules) (path segment : List Char) (slash : Bool) : List Char :=
  let ending := if slash then ['/'] else []
  match plainDots segment with
  | ['.', '.'] =>
    let path := if path.getLast? == some '/' && lastSlashFree path then path.dropLast else path
    let path := shorten rules path
    if slash && path.getLast? != some '/' then path ++ ['/'] else path
  | ['.'] => if path.getLast? == some '/' then path else path ++ ['/']
  | _ =>
    if rules.file && isDrive [':', '|'] segment then path ++ segment.take 1 ++ [':'] ++ ending
    else path ++ segment ++ ending

/-- Reads segments to the end of the path. The path so far and the segment being read are given in
the form in which they are written. -/
def readSegments (rules : PathRules) (path segment : List Char) :
    List Char → List Char × List Char
  | [] => (addSegment rules path segment false, [])
  | c :: cs =>
    if c == '/' || (c == '\\' && rules.special) then
      readSegments rules (addSegment rules path segment true) [] cs
    else if c == '?' || c == '#' then (addSegment rules path segment false, c :: cs)
    else if rules.file && isDrive [':'] ((path ++ segment).drop 1) then
      readSegments rules (path ++ segment.take 1)
        (segment.drop 1 ++ ['/'] ++ encodeChar inPathSet c) cs
    else readSegments rules path (segment ++ encodeChar inPathSet c) cs

/-- Reads a path, of which the given characters stand already, and returns what follows it. A path
under the scheme `file` has exactly one slash at its start. -/
def readPath (rules : PathRules) (path cs : List Char) : List Char × List Char :=
  let (path, rest) := readSegments rules path [] cs
  if rules.file then ('/' :: path.dropWhile (· == '/'), rest) else (path, rest)

/-- Reads the path behind a host. Under a special scheme it is never empty. -/
def readPathStart (rules : PathRules) (cs : List Char) : List Char × List Char :=
  if rules.special then
    match cs with
    | '/' :: rest => readPath rules ['/'] rest
    | '\\' :: rest => readPath rules ['/'] rest
    | cs => readPath rules ['/'] cs
  else
    match cs with
    | [] => readPath rules [] cs
    | '/' :: _ => readPath rules [] cs
    | '?' :: _ => ([], cs)
    | '#' :: _ => ([], cs)
    | _ => readPath rules ['/'] cs

/-- Reads a path that has no segments: all up to a query or fragment. -/
def readPlainPath (cs : List Char) : List Char × List Char :=
  let path := cs.takeWhile fun c => c != '?' && c != '#'
  (path.flatMap (encodeChar isControl), cs.drop path.length)

end CommandGrammar.Url
