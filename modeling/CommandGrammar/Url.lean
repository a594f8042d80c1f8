import CommandGrammar.Url.Host
import CommandGrammar.Url.Path

/-! Absolute URLs: reading one, in any of the forms that are understood, and the one form in which
it is written. -/

namespace CommandGrammar

/-- An absolute URL, part by part as it is written. Without an authority the URL has no host. -/
structure Url where
  scheme : String
  authority : Option String
  path : String
  query : Option String
  fragment : Option String
  deriving DecidableEq, Repr

namespace Url

def text (u : Url) : String :=
  let authority := match u.authority with
    | some a => "//" ++ a
    | none => if ['/', '/'].isPrefixOf u.path.toList then "/." else ""
  let query := match u.query with
    | some q => "?" ++ q
    | none => ""
  let fragment := match u.fragment with
    | some f => "#" ++ f
    | none => ""
  u.scheme ++ ":" ++ authority ++ u.path ++ query ++ fragment

/-- The schemes whose URLs have a host and a path made of segments, with their usual ports. -/
def usualPort? : List Char → Option Nat
  | ['h', 't', 't', 'p'] => some 80
  | ['w', 's'] => some 80
  | ['h', 't', 't', 'p', 's'] => some 443
  | ['w', 's', 's'] => some 443
  | ['f', 't', 'p'] => some 21
  | _ => none

/-- The scheme in lower case, up to the colon, and what follows. -/
def splitScheme? (cs : List Char) : Option (List Char × List Char) :=
  let scheme := cs.takeWhile (· != ':')
  match scheme, cs.drop scheme.length with
  | c :: more, ':' :: rest =>
    if c.isAlpha && more.all fun c => c.isAlphanum || c == '+' || c == '-' || c == '.' then
      some (scheme.map Char.toLower, rest)
    else none
  | _, _ => none

/-- The user name and password, up to the last at sign of the authority, and what follows. -/
def splitUser (special : Bool) (cs : List Char) : Except UrlError (List Char × List Char) :=
  let isEnd := fun c => c == '/' || c == '?' || c == '#' || (c == '\\' && special)
  let authority := cs.takeWhile (!isEnd ·)
  if !authority.contains '@' then .ok ([], cs)
  else
    let host := (authority.reverse.takeWhile (· != '@')).reverse
    let user := authority.take (authority.length - host.length - 1)
    let rest := cs.drop (user.length + 1)
    if user.isEmpty && rest.head?.any isEnd then .error .emptyHost
    else
      let name := user.takeWhile (· != ':')
      let password := user.drop (name.length + 1)
      let encode := List.flatMap (encodeChar inUserSet)
      let text := encode name ++ if password.isEmpty then [] else ':' :: encode password
      .ok (if text.isEmpty then [] else text ++ ['@'], rest)

/-- The text of the host, up to a colon outside brackets or the end of the authority. -/
def spanHost (special : Bool) : Bool → List Char → List Char × List Char
  | _, [] => ([], [])
  | bracketed, c :: cs =>
    if (c == ':' && !bracketed) || c == '/' || c == '?' || c == '#' || (c == '\\' && special) then
      ([], c :: cs)
    else
      let bracketed := c == '[' || (bracketed && c != ']')
      let (host, rest) := spanHost special bracketed cs
      (c :: host, rest)

/-- The digits of a port, up to the path, the query or the fragment. -/
def readPort : Option Nat → List Char → Except UrlError (Option Nat × List Char)
  | port, [] => .ok (port, [])
  | port, c :: cs =>
    if c.isDigit then
      let n := 10 * port.getD 0 + (c.toNat - 48)
      if 65535 < n then .error .invalidPort else readPort (some n) cs
    else if c == '/' || c == '\\' || c == '?' || c == '#' then .ok (port, c :: cs)
    else .error .invalidPort

/-- The authority behind two slashes, and what follows it. The usual port is left out. -/
def readAuthority (usual : Option Nat) (cs : List Char) :
    Except UrlError (List Char × List Char) := do
  let special := usual.isSome
  let (user, rest) ← splitUser special cs
  let (hostText, rest) := spanHost special false rest
  let host ←
    if special then if hostText.isEmpty then .error .emptyHost else readHost hostText
    else readPlainHost hostText
  if host.isEmpty && (!user.isEmpty || rest.head? == some ':') then .error .emptyHost
  else
    let (port, rest) ← match rest with
      | ':' :: rest => readPort none rest
      | rest => .ok (none, rest)
    let port := match port with
      | some n => if some n == usual then [] else ':' :: Nat.toDigits 10 n
      | none => []
    .ok (user ++ host ++ port, rest)

def readTail (special : Bool) (cs : List Char) : Option String × Option String :=
  let (query, rest) := match cs with
    | '?' :: rest =>
      let query := rest.takeWhile (· != '#')
      let inSet := if special then inSpecialQuerySet else inQuerySet
      (some (String.ofList (query.flatMap (encodeChar inSet))), rest.drop query.length)
    | cs => (none, cs)
  let fragment := match rest with
    | '#' :: rest => some (String.ofList (rest.flatMap (encodeChar inFragmentSet)))
    | _ => none
  (query, fragment)

def ofParts (scheme : List Char) (authority : Option (List Char)) (special : Bool)
    (path rest : List Char) : Url :=
  let (query, fragment) := readTail special rest
  ⟨String.ofList scheme, authority.map String.ofList, String.ofList path, query, fragment⟩

def isSlash (c : Char) : Bool := c == '/' || c == '\\'

/-- Whether the path has a drive letter as a segment that was read as one. -/
def hasDrive (rules : PathRules) (cs : List Char) : Bool :=
  let path := cs.takeWhile fun c => c != '?' && c != '#'
  rules.file && (path.splitOn '/').any fun part =>
    (part.splitOn '\\').any (isDrive [':', '|'])

/-- A URL of the scheme `file`, behind the colon. A drive letter in the path takes the place of the
host, and the host `localhost` is left out. -/
def readFile (cs : List Char) : Except UrlError Url :=
  let rules : PathRules := ⟨true, true⟩
  let scheme := ['f', 'i', 'l', 'e']
  match cs with
  | a :: b :: rest =>
    if isSlash a && isSlash b then
      let hostText := rest.takeWhile fun c => !(isSlash c || c == '?' || c == '#')
      let behind := rest.drop hostText.length
      if isDrive [':', '|'] hostText then
        let (path, tail) := readPath rules ['/'] rest
        .ok (ofParts scheme (some []) true path tail)
      else do
        let host ← if hostText.isEmpty then .ok [] else readHost hostText
        if host.isEmpty || host == "localhost".toList then
          let (path, tail) := readPath rules ['/'] behind
          .ok (ofParts scheme (some []) true path tail)
        else
          let (path, tail) := readPathStart rules behind
          .ok (ofParts scheme (some (if hasDrive rules behind then [] else host)) true path tail)
    else
      let (path, tail) := readPath rules (if isSlash a then [] else ['/']) cs
      .ok (ofParts scheme (some []) true path tail)
  | cs =>
    let (path, tail) := readPath rules ['/'] cs
    .ok (ofParts scheme (some []) true path tail)

/-- Reads an absolute URL. Controls and spaces around it and line ends and tabs anywhere in it have
no meaning. -/
def read (text : String) : Except UrlError Url :=
  let isOuter := fun c : Char => c.toNat ≤ 0x20
  let trimmed := ((text.toList.dropWhile isOuter).reverse.dropWhile isOuter).reverse
  let cs := trimmed.filter fun c => !(c == '\t' || c == '\n' || c == '\r')
  match splitScheme? cs with
  | none => .error .noScheme
  | some (scheme, rest) =>
    if scheme == ['f', 'i', 'l', 'e'] then readFile rest
    else
      match usualPort? scheme with
      | some port => do
        let (authority, rest) ← readAuthority (some port) (rest.dropWhile isSlash)
        let (path, tail) := readPathStart ⟨true, false⟩ rest
        .ok (ofParts scheme (some authority) true path tail)
      | none =>
        match rest with
        | '/' :: '/' :: rest => do
          let (authority, rest) ← readAuthority none rest
          let (path, tail) := readPathStart ⟨false, false⟩ rest
          .ok (ofParts scheme (some authority) false path tail)
        | '/' :: rest =>
          let (path, tail) := readPath ⟨false, false⟩ ['/'] rest
          .ok (ofParts scheme none false path tail)
        | rest =>
          let (path, tail) := readPlainPath rest
          .ok (ofParts scheme none false path tail)

end Url

end CommandGrammar
