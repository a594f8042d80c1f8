import CommandGrammar.Kind
import CommandGrammar.Pattern

/-! Kinds of variables for the names and addresses of a network. -/

namespace CommandGrammar.Kind

/-! ### Addresses -/

def addressPattern : String := "[0-9A-Fa-f:.]+"

def address : Kind :=
  plain "IP address" (some addressPattern) fun t =>
    match Address.read? t with
    | some a => .ok (.address a)
    | none => refuse "IP address" t

/-- The text in front of the first slash, and what follows it. -/
def splitLength (t : String) : String × Option (List Char) :=
  let head := t.toList.takeWhile (· != '/')
  match t.toList.drop head.length with
  | _ :: rest => (String.ofList head, some rest)
  | [] => (t, none)

/-- A network: an address and the number of its leading bits, which are all if no number is
given. -/
def network : Kind :=
  plain "network" (some (addressPattern ++ "(?:/\\d\x7b1,3\x7d)?")) fun t =>
    let (head, length) := splitLength t
    match Address.read? head with
    | none => refuse "network" t
    | some a =>
      match length with
      | none => .ok (.network ⟨a, a.bits⟩)
      | some digits =>
        match Decimal.readNatural 255 digits with
        | .ok n =>
          if n ≤ a.bits then .ok (.network ⟨a, n⟩)
          else refuseWith "network" "invalid prefix length" t
        | .error _ => refuseWith "network" "invalid prefix length" t

/-! ### Host names -/

def hostNamePattern : String :=
  "(?i)[A-Z0-9][A-Z0-9_-]*(?:(?:\\.[A-Z0-9][A-Z0-9_-]*)*\\.[A-Z0-9][A-Z0-9_-]*[A-Z])?\\.?"

/-- The number of names between points, where points at the end do not count. -/
def countParts (t : String) : Nat :=
  ((t.toList.reverse.dropWhile (· == '.')).reverse.splitOn '.').length

/-- A host name that is no address, with at least so many parts and the given ending. -/
def hostName (parts : Nat) (ending : Option String) : Kind :=
  plain "host name" (some hostNamePattern) fun t =>
    if (Address.read? t).isSome then refuse "host name" t
    else if 0 < parts && countParts t < parts then refuseWith "host name" "not enough parts" t
    else
      match ending with
      | some e =>
        if t.endsWith e then .ok (.str t) else refuseWith "host name" ("must end with " ++ e) t
      | none => .ok (.str t)

def hasHostNameForm (t : String) : Bool :=
  (Pattern.compile? hostNamePattern).any (·.accepts t)

def host : Kind :=
  plain "host" (some (addressPattern ++ "|" ++ hostNamePattern)) fun t =>
    match Address.read? t with
    | some a => .ok (.address a)
    | none => if hasHostNameForm t then (hostName 0 none).parse t else refuse "host" t

/-! ### Other names -/

def mailAddress : Kind :=
  plain "e-mail address" (some "(?i)[A-Z0-9._%+-]+@[A-Z0-9.-]+\\.[A-Z]\x7b2,\x7d")
    fun t => .ok (.str t)

def uri : Kind :=
  plain "URI" (some "[a-zA-Z][0-9a-zA-Z+.-]*:\\S+") fun t =>
    match Url.read t with
    | .ok u => .ok (.uri u)
    | .error e => refuseWith "URI" e.message t

/-- The distinguished name of a directory entry. -/
def distinguishedName : Kind :=
  plain "LDAP DN" (some "\\w+=\\w+(?:,\\w+=\\w+)*") fun t => .ok (.str t)

end CommandGrammar.Kind
