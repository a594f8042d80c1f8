import CommandGrammar.Network.Address
import CommandGrammar.Text.Blank
import CommandGrammar.Text.CaseClass
import CommandGrammar.Text.Category
import CommandGrammar.Text.Unprintable
import CommandGrammar.Url.Percent
import CommandGrammar.Url.Punycode

/-! The host of a URL. Under a special scheme it is an address of either version, also in the loose
notations for version 4, or a domain name, which is brought into lower case and ASCII. Under any
other scheme all but version 6 addresses is left as it is. -/

namespace CommandGrammar.Url

/-- Why a text is not a URL. -/
inductive UrlError where
  | noScheme
  | emptyHost
  | invalidPort
  | invalidAddress4
  | invalidAddress6
  | invalidDomain
  | invalidHostChar
  deriving DecidableEq, Repr

def UrlError.message : UrlError → String
  | noScheme => "relative URL without a base"
  | emptyHost => "empty host"
  | invalidPort => "invalid port number"
  | invalidAddress4 => "invalid IPv4 address"
  | invalidAddress6 => "invalid IPv6 address"
  | invalidDomain => "invalid international domain name"
  | invalidHostChar => "invalid domain character"

/-! ### Version 4 addresses -/

/-- A number in decimal, in octal after a zero, or in hexadecimal after `0x`. -/
def readNumber4? (cs : List Char) : Option Nat :=
  let (base, digits) := match cs with
    | '0' :: 'x' :: rest => (16, rest)
    | '0' :: 'X' :: rest => (16, rest)
    | '0' :: c :: rest => (8, c :: rest)
    | cs => (10, cs)
  if cs.isEmpty then none
  else
    digits.foldlM (fun n c => do
      let d ← Address.hexDigit? c
      if d < base then some (base * n + d) else none) 0

/-- The labels of a name, without an empty one at the end. -/
def labels (cs : List Char) : List (List Char) :=
  let parts := cs.splitOn '.'
  if parts.getLast? == some [] then parts.dropLast else parts

/-- Whether the last label of a name is a number, so that the name must be an address. -/
def endsInNumber (cs : List Char) : Bool :=
  match (labels cs).getLast? with
  | none => false
  | some last => !last.isEmpty && (last.all Char.isDigit || (readNumber4? last).isSome)

/-- A version 4 address of one to four numbers, of which the last fills all remaining bytes. -/
def readAddress4? (cs : List Char) : Option Address := do
  let parts := labels cs
  if 4 < parts.length then none
  else
    let numbers ← parts.mapM readNumber4?
    let last ← numbers.getLast?
    let head := numbers.dropLast
    if head.any (255 < ·) || Nat.pow 256 (4 - head.length) ≤ last then none
    else
      let high := head.foldl (fun n d => 256 * n + d) 0
      let value := high * Nat.pow 256 (4 - head.length) + last
      some (.v4 (UInt8.ofNat (value / Nat.pow 256 3)) (UInt8.ofNat (value / Nat.pow 256 2))
        (UInt8.ofNat (value / 256)) (UInt8.ofNat value))

/-! ### Domain names -/

/-- The characters that may not stand in a domain name. -/
def isForbiddenInDomain (c : Char) : Bool :=
  c.toNat ≤ 0x20 || c.toNat == 0x7F ||
    ['#', '%', '/', ':', '<', '>', '?', '@', '[', '\\', ']', '^', '|'].contains c

/-- A character as it is compared in domain names: in lower case, of normal width, and a point for
each kind of full stop. Marks that are not seen are left out. -/
def mapDomainChar (c : Char) : List Char :=
  let n := c.toNat
  if n == 0xAD || n == 0x200B || n == 0x2060 || n == 0xFEFF || (0xFE00 ≤ n && n ≤ 0xFE0F) then []
  else if n == 0x3002 || n == 0xFF0E || n == 0xFF61 then ['.']
  else if n == 0x3C2 then [c]
  else if n == 0x130 then ['i', '\u0307']
  else if 0xFF01 ≤ n && n ≤ 0xFF5E then [Char.ofNat (Text.foldCase (n - 0xFEE0))]
  else [Char.ofNat (Text.foldCase n)]

/-- Whether a character beyond ASCII may stand in a label as it is. -/
def isLabelChar (c : Char) : Bool :=
  c.toNat < 128 ||
    (mapDomainChar c == [c] && !Text.unprintableRanges.contains c.toNat && !Text.isBlank c)

/-- Whether a label may stand as it is. A mark needs a character before it. -/
def isLabel (label : List Char) : Bool :=
  label.all isLabelChar &&
    !label.head?.any fun c => (Text.Category.rangesOf Text.Category.marks).contains c.toNat

/-- The ASCII form of a label. A label that already is one must stand for a label that needs it. -/
def asciiLabel? (label : List Char) : Option (List Char) :=
  match label with
  | 'x' :: 'n' :: '-' :: '-' :: code =>
    match Punycode.decode? code with
    | none => none
    | some decoded =>
      if label.all (·.toNat < 128) && decoded.any (128 ≤ ·.toNat) && isLabel decoded &&
          Punycode.encode decoded == code then some label
      else none
  | label =>
    if label.all (·.toNat < 128) then some label
    else if isLabel label then some (['x', 'n', '-', '-'] ++ Punycode.encode label)
    else none

/-- The ASCII form of a domain name. -/
def asciiDomain? (name : List Char) : Option (List Char) := do
  let mapped := name.flatMap mapDomainChar
  let labels ← (mapped.splitOn '.').mapM asciiLabel?
  let ascii := ['.'].intercalate labels
  if ascii.any isForbiddenInDomain then none else some ascii

/-! ### Hosts -/

/-- The characters that may not stand in a host under a scheme that is not special. -/
def isForbiddenInHost (c : Char) : Bool :=
  ['\x00', '\t', '\n', '\r', ' ', '#', '/', ':', '<', '>', '?', '@', '[', '\\', ']', '^',
    '|'].contains c

/-- The text form of a version 6 address in brackets. -/
def readBracketed (cs : List Char) : Except UrlError (List Char) :=
  match cs.getLast?, Address.readGroups? cs.dropLast with
  | some ']', some groups =>
    if groups.length = 8 then .ok ('[' :: Address.compressed groups ++ [']'])
    else .error .invalidAddress6
  | _, _ => .error .invalidAddress6

/-- The host of a URL with a special scheme, as it is written in the URL. -/
def readHost (cs : List Char) : Except UrlError (List Char) :=
  match cs with
  | '[' :: rest => readBracketed rest
  | cs =>
    let bytes := decodeBytes (String.ofList cs).toUTF8.toList
    match String.fromUTF8? (ByteArray.mk bytes.toArray) with
    | none => .error .invalidDomain
    | some decoded =>
      match asciiDomain? decoded.toList with
      | none => .error .invalidDomain
      | some name =>
        if name.isEmpty then .error .emptyHost
        else if endsInNumber name then
          match readAddress4? name with
          | some address => .ok address.chars
          | none => .error .invalidAddress4
        else .ok name

/-- The host of a URL with any other scheme, as it is written in the URL. -/
def readPlainHost (cs : List Char) : Except UrlError (List Char) :=
  match cs with
  | '[' :: rest => readBracketed rest
  | cs =>
    if cs.any isForbiddenInHost then .error .invalidHostChar
    else .ok (cs.flatMap (encodeChar isControl))

end CommandGrammar.Url
