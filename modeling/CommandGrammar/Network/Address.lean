import CommandGrammar.Decimal.Numeral

/-! IP addresses, their text form, and networks given by an address and a number of leading bits.

In the text of a version 6 address the first of its longest runs of at least two zero groups is
left out, and an address that embeds one of version 4 ends in that address. -/

namespace CommandGrammar

inductive Address where
  | v4 (a b c d : UInt8)
  | v6 (a b c d e f g h : UInt16)
  deriving DecidableEq, Repr

namespace Address

/-- Whether the address belongs to the machine itself. -/
def isLoopback : Address → Bool
  | v4 a _ _ _ => a == 127
  | v6 a b c d e f g h => [a, b, c, d, e, f, g] == [0, 0, 0, 0, 0, 0, 0] && h == 1

/-- The number of bits of an address of the same version. -/
def bits : Address → Nat
  | v4 .. => 32
  | v6 .. => 128

/-! ### Text form -/

def dotted (a b c d : UInt8) : List Char :=
  ['.'].intercalate ([a, b, c, d].map fun n => Nat.toDigits 10 n.toNat)

/-- Groups in hexadecimal, with colons between. -/
def groupsText (groups : List UInt16) : List Char :=
  [':'].intercalate (groups.map fun n => Nat.toDigits 16 n.toNat)

/-- The length of the run of zeros at the front. -/
def leadingZeros (groups : List UInt16) : Nat := (groups.takeWhile (· == 0)).length

/-- The place and the length of the first of the longest runs of zeros. -/
def longestZeros (groups : List UInt16) : Nat × Nat :=
  (List.range groups.length).foldl (fun best i =>
    let n := leadingZeros (groups.drop i)
    if best.2 < n then (i, n) else best) (0, 0)

/-- Eight groups, where the first of the longest runs of at least two zeros is left out. -/
def compressed (groups : List UInt16) : List Char :=
  let (start, length) := longestZeros groups
  if length < 2 then groupsText groups
  else groupsText (groups.take start) ++ [':', ':'] ++ groupsText (groups.drop (start + length))

def chars : Address → List Char
  | v4 a b c d => dotted a b c d
  | v6 a b c d e f g h =>
    if [a, b, c, d, e, f] == [0, 0, 0, 0, 0, 0xFFFF] then
      [':', ':', 'f', 'f', 'f', 'f', ':'] ++
        dotted (g >>> 8).toUInt8 g.toUInt8 (h >>> 8).toUInt8 h.toUInt8
    else compressed [a, b, c, d, e, f, g, h]

def text (a : Address) : String := String.ofList a.chars

/-! ### Reading -/

/-- One to three digits without a leading zero, at most 255. -/
def readOctet? (cs : List Char) : Option UInt8 :=
  if 3 < cs.length || (1 < cs.length && cs.head? == some '0') then none
  else
    match Decimal.readMagnitude 255 .tooLarge cs with
    | .ok n => some (UInt8.ofNat n)
    | .error _ => none

def readDotted? (cs : List Char) : Option (UInt8 × UInt8 × UInt8 × UInt8) :=
  match (cs.splitOn '.').mapM readOctet? with
  | some [a, b, c, d] => some (a, b, c, d)
  | _ => none

def hexDigit? (c : Char) : Option Nat :=
  if '0' ≤ c && c ≤ '9' then some (c.toNat - 48)
  else if 'a' ≤ c && c ≤ 'f' then some (c.toNat - 87)
  else if 'A' ≤ c && c ≤ 'F' then some (c.toNat - 55)
  else none

/-- Goes on reading hexadecimal digits behind a value. -/
def readHex : Nat → List Char → Option Nat
  | value, [] => some value
  | value, c :: cs => (hexDigit? c).bind fun d => readHex (16 * value + d) cs

/-- One to four hexadecimal digits. -/
def readGroup? (cs : List Char) : Option UInt16 :=
  if cs.isEmpty || 4 < cs.length then none else (readHex 0 cs).map UInt16.ofNat

def joinOctets (hi lo : UInt8) : UInt16 := hi.toUInt16 * 256 + lo.toUInt16

/-- Groups between colons, of which the last may be a version 4 address standing for two. -/
def readPieces? : List (List Char) → Option (List UInt16)
  | [] => some []
  | [last] =>
    match readDotted? last with
    | some (a, b, c, d) => some [joinOctets a b, joinOctets c d]
    | none => (readGroup? last).map fun g => [g]
  | piece :: pieces =>
    match readGroup? piece, readPieces? pieces with
    | some g, some gs => some (g :: gs)
    | _, _ => none

/-- The pieces of a text between colons. The empty text has none. -/
def pieces (cs : List Char) : List (List Char) := if cs.isEmpty then [] else cs.splitOn ':'

/-- The text before and behind the first double colon. -/
def splitDouble : List Char → Option (List Char × List Char)
  | [] => none
  | ':' :: ':' :: rest => some ([], rest)
  | c :: cs => (splitDouble cs).map fun (before, behind) => (c :: before, behind)

/-- The eight groups of a version 6 address. A double colon stands for at least one group of
zeros. -/
def readGroups? (cs : List Char) : Option (List UInt16) :=
  match splitDouble cs with
  | none => readPieces? (pieces cs)
  | some (before, behind) =>
    match (pieces before).mapM readGroup?, readPieces? (pieces behind) with
    | some head, some tail =>
      if head.length + tail.length ≤ 7 then
        some (head ++ List.replicate (8 - (head.length + tail.length)) 0 ++ tail)
      else none
    | _, _ => none

/-- Reads the text form of an address. -/
def read? (text : String) : Option Address :=
  match readDotted? text.toList with
  | some (a, b, c, d) => some (v4 a b c d)
  | none =>
    match readGroups? text.toList with
    | some [a, b, c, d, e, f, g, h] => some (v6 a b c d e f g h)
    | _ => none

end Address

/-- A network: the addresses that agree with the given one in the first bits. -/
structure Network where
  address : Address
  length : Nat
  deriving DecidableEq, Repr

/-- The text form of a network: the address, a slash and the number of bits. -/
def Network.text (n : Network) : String := n.address.text ++ "/" ++ toString n.length

end CommandGrammar
