/-! Percent encoding: bytes that may not stand in a part of a URL are written as a percent sign and
two hexadecimal digits. Every part has its own set of ASCII characters that are encoded; what is
not ASCII always is. -/

namespace CommandGrammar.Url

/-- The characters encoded in every part: controls and what is not ASCII. -/
def isControl (c : Char) : Bool := c.toNat < 0x20 || 0x7F ≤ c.toNat

/-- The characters encoded in a fragment. -/
def inFragmentSet (c : Char) : Bool := isControl c || [' ', '"', '<', '>', '\x60'].contains c

/-- The characters encoded in a path. -/
def inPathSet (c : Char) : Bool := inFragmentSet c || ['#', '?', '\x7b', '\x7d'].contains c

/-- The characters encoded in a user name or password. -/
def inUserSet (c : Char) : Bool :=
  inPathSet c || ['/', ':', ';', '=', '@', '[', '\\', ']', '^', '|'].contains c

/-- The characters encoded in a query. -/
def inQuerySet (c : Char) : Bool := isControl c || [' ', '"', '#', '<', '>'].contains c

/-- The characters encoded in a query under one of the special schemes. -/
def inSpecialQuerySet (c : Char) : Bool := inQuerySet c || c == '\''

/-- A byte in percent encoding. -/
def encodeByte (b : UInt8) : List Char :=
  let digit := fun n => Char.ofNat (if n < 10 then 48 + n else 55 + n)
  ['%', digit (b.toNat / 16), digit (b.toNat % 16)]

/-- A character, encoded if it is in the set. -/
def encodeChar (inSet : Char → Bool) (c : Char) : List Char :=
  if inSet c then (String.ofList [c]).toUTF8.toList.flatMap encodeByte else [c]

/-- The value of a hexadecimal digit given as a byte. -/
def hexOfByte? (b : UInt8) : Option UInt8 :=
  if 48 ≤ b && b ≤ 57 then some (b - 48)
  else if 97 ≤ b && b ≤ 102 then some (b - 87)
  else if 65 ≤ b && b ≤ 70 then some (b - 55)
  else none

/-- Takes percent encoding off. A percent sign without two hexadecimal digits behind it stands for
itself. -/
def decodeBytes : List UInt8 → List UInt8
  | [] => []
  | [a] => [a]
  | [a, b] => [a, b]
  | a :: b :: c :: rest =>
    match a == 37, hexOfByte? b, hexOfByte? c with
    | true, some hi, some lo => (16 * hi + lo) :: decodeBytes rest
    | _, _, _ => a :: decodeBytes (b :: c :: rest)

end CommandGrammar.Url
