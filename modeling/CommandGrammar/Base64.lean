/-! Binary data as text with four characters for three bytes. The last group of four is filled up
with equals signs, and the bits of its last character that carry no data are zero, so that every
sequence of bytes has exactly one text. -/

namespace CommandGrammar.Base64

/-- Why a text is not the form of any data. Positions and symbols are bytes. -/
inductive DecodeError where
  | invalidSymbol (position : Nat) (symbol : UInt8)
  | invalidLength (length : Nat)
  | invalidLastSymbol (position : Nat) (symbol : UInt8)
  | invalidPadding
  deriving DecidableEq, Repr

def DecodeError.message : DecodeError → String
  | invalidSymbol position symbol => s!"Invalid symbol {symbol.toNat}, offset {position}."
  | invalidLength length => s!"Invalid input length: {length}"
  | invalidLastSymbol position symbol => s!"Invalid last symbol {symbol.toNat}, offset {position}."
  | invalidPadding => "Invalid padding"

/-- The equals sign, which fills up the last group. -/
def padding : UInt8 := 61

def symbol (n : Nat) : UInt8 :=
  UInt8.ofNat <|
    if n < 26 then 65 + n
    else if n < 52 then 97 + (n - 26)
    else if n < 62 then 48 + (n - 52)
    else if n = 62 then 43
    else 47

def sextet? (b : UInt8) : Option Nat :=
  let n := b.toNat
  if 65 ≤ n && n ≤ 90 then some (n - 65)
  else if 97 ≤ n && n ≤ 122 then some (n - 97 + 26)
  else if 48 ≤ n && n ≤ 57 then some (n - 48 + 52)
  else if n = 43 then some 62
  else if n = 47 then some 63
  else none

/-- The text of some bytes, as bytes. -/
def encode : List UInt8 → List UInt8
  | [] => []
  | [a] => [symbol (a.toNat / 4), symbol (a.toNat % 4 * 16), padding, padding]
  | [a, b] =>
    [symbol (a.toNat / 4), symbol (a.toNat % 4 * 16 + b.toNat / 16), symbol (b.toNat % 16 * 4),
      padding]
  | a :: b :: c :: rest =>
    symbol (a.toNat / 4) :: symbol (a.toNat % 4 * 16 + b.toNat / 16) ::
      symbol (b.toNat % 16 * 4 + c.toNat / 64) :: symbol (c.toNat % 64) :: encode rest

/-- The bytes in groups of six bits, as many as are complete. -/
def joinSextets : List Nat → List UInt8
  | w :: x :: y :: z :: rest =>
    UInt8.ofNat (w * 4 + x / 16) :: UInt8.ofNat (x % 16 * 16 + y / 4) ::
      UInt8.ofNat (y % 4 * 64 + z) :: joinSextets rest
  | [w, x, y] => [UInt8.ofNat (w * 4 + x / 16), UInt8.ofNat (x % 16 * 16 + y / 4)]
  | [w, x] => [UInt8.ofNat (w * 4 + x / 16)]
  | _ => []

def sextets (position : Nat) : List UInt8 → Except DecodeError (List Nat)
  | [] => .ok []
  | b :: bs =>
    match sextet? b with
    | none => .error (.invalidSymbol position b)
    | some n => (sextets (position + 1) bs).map (n :: ·)

/-- The bits of the last of so many symbols that carry no data. -/
def spareBits (symbols : List Nat) : Nat :=
  match symbols with
  | [_, x] => x % 16
  | [_, _, y] => y % 4
  | _ => 0

/-- Decodes the last group, which begins at the given position. A padding sign among its first two
symbols or in front of another symbol is invalid itself. -/
def decodeLast (position : Nat) (group : List UInt8) : Except DecodeError (List Nat) := do
  let symbols := group.takeWhile (· != padding)
  let filling := group.drop symbols.length
  let values ← sextets position symbols
  if !filling.isEmpty && (symbols.length < 2 || filling.any (· != padding)) then
    .error (.invalidSymbol (position + symbols.length) padding)
  else if symbols.length < 2 then .error (.invalidLength (position + symbols.length))
  else if group.length % 4 ≠ 0 then .error .invalidPadding
  else if spareBits values ≠ 0 then
    .error (.invalidLastSymbol (position + symbols.length - 1) (symbols.getLast?.getD 0))
  else .ok values

/-- The data of a text given as bytes. A lone last symbol is looked at first. -/
def decode (text : List UInt8) : Except DecodeError (List UInt8) :=
  let odd := text.length % 4
  let complete := text.length - (if odd = 0 then 4 else odd)
  match text.getLast? with
  | none => .ok []
  | some last =>
    if odd = 1 && last != padding && (sextet? last).isNone then
      .error (.invalidSymbol (text.length - 1) last)
    else do
      let head ← sextets 0 (text.take complete)
      let tail ← decodeLast complete (text.drop complete)
      .ok (joinSextets (head ++ tail))

end CommandGrammar.Base64
