/-! Reading bytes as UTF-8 text. Where the bytes are no UTF-8, each longest beginning of a
character that cannot be completed becomes one replacement character. -/

namespace CommandGrammar.Text

/-- Where the reader is: between characters, or inside one, with the value read so far, the bounds
of the next byte and the number of bytes behind that one. -/
inductive Utf8Reader where
  | between
  | inside (value : Nat) (lo hi : UInt8) (left : Nat)
  deriving DecidableEq, Repr

namespace Utf8Reader

/-- The character that stands for bytes that are no text. -/
def replacement : Char := '\ufffd'

def start (b : UInt8) : Utf8Reader × List Char :=
  if b < 0x80 then (between, [Char.ofNat b.toNat])
  else if 0xC2 ≤ b && b ≤ 0xDF then (inside (b.toNat - 0xC0) 0x80 0xBF 0, [])
  else if b == 0xE0 then (inside 0 0xA0 0xBF 1, [])
  else if b == 0xED then (inside 13 0x80 0x9F 1, [])
  else if 0xE1 ≤ b && b ≤ 0xEF then (inside (b.toNat - 0xE0) 0x80 0xBF 1, [])
  else if b == 0xF0 then (inside 0 0x90 0xBF 2, [])
  else if 0xF1 ≤ b && b ≤ 0xF3 then (inside (b.toNat - 0xF0) 0x80 0xBF 2, [])
  else if b == 0xF4 then (inside 4 0x80 0x8F 2, [])
  else (between, [replacement])

def step : Utf8Reader → UInt8 → Utf8Reader × List Char
  | between, b => start b
  | inside value lo hi left, b =>
    if lo ≤ b && b ≤ hi then
      let value := 64 * value + (b.toNat - 0x80)
      match left with
      | 0 => (between, [Char.ofNat value])
      | left + 1 => (inside value 0x80 0xBF left, [])
    else
      let (next, out) := start b
      (next, replacement :: out)

def run : Utf8Reader → List UInt8 → List Char
  | between, [] => []
  | inside .., [] => [replacement]
  | reader, b :: bs =>
    let (next, out) := reader.step b
    out ++ run next bs

end Utf8Reader

def ofUtf8 (bytes : List UInt8) : String := String.ofList (Utf8Reader.between.run bytes)

end CommandGrammar.Text
