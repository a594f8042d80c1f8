/-! Punycode: a label of a domain name in any script, written with ASCII letters, digits and
hyphens. The ASCII characters come first, then a hyphen, then the positions and code points of the
others as numbers of variable length. -/

namespace CommandGrammar.Url.Punycode

/-- The digit for a value below 36. -/
def digit (n : Nat) : Char := Char.ofNat (if n < 26 then 97 + n else 22 + n)

/-- The value of a digit. -/
def value? (c : Char) : Option Nat :=
  if 'a' ≤ c && c ≤ 'z' then some (c.toNat - 97)
  else if 'A' ≤ c && c ≤ 'Z' then some (c.toNat - 65)
  else if '0' ≤ c && c ≤ '9' then some (c.toNat - 22)
  else none

/-- Divides by 35 until little is left. -/
def scaleDown : Nat → Nat → Nat → Nat × Nat
  | 0, delta, k => (delta, k)
  | fuel + 1, delta, k => if 455 < delta then scaleDown fuel (delta / 35) (k + 36) else (delta, k)

/-- The next bias, after a delta was written. -/
def adapt (delta count : Nat) (first : Bool) : Nat :=
  let delta := if first then delta / 700 else delta / 2
  let delta := delta + delta / count
  let (delta, k) := scaleDown delta.log2.succ delta 0
  k + 36 * delta / (delta + 38)

/-- The least digit that does not end a number, at a place. -/
def threshold (k bias : Nat) : Nat :=
  if k ≤ bias + 1 then 1 else if bias + 26 ≤ k then 26 else k - bias

/-- A number of variable length, from the given place on. -/
def writeNumber (bias : Nat) : Nat → Nat → Nat → List Char
  | 0, _, _ => []
  | fuel + 1, k, q =>
    let t := threshold k bias
    if q < t then [digit q]
    else digit (t + (q - t) % (36 - t)) :: writeNumber bias fuel (k + 36) ((q - t) / (36 - t))

/-- The state of the writer: the code point reached, the delta so far, the bias, how many
characters are written, and whether any but ASCII ones are. -/
structure Writer where
  delta : Nat
  bias : Nat
  written : Nat
  first : Bool
  out : List Char

/-- Writes all occurrences of one code point. -/
def writePoint (n : Nat) (w : Writer) (label : List Char) : Writer :=
  label.foldl (fun w c =>
    if c.toNat < n then { w with delta := w.delta + 1 }
    else if c.toNat = n then
      { delta := 0
        bias := adapt w.delta (w.written + 1) w.first
        written := w.written + 1
        first := false
        out := w.out ++ writeNumber w.bias (w.delta + 2) 36 w.delta }
    else w) w

/-- The ASCII form of a label. -/
def encode (label : List Char) : List Char :=
  let basic := label.filter (·.toNat < 128)
  let others := ((label.filter (128 ≤ ·.toNat)).map (·.toNat)).mergeSort.eraseDups
  let start : Writer := ⟨0, 72, basic.length, true, if basic.isEmpty then [] else basic ++ ['-']⟩
  (others.foldl (fun (n, w) m =>
    let w := { w with delta := w.delta + (m - n) * (w.written + 1) }
    let w := writePoint m w label
    (m + 1, { w with delta := w.delta + 1 })) (128, start)).2.out

/-- Reads a number of variable length and adds it, in units of the weight, to a sum. -/
def readNumber (bias : Nat) : Nat → Nat → Nat → List Char → Option (Nat × List Char)
  | _, _, _, [] => none
  | k, weight, sum, c :: cs => do
    let d ← value? c
    let sum := sum + d * weight
    let t := threshold k bias
    if d < t then some (sum, cs) else readNumber bias (k + 36) (weight * (36 - t)) sum cs

/-- Reads the insertions: each puts the code point reached so far at a place among the characters
read so far. The number bounds how many there are. -/
def readInsertions (n i bias : Nat) (out : List Char) : Nat → List Char → Option (List Char)
  | _, [] => some out
  | 0, _ => none
  | fuel + 1, cs => do
    let (sum, rest) ← readNumber bias 36 1 i cs
    let count := out.length + 1
    let n := n + sum / count
    let place := sum % count
    if !n.isValidChar then none
    else
      readInsertions n (place + 1) (adapt (sum - i) count (i == 0))
        (out.take place ++ Char.ofNat n :: out.drop place) fuel rest

/-- The label that an ASCII form stands for. -/
def decode? (cs : List Char) : Option (List Char) :=
  let reversed := cs.reverse
  let tail := (reversed.takeWhile (· != '-')).reverse
  let basic := ((reversed.drop tail.length).drop 1).reverse
  readInsertions 128 0 72 basic tail.length tail

end CommandGrammar.Url.Punycode
