/-! The shortest decimal that identifies a binary floating point number.

A number is first taken apart into a fraction and the two halfway points to its neighbours. Every
decimal strictly between these, and also on them if the significand is even, reads back as the
number. For one digit, two digits and so on the two decimals next to the number are tried; the
first length at which one reads back is the shortest, and the nearer of the two is taken, the
greater one if both are as near. -/

namespace CommandGrammar.Decimal

/-- A decimal `0.d₁d₂d₃…` times a power of ten, given by its digits and the exponent. The first
digit is not zero. -/
structure Shortest where
  digits : List Nat
  exponent : Int
  deriving DecidableEq, Repr

/-- A positive number and the halfway points to its neighbours, as numerators over one common
denominator. -/
structure Rounding where
  value : Nat
  below : Nat
  above : Nat
  denominator : Nat
  closed : Bool

/-- The rounding interval of a positive finite number, from its bits. Just above a power of two the
neighbour below is half as far away as the one above. -/
def Rounding.ofBits (bits : UInt64) : Rounding :=
  let field := ((bits >>> 52) &&& 0x7FF).toNat
  let fraction := (bits &&& 0xFFFFFFFFFFFFF).toNat
  let significand := if field = 0 then fraction else Nat.pow 2 52 + fraction
  let exponent : Int := if field = 0 then -1074 else (field : Int) - 1075
  let unit := Nat.pow 2 exponent.toNat
  let gapBelow := if fraction = 0 && 1 < field then unit else 2 * unit
  { value := 4 * significand * unit
    below := 4 * significand * unit - gapBelow
    above := 4 * significand * unit + 2 * unit
    denominator := 4 * Nat.pow 2 (-exponent).toNat
    closed := significand % 2 == 0 }

/-- Whether `n * 10 ^ e` lies in the rounding interval. -/
def Rounding.readsBack (r : Rounding) (n : Nat) (e : Int) : Bool :=
  let decimal := n * Nat.pow 10 e.toNat * r.denominator
  let scale := Nat.pow 10 (-e).toNat
  if r.closed then r.below * scale ≤ decimal && decimal ≤ r.above * scale
  else r.below * scale < decimal && decimal < r.above * scale

/-- The least exponent of ten above the number. Doubles lie between the powers -324 and 309. -/
def Rounding.magnitude (r : Rounding) : Int :=
  match (List.range 640).find? fun i =>
      r.value * Nat.pow 10 (325 - i) < Nat.pow 10 (i - 325) * r.denominator with
  | some i => (i : Int) - 325
  | none => 0

/-- The decimal with the given exponent next to the number that reads back, if one does. -/
def Rounding.nearest? (r : Rounding) (e : Int) : Option Nat :=
  let scaled := r.value * Nat.pow 10 (-e).toNat
  let unit := Nat.pow 10 e.toNat * r.denominator
  let low := scaled / unit
  let isNearLow := 2 * (scaled % unit) < unit
  match r.readsBack low e, r.readsBack (low + 1) e with
  | true, true => some (if isNearLow then low else low + 1)
  | true, false => some low
  | false, true => some (low + 1)
  | false, false => none

def digitsOf (n : Nat) : List Nat := (Nat.toDigits 10 n).map fun c => c.toNat - 48

/-- The number without the zeros at its end, and their count. -/
def stripZeros : Nat → Nat → Nat × Nat
  | 0, n => (n, 0)
  | fuel + 1, n =>
    if n % 10 = 0 && n ≠ 0 then
      let (m, zeros) := stripZeros fuel (n / 10)
      (m, zeros + 1)
    else (n, 0)

/-- The shortest decimal that reads back. Seventeen digits are always enough. -/
def Rounding.shortest (r : Rounding) : Shortest :=
  let top := r.magnitude
  let found := (List.range 17).findSome? fun i =>
    let e := top - (i + 1 : Nat)
    (r.nearest? e).map fun n => (n, e)
  match found with
  | some (n, e) =>
    let (m, zeros) := stripZeros 17 n
    let digits := digitsOf m
    ⟨digits, e + (zeros : Int) + digits.length⟩
  | none => ⟨[0], 1⟩

end CommandGrammar.Decimal
