import CommandGrammar.Decimal.Numeral
import CommandGrammar.Decimal.Shortest

/-! Reading and writing floating point numbers. -/

namespace CommandGrammar.Decimal

/-! ### Writing -/

def digitText (digits : List Nat) : String :=
  String.ofList (digits.map fun d => Char.ofNat (48 + d))

/-- A decimal written with a point where needed and without an exponent. -/
def positional (d : Shortest) : String :=
  if d.exponent ≤ 0 then
    "0." ++ digitText (List.replicate (-d.exponent).toNat 0 ++ d.digits)
  else
    let whole := d.exponent.toNat
    if d.digits.length ≤ whole then
      digitText (d.digits ++ List.replicate (whole - d.digits.length) 0)
    else digitText (d.digits.take whole) ++ "." ++ digitText (d.digits.drop whole)

/-- A decimal written with one digit before the point and an exponent. -/
def scientific (d : Shortest) : String :=
  let fraction := d.digits.drop 1
  digitText (d.digits.take 1) ++ (if fraction.isEmpty then "" else "." ++ digitText fraction) ++
    "e" ++ toString (d.exponent - 1)

/-- Writes a number with its sign, given how zero and the positive finite numbers are written. -/
def signedText (zero : String) (positive : Shortest → String) (x : Float) : String :=
  if x.isNaN then "NaN"
  else
    let bits := x.toBits
    let sign := if bits >>> 63 == 1 then "-" else ""
    let magnitude := bits &&& 0x7FFFFFFFFFFFFFFF
    if magnitude == 0x7FF0000000000000 then sign ++ "inf"
    else if magnitude == 0 then sign ++ zero
    else sign ++ positive (Rounding.ofBits magnitude).shortest

/-- The plain form of a number: the fewest digits that identify it, never an exponent, and no
point in a whole number. -/
def plainText (x : Float) : String := signedText "0" positional x

/-- The form of a number in a listing of values: a whole number keeps one zero behind the point,
and an exponent is used from `1e16` on and below `1e-4`. -/
def listedText (x : Float) : String :=
  signedText "0.0" (fun d =>
    if 16 < d.exponent || d.exponent < -3 then scientific d
    else if d.digits.length ≤ d.exponent.toNat then positional d ++ ".0"
    else positional d) x

/-! ### Reading -/

/-- The digits at the front of a text, and what follows them. -/
def spanDigits (cs : List Char) : List Char × List Char :=
  (cs.takeWhile Char.isDigit, cs.dropWhile Char.isDigit)

def digitValue (cs : List Char) : Nat := cs.foldl (fun n c => 10 * n + (c.toNat - 48)) 0

/-- The number nearest to `digits * 10 ^ exponent`. Beyond the range of exponents the number is
infinite or zero. -/
def nearestFloat (digits : List Char) (exponent : Int) : Float :=
  let digits := digits.dropWhile (· == '0')
  let magnitude := exponent + digits.length
  if digits.isEmpty || magnitude < -400 then 0
  else if 400 < magnitude then 1 / 0
  else Float.ofScientific (digitValue digits) (decide (exponent < 0)) exponent.natAbs

/-- The exponent behind the digits of a number, if it is well formed: nothing, or the letter E, an
optional sign and at least one digit. -/
def readExponent? : List Char → Option Int
  | [] => some 0
  | c :: cs =>
    if c != 'e' && c != 'E' then none
    else
      let (negative, digits) := match cs with
        | '-' :: rest => (true, rest)
        | '+' :: rest => (false, rest)
        | rest => (false, rest)
      if digits.isEmpty || !digits.all Char.isDigit then none
      else if negative then some (-(digitValue digits : Int))
      else some (digitValue digits)

/-- Reads a number without its sign. The words for infinity and for no number may be written in
any case. -/
def readMagnitude? (cs : List Char) : Option Float :=
  let (whole, rest) := spanDigits cs
  let (fraction, rest) := match rest with
    | '.' :: rest => spanDigits rest
    | rest => ([], rest)
  if whole.isEmpty && fraction.isEmpty then
    match String.ofList (cs.map Char.toLower) with
    | "inf" => some (1 / 0)
    | "infinity" => some (1 / 0)
    | "nan" => some (0 / 0)
    | _ => none
  else
    (readExponent? rest).map fun e => nearestFloat (whole ++ fraction) (e - fraction.length)

/-- Reads a number: optional sign, digits with an optional point among or around them, and an
optional exponent. -/
def readFloat? (text : String) : Option Float :=
  match text.toList with
  | '-' :: cs => (readMagnitude? cs).map fun x => -x
  | '+' :: cs => readMagnitude? cs
  | cs => readMagnitude? cs

end CommandGrammar.Decimal
