/-! Whole numbers written in decimal: optional sign, then ASCII digits, within given bounds. The
digits are read from the left, so the first character that is no digit or leaves the bounds
decides what is wrong. -/

namespace CommandGrammar.Decimal

/-- Why a text is not a numeral within the bounds. -/
inductive NumeralError where
  | malformed
  | tooLarge
  | tooSmall
  deriving DecidableEq, Repr

def digit? (c : Char) : Option Nat :=
  if '0' ≤ c && c ≤ '9' then some (c.toNat - 48) else none

/-- Goes on reading digits behind a value, which may not exceed the bound. -/
def readDigits (bound : Nat) (excess : NumeralError) : Nat → List Char → Except NumeralError Nat
  | value, [] => .ok value
  | value, c :: cs =>
    match digit? c with
    | none => .error .malformed
    | some d =>
      if bound < 10 * value + d then .error excess
      else readDigits bound excess (10 * value + d) cs

def readMagnitude (bound : Nat) (excess : NumeralError) (cs : List Char) :
    Except NumeralError Nat :=
  if cs.isEmpty then .error .malformed else readDigits bound excess 0 cs

/-- Reads a numeral with an optional sign, from `-below` to `above`. -/
def readInteger (below above : Nat) : List Char → Except NumeralError Int
  | '-' :: cs => (readMagnitude below .tooSmall cs).map fun n => -(n : Int)
  | '+' :: cs => (readMagnitude above .tooLarge cs).map fun n => (n : Int)
  | cs => (readMagnitude above .tooLarge cs).map fun n => (n : Int)

/-- Reads a numeral without a minus sign, up to `above`. -/
def readNatural (above : Nat) : List Char → Except NumeralError Nat
  | '+' :: cs => readMagnitude above .tooLarge cs
  | cs => readMagnitude above .tooLarge cs

/-- Two digits at least, with a leading zero where needed. -/
def twoDigits (n : Nat) : String := if n < 10 then "0" ++ toString n else toString n

end CommandGrammar.Decimal
