import CommandGrammar.Decimal.Numeral

/-! Times of day, spans of time and distances from universal time, with their text forms. -/

namespace CommandGrammar

structure TimeOfDay where
  hour : Nat
  minute : Nat
  second : Nat
  hour_lt : hour < 24
  minute_lt : minute < 60
  second_lt : second < 60
  deriving DecidableEq, Repr

namespace TimeOfDay

/-- The time of day with these numbers, if there is one. -/
def of? (hour minute second : Nat) : Option TimeOfDay :=
  if h : hour < 24 ∧ minute < 60 ∧ second < 60 then
    some ⟨hour, minute, second, h.1, h.2.1, h.2.2⟩
  else none

/-- Hours, minutes and seconds in two digits each. -/
def text (t : TimeOfDay) : String :=
  Decimal.twoDigits t.hour ++ ":" ++ Decimal.twoDigits t.minute ++ ":" ++ Decimal.twoDigits t.second

/-- One of the numbers between colons. A number that is left out is zero. -/
def readPart? (parts : List (List Char)) (i : Nat) : Option Nat :=
  match parts[i]? with
  | none => some 0
  | some part => (Decimal.readNatural (Nat.pow 2 32 - 1) part).toOption

/-- Reads hours, minutes and seconds between colons. What follows a third colon is not looked
at. -/
def read? (text : String) : Option TimeOfDay := do
  let parts := text.toList.splitOn ':'
  of? (← readPart? parts 0) (← readPart? parts 1) (← readPart? parts 2)

end TimeOfDay

/-- A span of time, in milliseconds. -/
structure Span where
  milliseconds : Int
  deriving DecidableEq, Repr

namespace Span

/-- The digits of thousandths behind a decimal point, without zeros at the end. -/
def fractionText (thousandths : Nat) : String :=
  let digits := [thousandths / 100, thousandths / 10 % 10, thousandths % 10]
  let kept := (digits.reverse.dropWhile (· == 0)).reverse
  if kept.isEmpty then "" else "." ++ String.join (kept.map toString)

/-- Seconds behind the marks of a period and its time part. An empty span is written in days. -/
def text (s : Span) : String :=
  let n := s.milliseconds.natAbs
  if n = 0 then "P0D"
  else
    (if s.milliseconds < 0 then "-" else "") ++
      "PT" ++ toString (n / 1000) ++ fractionText (n % 1000) ++ "S"

end Span

/-- A distance from universal time, in seconds to the east. -/
structure UtcOffset where
  seconds : Int
  deriving DecidableEq, Repr

namespace UtcOffset

/-- The sign, hours and minutes, and seconds where there are any. -/
def text (o : UtcOffset) : String :=
  let n := o.seconds.natAbs
  (if o.seconds < 0 then "-" else "+") ++
    Decimal.twoDigits (n / 3600) ++ ":" ++ Decimal.twoDigits (n / 60 % 60) ++
    (if n % 60 = 0 then "" else ":" ++ Decimal.twoDigits (n % 60))

end UtcOffset

end CommandGrammar
