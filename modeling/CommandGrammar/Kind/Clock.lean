import CommandGrammar.Candidate
import CommandGrammar.Kind.Number

/-! Kinds of variables for times. -/

namespace CommandGrammar.Kind

def time : Kind :=
  plain "time" (some "\\d\\d:\\d\\d(?::\\d\\d)?") fun t =>
    match TimeOfDay.read? t with
    | some time => .ok (.time time)
    | none => refuse "time" t

/-! ### Spans -/

/-- The number of seconds that a letter stands for. -/
def unitSeconds? (c : Char) : Option Float :=
  match c.toLower with
  | 'w' => some 604800
  | 'd' => some 86400
  | 'h' => some 3600
  | 'm' => some 60
  | 's' => some 1
  | _ => none

/-- The amount before the unit, and the unit in seconds. -/
def readAmount? (t : String) : Option (Float × Float) := do
  let cs := t.toList
  let unit ← cs.getLast?.bind unitSeconds?
  let amount ← Decimal.readFloat? (String.ofList cs.dropLast)
  some (amount, unit)

/-- The span of so many milliseconds. Its absolute value has to fit into 63 bits; the bound itself
is taken for the greatest span. -/
def spanOf? (milliseconds : Float) : Option Span :=
  if milliseconds.isFinite && milliseconds.abs ≤ 9223372036854775808.0 then
    let n := milliseconds.toInt64.toInt
    if n < -(Nat.pow 2 63 - 1) then none else some ⟨n⟩
  else none

/-- A number of weeks, days, hours, minutes or seconds, rounded to milliseconds. -/
def relativeTime : Kind :=
  plain "relative time" (some (floatPattern ++ "(?i:[wdhms])")) fun t =>
    match readAmount? t with
    | none => refuse "relative time" t
    | some (amount, unit) =>
      match spanOf? (amount * unit * 1000).round with
      | some span => .ok (.span span)
      | none => refuseWith "relative time" "out of range" t

/-! ### Time zones -/

/-- The time zones, with their distance from universal time in hours. -/
def timeZones : List (String × Int) :=
  [("UTC", 0), ("GMT-12:00", -12), ("GMT-11:00", -11), ("GMT-10:00", -10), ("GMT-9:00", -9),
   ("GMT-8:00", -8), ("GMT-7:00", -7), ("GMT-6:00", -6), ("GMT-5:00", -5), ("GMT-4:00", -4),
   ("GMT-3:00", -3), ("GMT-2:00", -2), ("GMT-1:00", -1), ("GMT", 0), ("GMT+1:00", 1),
   ("GMT+2:00", 2), ("GMT+3:00", 3), ("GMT+4:00", 4), ("GMT+5:00", 5), ("GMT+6:00", 6),
   ("GMT+7:00", 7), ("GMT+8:00", 8), ("GMT+9:00", 9), ("GMT+10:00", 10), ("GMT+11:00", 11),
   ("GMT+12:00", 12), ("GMT+13:00", 13)]

def timeZone : Kind where
  name := "time zone"
  pattern := some "[-+:/\\w]+"
  parse t :=
    match timeZones.lookup t with
    | some hours => .ok (.offset ⟨hours * 3600⟩)
    | none => refuse "time zone" t
  candidates := Candidate.ofWords (timeZones.map (·.1))
  traversals := none
  matchCandidates := true

end CommandGrammar.Kind
