import CommandGrammar.Kind

/-! Kinds of variables for numbers. -/

namespace CommandGrammar.Kind

def integer : Kind :=
  plain "integer" (some "[-+]?\\d+") fun t =>
    match Decimal.readInteger (Nat.pow 2 63) (Nat.pow 2 63 - 1) t.toList with
    | .ok n => .ok (.int n)
    | .error .malformed => refuse "integer" t
    | .error .tooLarge => refuseWith "integer" "too large" t
    | .error .tooSmall => refuseWith "integer" "too small" t

def floatPattern : String := "[-+]?[0-9]*\\.?[0-9]+(?:[eE][-+]?[0-9]+)?"

def float : Kind :=
  plain "real number" (some floatPattern) fun t =>
    match Decimal.readFloat? t with
    | some x => .ok (.float x)
    | none => refuse "real number" t

end CommandGrammar.Kind
