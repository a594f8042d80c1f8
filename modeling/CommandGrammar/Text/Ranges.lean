/-! Sets of code points as ascending closed ranges. -/

namespace CommandGrammar.Text

/-- Closed ranges of code points, in ascending order of their starts. -/
abbrev Ranges := List (Nat × Nat)

/-- Whether the code point lies in one of the ranges. The search ends at the first range that
begins behind it. -/
def Ranges.contains : Ranges → Nat → Bool
  | [], _ => false
  | (lo, hi) :: rest, n => if n < lo then false else n ≤ hi || Ranges.contains rest n

def Ranges.union (a b : Ranges) : Ranges := a.merge b fun x y => x.1 ≤ y.1

/-- The gaps between ascending ranges, from `start` on. -/
def Ranges.gaps (start : Nat) : Ranges → Ranges
  | [] => if start ≤ 0x10FFFF then [(start, 0x10FFFF)] else []
  | (lo, hi) :: rest =>
    if start < lo then (start, lo - 1) :: Ranges.gaps (hi + 1) rest
    else Ranges.gaps (max start (hi + 1)) rest

def Ranges.complement (a : Ranges) : Ranges := a.gaps 0

/-- The code points of the first set that are not in the second. -/
def Ranges.diff (a b : Ranges) : Ranges := (a.complement.union b).complement

def Ranges.inter (a b : Ranges) : Ranges := a.diff b.complement

end CommandGrammar.Text
