import CommandGrammar.Text.CaseClass

/-! Classes of characters, as a pattern writes them: ranges and tables of ranges, combined. -/

namespace CommandGrammar

inductive CharClass where
  | range (lo hi : Nat)
  | table (ranges : Text.Ranges)
  | none
  | union (a b : CharClass)
  | inter (a b : CharClass)
  | complement (a : CharClass)
  | anyCase (a : CharClass)
  deriving DecidableEq, Repr

namespace CharClass

/-- Whether the code point is in the class. The class `anyCase a` has all case variants of the
members of `a`. -/
def contains : CharClass → Nat → Bool
  | range lo hi, n => lo ≤ n && n ≤ hi
  | table ranges, n => ranges.contains n
  | none, _ => false
  | union a b, n => a.contains n || b.contains n
  | inter a b, n => a.contains n && b.contains n
  | complement a, n => !a.contains n
  | anyCase a, n => (Text.caseVariants n).any a.contains

def single (c : Char) : CharClass := range c.toNat c.toNat

def diff (a b : CharClass) : CharClass := inter a (complement b)

def symmDiff (a b : CharClass) : CharClass := union (diff a b) (diff b a)

end CharClass

end CommandGrammar
