import CommandGrammar.Pattern.Expr

/-! The room that an expression takes once every repetition is written out. A short pattern with
counted repetitions can stand for a very large one. -/

namespace CommandGrammar

/-- The room for the characters of a class, about as many bytes as an automaton on their UTF-8 form
takes. -/
def CharClass.weight : CharClass → Nat
  | range lo hi =>
    if lo = hi then 32 * (Char.ofNat lo).utf8Size else if hi < 128 then 72 else 200
  | table ranges => 64 + 64 * ranges.length
  | none => 32
  | union a b => a.weight + b.weight
  | inter a b => a.weight + b.weight
  | complement a => 1000 + a.weight
  | anyCase a => 2 * a.weight

namespace Expr

def isWidthless : Expr → Bool
  | empty => true
  | chars _ => false
  | boundary _ => true
  | cat a b => a.isWidthless && b.isWidthless
  | alt a b => a.isWidthless && b.isWidthless
  | rep a _ most => a.isWidthless || most == some 0

/-- The room that a repetition takes of what takes so much room. It is that of all its rounds,
unless one round is as good as many. -/
def rounds (widthless : Bool) (room least : Nat) (most : Option Nat) : Nat :=
  if widthless then room + 72
  else
    match most with
    | none => max least 1 * room + 72
    | some most => least * room + (most - least) * (room + 40) + 32

/-- The room that is taken when the expression is added. -/
def weightAfter (taken : Nat) : Expr → Nat
  | empty => taken + 32
  | chars cls => taken + cls.weight
  | boundary _ => taken + 32
  -- from front to back, as a long text is a long sequence
  | cat a b => weightAfter (weightAfter taken a) b
  | alt a b => weightAfter (weightAfter taken a + 40) b
  | rep a least most => taken + rounds a.isWidthless (weightAfter 0 a) least most

def weight (e : Expr) : Nat := weightAfter 0 e

end Expr

end CommandGrammar
