import CommandGrammar.Pattern.CharClass
import CommandGrammar.Text.WordChar

/-! Regular expressions and matching. An expression is matched by following, character by
character, what may still come: its partial derivatives. No order of preference is kept, because
only the question whether a text matches is asked. -/

namespace CommandGrammar

/-- A condition on the characters before and behind a position. -/
inductive Boundary where
  | textStart
  | textEnd
  | lineStart (crlf : Bool)
  | lineEnd (crlf : Bool)
  | word (ascii : Bool)
  | notWord (ascii : Bool)
  | wordStart (ascii : Bool)
  | wordEnd (ascii : Bool)
  | wordStartHalf (ascii : Bool)
  | wordEndHalf (ascii : Bool)
  deriving DecidableEq, Repr

namespace Boundary

def wordBeside (ascii : Bool) : Option Char → Bool
  | none => false
  | some c => if ascii then c.isAlphanum || c == '_' else Text.isWordChar c

def holds (b : Boundary) (before behind : Option Char) : Bool :=
  match b with
  | textStart => before.isNone
  | textEnd => behind.isNone
  | lineStart false => before.isNone || before == some '\n'
  | lineStart true =>
    before.isNone || before == some '\n' || (before == some '\r' && behind != some '\n')
  | lineEnd false => behind.isNone || behind == some '\n'
  | lineEnd true =>
    behind.isNone || behind == some '\r' || (behind == some '\n' && before != some '\r')
  | word ascii => wordBeside ascii before != wordBeside ascii behind
  | notWord ascii => wordBeside ascii before == wordBeside ascii behind
  | wordStart ascii => !wordBeside ascii before && wordBeside ascii behind
  | wordEnd ascii => wordBeside ascii before && !wordBeside ascii behind
  | wordStartHalf ascii => !wordBeside ascii before
  | wordEndHalf ascii => !wordBeside ascii behind

end Boundary

inductive Expr where
  | empty
  | chars (cls : CharClass)
  | boundary (b : Boundary)
  | cat (a b : Expr)
  | alt (a b : Expr)
  | rep (a : Expr) (least : Nat) (most : Option Nat)
  deriving DecidableEq, Repr

namespace Expr

/-- Whether the expression matches the empty text between the two characters. -/
def nullable (before behind : Option Char) : Expr → Bool
  | empty => true
  | chars _ => false
  | boundary b => b.holds before behind
  | cat a b => a.nullable before behind && b.nullable before behind
  | alt a b => a.nullable before behind || b.nullable before behind
  | rep a least _ => least == 0 || a.nullable before behind

/-- One expression after the other, where the first may be spent. -/
def andThen : Expr → Expr → Expr
  | empty, b => b
  | a, b => cat a b

/-- What may follow once the expression has begun with the character. Rounds of a repetition that
match nothing at this position count towards the least number, so the rounds left may be any
number below the greatest. -/
def derivatives (before : Option Char) (c : Char) : Expr → List Expr
  | empty => []
  | chars cls => if cls.contains c.toNat then [empty] else []
  | boundary _ => []
  | cat a b =>
    (a.derivatives before c).map (andThen · b) ++
      (if a.nullable before (some c) then b.derivatives before c else [])
  | alt a b => a.derivatives before c ++ b.derivatives before c
  | rep a least most =>
    if most == some 0 then []
    else
      let left := if a.nullable before (some c) then 0 else least - 1
      (a.derivatives before c).map (andThen · (rep a left (most.map (· - 1))))

/-- Whether one of the expressions matches some text that starts here, or the wanted expression
some text that starts here or further on. -/
def findFrom (wanted : Expr) (before : Option Char) (begun : List Expr) : List Char → Bool
  | [] => (wanted :: begun).any (·.nullable before none)
  | c :: cs =>
    (wanted :: begun).any (·.nullable before (some c)) ||
      findFrom wanted (some c) ((wanted :: begun).flatMap (·.derivatives before c)).eraseDups cs

def occursIn (e : Expr) (text : String) : Bool := findFrom e none [] text.toList

end Expr

end CommandGrammar
