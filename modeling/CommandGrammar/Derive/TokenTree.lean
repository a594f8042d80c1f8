/-! Tokens of Rust source code, in groups, and how they are printed.

A punctuation character that is joined to the next one is part of the same operator. Printed
tokens have one space between them, but none inside an operator and none inside the parentheses
or brackets of a group. -/

namespace CommandGrammar.Derive

inductive Delimiter where
  | parentheses
  | brackets
  | braces
  deriving DecidableEq, Repr

inductive TokenTree where
  | ident (name : String)
  | punct (c : Char) (joined : Bool)
  | literal (text : String)
  | group (delimiter : Delimiter) (inner : List TokenTree)
  deriving Repr

namespace TokenTree

/-- Whether nothing stands between the token and the next one. -/
def isJoined : TokenTree → Bool
  | punct _ joined => joined
  | _ => false

def isPunct (c : Char) : TokenTree → Bool
  | punct d _ => c == d
  | _ => false

def isWord (w : String) : TokenTree → Bool
  | ident name => name == w
  | _ => false

mutual

def text : TokenTree → String
  | ident name => name
  | punct c _ => toString c
  | literal t => t
  | group .parentheses inner => "(" ++ textOfList inner ++ ")"
  | group .brackets inner => "[" ++ textOfList inner ++ "]"
  | group .braces inner =>
    if inner.isEmpty then "\x7b \x7d" else "\x7b " ++ textOfList inner ++ " \x7d"

def textOfList : List TokenTree → String
  | [] => ""
  | [t] => t.text
  | t :: ts => t.text ++ (if t.isJoined then "" else " ") ++ textOfList ts

end

mutual

/-- The number of tokens, counting those in groups. -/
def size : TokenTree → Nat
  | group _ inner => 2 + sizeOfList inner
  | _ => 1

def sizeOfList : List TokenTree → Nat
  | [] => 0
  | t :: ts => t.size + sizeOfList ts

end

def operator : List Char → List TokenTree
  | [] => []
  | [c] => [punct c false]
  | c :: cs => punct c true :: operator cs

/-- What follows the operator, if the tokens start with it. -/
def dropOperator? : List Char → List TokenTree → Option (List TokenTree)
  | [], ts => some ts
  | [c], punct d _ :: ts => if c == d then some ts else none
  | c :: cs, punct d true :: ts => if c == d then dropOperator? cs ts else none
  | _, _ => none

def startsWith (op : String) (ts : List TokenTree) : Bool := (dropOperator? op.toList ts).isSome

mutual

/-- The token as it stands in a type. -/
def inType : TokenTree → TokenTree
  | group .braces inner => group .braces inner
  | group delimiter inner => group delimiter (allInType inner)
  | t => t

/-- The tokens as they stand in types, where only paths, arrows and lifetimes have operators of
several characters. -/
def allInType : List TokenTree → List TokenTree
  | [] => []
  | punct ':' true :: punct ':' _ :: ts => punct ':' true :: punct ':' false :: allInType ts
  | punct '-' true :: punct '>' _ :: ts => punct '-' true :: punct '>' false :: allInType ts
  | punct '\'' _ :: ts => punct '\'' true :: allInType ts
  | punct c _ :: ts => punct c false :: allInType ts
  | t :: ts => t.inType :: allInType ts

end

end TokenTree

end CommandGrammar.Derive
