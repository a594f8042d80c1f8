import CommandGrammar.Grammar.Error
import CommandGrammar.Outline

/-! Aliases: which nodes a target names.

A target that starts with a slash is a path from the root. One that starts with a label goes on
from the node with that label, and any other goes on from the place of the alias itself. Points
and double points in a path are taken away before nodes are looked up. -/

namespace CommandGrammar

/-- An alias that has to be resolved: its own path, and the target as it was written. -/
structure PendingAlias where
  path : String
  target : String
  deriving DecidableEq, Repr

namespace PendingAlias

def isGlob (name : String) : Bool := name.toList.any fun c => c == '*' || c == '?' || c == '['

/-- The names of a path. A double point takes the name before it away. -/
def normalize (path : String) : List String :=
  ((path.toList.splitOn '/').map String.ofList).foldl
    (fun names part =>
      if part == "" || part == "." then names
      else if part == ".." then names.dropLast
      else names ++ [part]) []

def splitFirst (path : String) : String × String :=
  let head := path.toList.takeWhile (· != '/')
  (String.ofList head, String.ofList (path.toList.drop (head.length + 1)))

/-- The target as a path from the root. -/
def absolute (o : Outline) (a : PendingAlias) : String :=
  if a.target.startsWith "/" then a.target
  else
    let (first, rest) := splitFirst a.target
    match o.labelled? first with
    | some id => o.path id ++ "/" ++ rest
    | none => a.path ++ "/" ++ a.target

/-- The nodes that the target names. If its last name is a pattern, these are the children with
such names that are no actions, where `isAction` tells which nodes are. -/
def resolve (o : Outline) (isAction : Nat → Bool) (a : PendingAlias) :
    Except GrammarError (List Nat) :=
  let names := normalize (a.absolute o)
  let missing := GrammarError.unresolvedAlias a.path ("/" ++ "/".intercalate names)
  match names.getLast? with
  | some last =>
    if isGlob last then
      match Glob.read last with
      | .error e => .error (.invalidGlob a.target e)
      | .ok glob =>
        match (o.walk? 0 names.dropLast).bind o.site? with
        | none => .error missing
        | some parent =>
          .ok (parent.children.filter fun id =>
            !isAction id && (o.site? id).any fun site => glob.accepts site.name)
    else
      match o.walk? 0 names with
      | some id => .ok [id]
      | none => .error missing
  | none => .ok [0]

end PendingAlias

end CommandGrammar
