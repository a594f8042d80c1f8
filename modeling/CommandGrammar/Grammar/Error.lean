import CommandGrammar.Glob
import CommandGrammar.Text.Escaped

/-! What can be wrong with the declaration of a grammar. -/

namespace CommandGrammar

/-- Why a grammar cannot be built. -/
inductive GrammarError where
  | unresolvedAlias (path target : String)
  | invalidPattern (path : String)
  | duplicateChild (parent name : String)
  | duplicateLabel (label path : String)
  | invalidName (parent name : String)
  | mergeTarget (target : String)
  | invalidGlob (pattern : String) (error : GlobError)
  deriving DecidableEq, Repr

def GrammarError.message : GrammarError → String
  | unresolvedAlias path target => s!"alias {path} refers to a non-existent node {target}"
  | invalidPattern path => "invalid pattern for " ++ path
  | duplicateChild parent name => s!"{parent} already has a child named {name}"
  | duplicateLabel label path => s!"label {label} is already assigned to {path}"
  | invalidName parent name => "invalid node name " ++ Text.escaped name ++ " under " ++ parent
  | mergeTarget target => s!"cannot merge a grammar into {target}: no such node"
  | invalidGlob pattern error => s!"invalid glob {pattern}: " ++ error.message

end CommandGrammar
