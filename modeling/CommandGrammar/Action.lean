import CommandGrammar.Argument
import CommandGrammar.Context

/-! Actions: what a grammar does with a line that was matched to its end. An action answers with
effects of a type `ε` that the application chooses, and succeeds or fails. -/

namespace CommandGrammar

/-- The answer of something that may fail: the effects up to the end or up to the failure. -/
structure Reply (ε : Type) (failure : Type) where
  effects : List ε
  result : Except failure Unit

/-- Why an action gave up. -/
inductive Refusal where
  | message (text : String)
  | argument (error : ArgumentError)
  deriving DecidableEq, Repr

abbrev Action (σ ε : Type) := Context σ → Reply ε Refusal

namespace Action

variable {σ ε : Type}

/-- The answer of an action that has no effects and fails. -/
def refuse (r : Refusal) : Reply ε Refusal := ⟨[], .error r⟩

/-- An action that looks only at the values collected. -/
def ofVars (run : Vars → Reply ε Refusal) : Action σ ε := fun c => run c.vars

/-- An action that looks at the user and at the values collected. -/
def ofUser (run : Option σ → Vars → Reply ε Refusal) : Action σ ε := fun c => run c.user c.vars

/-- An action that looks at arguments made of the values collected. It fails without effects if
the arguments cannot be made. -/
def ofArguments (fields : List ArgumentField) (run : List Argument → Reply ε Refusal) :
    Action σ ε := fun c =>
  match c.vars.arguments fields with
  | .ok arguments => run arguments
  | .error e => refuse (.argument e)

end Action

/-- Why a line has no effects or not all of them. -/
inductive ActionError where
  | refused (r : Refusal)
  /-- The line was not matched to its end. -/
  | incomplete (remaining : String)
  deriving DecidableEq, Repr

def ActionError.message : ActionError → String
  | refused (.message text) => text
  | refused (.argument e) => e.message
  | incomplete remaining => "unexpected input: " ++ Text.escaped remaining

end CommandGrammar
