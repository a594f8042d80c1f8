import CommandGrammar.Proofs.Literal
import CommandGrammar.Proofs.Reading.Enclosing
import CommandGrammar.Proofs.Reading.Repetition

/-! Patterns between the start and the end of a text. A pattern is held in a group of which the
parentheses are put around its text, so two things can go wrong. A pattern that is no expression may
close the group early and open another one, as in `a)(?:b`; then it is taken, and matches something
else. And an expression may end in a comment, which hides the parenthesis behind it; then it is
refused. In all other cases a pattern is taken exactly if it is an expression that is not too large
inside the group, and it matches the tokens that the expression matches as a whole. -/

namespace CommandGrammar

section

variable [Text.Properties]

namespace PatternReader

open Piece

end PatternReader

open PatternReader

namespace Pattern

end Pattern

end

/-! ### Limits -/

section

variable [PatternDialect]

namespace Pattern

end Pattern

end

variable {σ ε : Type}

namespace Draft

end Draft

namespace Builder

end Builder

namespace Sample

/-- A grammar of one node with the pattern. -/
def letters (source : String) : Builder Unit String :=
  .single { body := .literal, name := some "x", pattern := some source }

end Sample

end CommandGrammar
