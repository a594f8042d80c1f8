import CommandGrammar.Pattern.Reader
import CommandGrammar.Pattern.Weight

/-! What one reader of patterns may take and another not: the properties of characters that can be
named, and how large a pattern may be. -/

namespace CommandGrammar

/-- The properties of characters that patterns can name, and the limits that patterns keep. -/
class PatternDialect extends Text.Properties where
  /-- Whether the expression with this text is not too large. -/
  admits : String → Bool

namespace PatternDialect

def depthLimit : Nat := 250

/-- The most room that an expression may take, ten mebibytes. -/
def weightLimit : Nat := 10 * Nat.pow 2 20

/-- The room that every expression takes beside that of its parts. -/
def frameWeight : Nat := 128

def keepsLimits (s : PatternReader.State) : Bool :=
  decide (s.depth ≤ depthLimit) && decide (s.body.weight + frameWeight ≤ weightLimit)

instance standard : PatternDialect where
  toProperties := .standard
  admits text := letI := Text.Properties.standard; (PatternReader.read? text).any keepsLimits

end PatternDialect

end CommandGrammar
