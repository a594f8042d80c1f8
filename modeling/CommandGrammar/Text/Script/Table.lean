import CommandGrammar.Text.Ranges

/-! A script: the characters that one or more languages are written with. -/

namespace CommandGrammar.Text

/-- A script, with its names in small letters and without separators. -/
structure Script where
  names : List String
  ranges : Ranges
  deriving DecidableEq, Repr

end CommandGrammar.Text
