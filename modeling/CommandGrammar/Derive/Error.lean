/-! Why no code can be generated for an item. -/

namespace CommandGrammar.Derive

/-- What the source holds in place of what should stand there. -/
inductive SyntaxError where
  /-- Something else is wanted, at the end of the source or elsewhere. -/
  | expected (what : String) (atEnd : Bool)
  | unexpectedToken
  | notTokens
  | unsupportedExpression
  | afterCast (what : String)
  deriving DecidableEq, Repr

def SyntaxError.message : SyntaxError → String
  | expected what true => "unexpected end of input, expected " ++ what
  | expected what false => "expected " ++ what
  | unexpectedToken => "unexpected token"
  | notTokens => "lex error"
  | unsupportedExpression => "unsupported expression; enable syn's features=[\"full\"]"
  | afterCast what => "casts cannot be followed by " ++ what

/-- Why no code can be generated. -/
inductive DeriveError where
  | malformed (error : SyntaxError)
  | notStruct
  | tupleStruct
  | missingParameters
  | keyValueStyle
  | unexpectedLiteral
  | unknownAttribute (name : Option String)
  | expectedString
  | duplicateRename
  | duplicateDefault
  | emptyName
  deriving DecidableEq, Repr

def DeriveError.message : DeriveError → String
  | malformed error => error.message
  | notStruct => "FromVars can only be derived for structs"
  | tupleStruct => "tuple structs are not supported, variables are looked up by field name"
  | missingParameters => "Missing argument parameters"
  | keyValueStyle => "Key-value argument style is not allowed"
  | unexpectedLiteral => "Unexpected literal"
  | unknownAttribute (some name) => "Unknown attribute: " ++ name
  | unknownAttribute none => "Unknown attribute"
  | expectedString => "Expected a string"
  | duplicateRename => "rename attribute cannot be used more than once"
  | duplicateDefault => "default attribute cannot be used more than once"
  | emptyName => "Variable name cannot be empty"

end CommandGrammar.Derive
