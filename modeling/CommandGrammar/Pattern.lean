import CommandGrammar.Pattern.Dialect

/-! Patterns. A pattern matches a text if its regular expression, held between the start and the
end of the text, matches it. -/

namespace CommandGrammar

structure Pattern where
  /-- The expression as it was written. -/
  source : String
  expr : Expr
  deriving DecidableEq, Repr

namespace Pattern

/-- The expression between the start and the end of the text. -/
def anchor (source : String) : String := "^(?:" ++ source ++ ")$"

/-- The pattern of an expression, if the expression can be read. -/
def compile? [Text.Properties] (source : String) : Option Pattern := do
  let expr ← Expr.read? (anchor source)
  some ⟨source, expr⟩

/-- The pattern of an expression, if the expression can be read and is not too large. -/
def new? [PatternDialect] (source : String) : Option Pattern :=
  (compile? source).filter fun _ => PatternDialect.admits (anchor source)

/-- Whether the pattern matches the whole text. -/
def accepts (p : Pattern) (text : String) : Bool := p.expr.occursIn text

/-- An expression that matches only this text. -/
def escape (text : String) : String :=
  String.ofList (text.toList.flatMap fun c =>
    if PatternReader.isMeta c then ['\\', c] else [c])

end Pattern

end CommandGrammar
