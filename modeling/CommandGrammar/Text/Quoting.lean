import CommandGrammar.Text.Blank

/-! Quoting a text so that it can be typed as one token, and taking the quotes off again. Inside
quotes a backslash keeps the character after it from being special. -/

namespace CommandGrammar.Text

/-- The two quotes, either of which may surround a token. -/
def isQuote (c : Char) : Bool := c == '\'' || c == '"'

/-- Removes each backslash and keeps the character behind it, whatever that is. -/
def dropEscapes : List Char → List Char
  | [] => []
  | [c] => if c == '\\' then [] else [c]
  | c :: d :: rest => if c == '\\' then d :: dropEscapes rest else c :: dropEscapes (d :: rest)

/-- Whether an odd number of backslashes stands at the end, so that what follows is escaped. -/
def endsEscaped (cs : List Char) : Bool :=
  (cs.reverse.takeWhile (· == '\\')).length % 2 == 1

/-- The text without its closing quote, if it has one that is not escaped. -/
def dropClosing (quote : Char) (cs : List Char) : List Char :=
  if cs.getLast? == some quote && !endsEscaped cs.dropLast then cs.dropLast else cs

/-- `unquote` on characters. -/
def unquoteChars : List Char → List Char
  | [] => []
  | c :: cs => if isQuote c then dropEscapes (dropClosing c cs) else c :: cs

/-- The text that a quoted token stands for. A text that does not start with a quote stands for
itself, and a quote that is never closed reaches to the end. -/
def unquote (text : String) : String := String.ofList (unquoteChars text.toList)

/-- Puts a backslash in front of each backslash and of each quote of the given kind. -/
def escapeChars (quote : Char) : List Char → List Char
  | [] => []
  | c :: cs =>
    if c == quote || c == '\\' then '\\' :: c :: escapeChars quote cs
    else c :: escapeChars quote cs

/-- Whether the character keeps a text from being a single token that stands for itself. -/
def forcesQuotes (c : Char) : Bool := isBlank c || isQuote c || c == '\\'

/-- `quote` on characters. -/
def quoteChars (typed : Option Char) (closed : Bool) (cs : List Char) : List Char :=
  match typed <|> (if cs.any forcesQuotes then some '\'' else none) with
  | none => cs
  | some q => q :: escapeChars q cs ++ (if closed then [q] else [])

/-- Writes a text as a token: in the quotes that were typed, or in single quotes if it would not
stand for itself otherwise. The closing quote is left out while the text may still grow. -/
def quote (typed : Option Char) (closed : Bool) (text : String) : String :=
  String.ofList (quoteChars typed closed text.toList)

end CommandGrammar.Text
