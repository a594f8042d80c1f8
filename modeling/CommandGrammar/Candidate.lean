/-! Candidates for the token being typed. A candidate that ends in a space is complete; any other
one may still grow. -/

namespace CommandGrammar.Candidate

/-- The candidate that completes a token with a word. -/
def ofWord (word : String) : String :=
  String.ofList (word.toList.reverse.dropWhile (· == ' ')).reverse ++ " "

/-- The candidates that words offer for the typed beginning of a token. -/
def ofWords (words : List String) (typed : String) : List String :=
  (words.filter fun w => !w.isEmpty && w.startsWith typed).map ofWord

end CommandGrammar.Candidate
