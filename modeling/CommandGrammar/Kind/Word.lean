import CommandGrammar.Kind
import CommandGrammar.Base64
import CommandGrammar.Pattern
import CommandGrammar.Text.Quoting

/-! Kinds of variables for words and other plain texts. -/

namespace CommandGrammar.Kind

/-- Any token without white space. -/
def text : Kind := plain "text" (some "\\S+") fun t => .ok (.str t)

def word : Kind := plain "word" (some "(?i)[A-Z_]\\w*") fun t => .ok (.str t)

/-- A word, or a text in quotes without the quotes. -/
def quoted : Kind :=
  plain "string" (some "\\w+|\"(?:[^\"\\\\]|\\\\.)*\"|'(?:[^'\\\\]|\\\\.)*'")
    fun t => .ok (.str (Text.unquote t))

/-- The variable's own name. -/
def keyword : Kind := plain "keyword" none fun t => .ok (.str t)

/-! ### Yes or no -/

def yesWords : List String := ["true", "yes", "aye", "enable", "enabled", "on", "1"]

def noWords : List String := ["false", "no", "disable", "disabled", "off", "0"]

/-- A word that means yes or no, in capital or small letters. -/
def boolean : Kind where
  name := "boolean"
  pattern := some ("(?i)" ++ "|".intercalate (yesWords ++ noWords))
  parse t :=
    let lower := t.map Char.toLower
    if yesWords.contains lower then .ok (.bool true)
    else if noWords.contains lower then .ok (.bool false)
    else refuse "boolean" t
  candidates typed := (["true", "false"].filter fun w => w.startsWith typed).map (· ++ " ")
  traversals := none
  matchCandidates := false

/-! ### Keys and values -/

/-- The characters before and behind the first place where the separator stands. -/
def splitOnce? (separator : List Char) : List Char → Option (List Char × List Char)
  | [] => if separator.isEmpty then some ([], []) else none
  | c :: cs =>
    if separator.isPrefixOf (c :: cs) then some ([], (c :: cs).drop separator.length)
    else (splitOnce? separator cs).map fun (before, behind) => (c :: before, behind)

/-- A key and a value with a separator between, neither of them empty. -/
def keyValue (separator : String) : Kind :=
  plain "key-value pair" (some ("\\w+" ++ Pattern.escape separator ++ "\\S+")) fun t =>
    match splitOnce? separator.toList t.toList with
    | some (key, value) =>
      if key.isEmpty || value.isEmpty then refuse "key-value pair" t
      else .ok (.pair (String.ofList key) (String.ofList value))
    | none => refuse "key-value pair" t

/-! ### Binary data -/

def base64 : Kind :=
  plain "base64 data"
    (some ("[A-Za-z0-9+/]\x7b2\x7d==|[A-Za-z0-9+/]\x7b3\x7d=|" ++
      "(?:[A-Za-z0-9+/]\x7b4\x7d)+(?:[A-Za-z0-9+/]\x7b2\x7d==|[A-Za-z0-9+/]\x7b3\x7d=)?"))
    fun t =>
      match Base64.decode t.toUTF8.toList with
      | .ok bytes => .ok (.bytes bytes)
      | .error e => refuseWith "base64 data" e.message t

end CommandGrammar.Kind
