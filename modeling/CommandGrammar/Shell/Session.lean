import CommandGrammar.Completion
import CommandGrammar.Shell.Command

/-! A session of the shell: lines are read one after another, until one of them leaves. -/

namespace CommandGrammar.Shell

/-- The state of the shell between two lines. -/
structure Session where
  running : Bool
  settings : Settings
  deriving DecidableEq, Repr

namespace Session

def start : Session := ⟨true, ⟨0, false⟩⟩

def apply (s : Session) : Effect → Session
  | .print _ => s
  | .setLevel level => { s with settings := { s.settings with level } }
  | .setDebug on => { s with settings := { s.settings with debug := on } }
  | .leave => { s with running := false }

end Session

def Effect.output : Effect → String
  | .print text => text
  | _ => ""

/-- What is printed for a line once it was parsed. -/
def report (g : Grammar Settings Effect) (c : Context Settings) (result : Except ActionError Unit) :
    String :=
  match result with
  | .error e => "Error: " ++ e.message ++ "\n"
  | .ok () =>
    if c.isComplete then ""
    else if c.remaining.isEmpty then
      "Incomplete command, expected one of:\n" ++ (g.helpAt c).format
    else "Unexpected input: " ++ c.remaining ++ "\n" ++ (g.helpAt c).format

/-- Runs one line. A question mark at the end asks for help instead. -/
def runLine (g : Grammar Settings Effect) (s : Session) (line : String) : Session × String :=
  if line.endsWith "?" then
    (s, (g.help (String.ofList line.toList.dropLast) (some s.settings)).format)
  else
    let (c, reply) := g.parse line (some s.settings)
    (reply.effects.foldl .apply s,
      String.join (reply.effects.map (·.output)) ++ report g c reply.result)

/-- Runs lines while the shell is running, and collects what is printed. -/
def run (g : Grammar Settings Effect) : Session → List String → Session × String
  | s, [] => (s, "")
  | s, line :: lines =>
    if s.running then
      let (s, printed) := runLine g s line
      let (s, more) := run g s lines
      (s, printed ++ more)
    else (s, "")

/-- The lines of a text. A line ends with a line feed, before which a carriage return may stand. -/
def linesOf (text : String) : List String :=
  let lines := text.toList.splitOn '\n'
  let ended := lines.dropLast.map fun line =>
    if line.getLast? == some '\r' then line.dropLast else line
  let last := lines.getLast?.filter (!·.isEmpty)
  (ended ++ last.toList).map String.ofList

/-- Where in the line candidates are put in, and the candidates: how each is shown, and what it
puts in. The position up to which the line counts is given in bytes. -/
def completeLine (g : Grammar Settings Effect) (settings : Settings) (line : String)
    (position : Nat) : Nat × List (String × String) :=
  let typed := String.ofList (Line.splitAt position line.toList).1
  let fragment := (Line.read typed).splitTrailing.2
  (position - fragment.utf8ByteSize,
    (g.complete typed (some settings)).map fun w => (Text.trimEnd w, w))

end CommandGrammar.Shell
