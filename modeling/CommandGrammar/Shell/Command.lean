import CommandGrammar.Grammar.Build
import CommandGrammar.Kind.File
import CommandGrammar.Kind.Network
import CommandGrammar.Kind.Number
import CommandGrammar.Kind.Word

/-! The commands of a small shell: they print files and messages, and keep a level and a debug
switch. -/

namespace CommandGrammar.Shell

structure Settings where
  level : Int
  debug : Bool
  deriving DecidableEq, Repr

inductive Effect where
  | print (text : String)
  | setLevel (level : Int)
  | setDebug (on : Bool)
  | leave
  deriving DecidableEq, Repr

abbrev Answer := Reply Effect Refusal

def once (effect : Effect) : Answer := ⟨[effect], .ok ()⟩

def printLine (text : String) : Answer := once (.print (text ++ "\n"))

def withArgument (vars : Vars) (t : ArgumentType) (name : String) (run : t.Carrier → Answer) :
    Answer :=
  match vars.get t name with
  | .ok x => run x
  | .error e => Action.refuse (.argument e)

/-! ### Declaring commands -/

def word (name : String) (help : Option String) (elements : List (Element Settings Effect)) :
    Element Settings Effect :=
  .node { body := .literal, name := some name, help := help.map .text } elements

def argument (name : String) (kind : Kind) (help : Option String)
    (elements : List (Element Settings Effect)) : Element Settings Effect :=
  .node { body := .var kind, name := some name, help := help.map .text } elements

def done (run : Action Settings Effect) : Element Settings Effect :=
  .node { body := .action run, name := none } []

/-! ### The commands -/

/-- Prints files one after another, up to the first that cannot be read. -/
def printFiles (fs : FileSystem) : List String → Answer
  | [] => ⟨[], .ok ()⟩
  | path :: paths =>
    match fs.read path with
    | .error e => Action.refuse (.message e.message)
    | .ok text =>
      let rest := printFiles fs paths
      ⟨.print text :: rest.effects, rest.result⟩

def catCommand (fs : FileSystem) : Element Settings Effect :=
  word "cat" (some "Print files")
    [.node
      { body := .var (Kind.file fs ⟨[], [], false, false⟩)
        name := some "files"
        help := some (.text "File to print")
        traversals := some 0 }
      [done (.ofVars fun vars =>
          withArgument vars (.list (.basic .path)) "files" (printFiles fs)),
        .link { target := ".." }]]

/-- Tells that a host would be asked so many times. -/
def pingCommand : Element Settings Effect :=
  let count : ArgumentField :=
    ⟨"count", "count", .basic (.integer (.unsigned 32)), some ⟨4, by decide⟩⟩
  word "ping" (some "Pretend to ping a host")
    [argument "host" Kind.host (some "Address or name")
      [done (.ofVars fun vars =>
          withArgument vars (.basic .value) "host" fun host =>
            match count.read vars with
            | .ok n => printLine s!"pinging {host.text} {n.val} times"
            | .error e => Action.refuse (.argument e)),
        word "count" (some "Number of requests")
          [argument "count" Kind.integer none [.link { target := "../../../@0" }]]]]

def setCommand : Element Settings Effect :=
  word "set" (some "Change settings")
    [.group {}
      [word "level" none
        [argument "level" Kind.integer (some "Verbosity level")
          [done (.ofVars fun vars =>
            withArgument vars (.basic (.integer (.signed 64))) "level" fun n =>
              once (.setLevel n.val))]],
        word "debug" none
          [argument "enabled" Kind.boolean (some "on or off")
            [done (.ofVars fun vars =>
              withArgument vars (.basic .boolean) "enabled" fun on => once (.setDebug on))]]]]

def showCommand : Element Settings Effect :=
  word "show" (some "Show state")
    [.node
      { body := .var Kind.keyword
        name := some "what"
        pattern := some "level|debug"
        candidates := some (.fixed ["level", "debug"])
        help := some (.dynamic fun _ => [("level", "Verbosity level"), ("debug", "Debug switch")]) }
      [done fun c =>
        withArgument c.vars (.basic .string) "what" fun what =>
          match c.user with
          | none => ⟨[], .ok ()⟩
          | some settings =>
            if what == "level" then printLine ("level " ++ toString settings.level)
            else printLine ("debug " ++ toString settings.debug)]]

/-- Tells whether an address is that of the machine itself. It is there only while debugging. -/
def resolveCommand : Element Settings Effect :=
  .node
    { body := .literal
      name := some "resolve"
      help := some (.text "Look up an address")
      condition := some fun c => c.user.any (·.debug) }
    [argument "address" Kind.address none
      [done (.ofVars fun vars =>
        withArgument vars (.basic .address) "address" fun a =>
          printLine (a.text ++ " is " ++ if a.isLoopback then "local" else "remote"))]]

def quitCommand : Element Settings Effect :=
  .node
    { body := .literal
      name := some "quit"
      help := some (.text "Leave the shell")
      group := some 1 }
    [done fun _ => once .leave]

def commands (fs : FileSystem) : Builder Settings Effect :=
  ⟨[catCommand fs, pingCommand, setCommand, showCommand, resolveCommand, quitCommand], []⟩

end CommandGrammar.Shell
