import CommandGrammar.FileSystem
import CommandGrammar.Glob
import CommandGrammar.Kind
import CommandGrammar.Text.Quoting

/-! The kind of variables for paths of files. Candidates are the entries of the directory that the
typed text names, and are quoted as the typed text is. -/

namespace CommandGrammar

/-- Which files are accepted. -/
structure FileFilter where
  includes : List Glob
  excludes : List Glob
  /-- Whether names that start with a point are accepted. -/
  dotfiles : Bool
  /-- Whether directories are accepted. -/
  directories : Bool
  deriving DecidableEq, Repr

namespace FileFilter

def baseName (path : String) : String :=
  String.ofList (path.toList.reverse.takeWhile (· != '/')).reverse

/-- The path up to and with the last slash, and the name behind it. -/
def splitDirectory (path : String) : String × String :=
  let name := (path.toList.reverse.takeWhile (· != '/')).reverse
  (String.ofList (path.toList.take (path.toList.length - name.length)), String.ofList name)

/-- Whether a path is accepted, where it is given whether directories are. -/
def accepts (f : FileFilter) (fs : FileSystem) (path : String) (directories : Bool) : Bool :=
  if fs.isDirectory path then directories
  else
    (f.dotfiles || !(baseName path).startsWith ".") &&
      !f.excludes.any (·.accepts path) &&
      (f.includes.isEmpty || f.includes.any (·.accepts path))

/-- The names in the directory that start as typed and are accepted, in order. -/
def names (f : FileFilter) (fs : FileSystem) (directory typed : String) : List String :=
  let listed := fs.list (if directory.isEmpty then "." else directory)
  let kept := listed.filter fun name =>
    name.startsWith typed && (f.dotfiles || !name.startsWith ".") &&
      f.accepts fs (directory ++ name) true
  kept.mergeSort fun a b => !decide (b < a)

/-- The path with the home directory at its start written as it was typed. -/
def shorten (fs : FileSystem) (typed path : String) : String :=
  if typed.startsWith "~" then
    let short := String.ofList (typed.toList.takeWhile (· != '/'))
    let long := fs.expandHome short
    if path.startsWith long then
      short ++ String.ofList (path.toList.drop long.toList.length)
    else path
  else path

def openQuote? (typed : String) : Option Char := typed.toList.head?.filter Text.isQuote

/-- What can be offered for the typed beginning of a path. If only one entry is left, a file is
offered as complete and a directory with a slash behind it. -/
def candidates (f : FileFilter) (fs : FileSystem) (typed : String) : List String :=
  let quote := openQuote? typed
  let path := Text.unquote typed
  let (directory, start) := splitDirectory (fs.expandHome path)
  let offer := fun closed full => Text.quote quote closed (shorten fs path full)
  match f.names fs directory start with
  | [name] =>
    if fs.isDirectory (directory ++ name) then [offer false (directory ++ name ++ "/")]
    else [offer true (directory ++ name) ++ " "]
  | names => names.map fun name => offer false (directory ++ name)

end FileFilter

def Kind.file (fs : FileSystem) (f : FileFilter) : Kind where
  name := "path"
  pattern := some ".+"
  parse t :=
    let path := fs.expandHome (Text.unquote t)
    if f.accepts fs path f.directories then .ok (.path path) else Kind.refuse "path" t
  candidates := f.candidates fs
  traversals := none
  matchCandidates := false

end CommandGrammar
