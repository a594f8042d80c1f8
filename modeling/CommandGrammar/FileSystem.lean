/-! The files and directories of an operating system, as a program sees them that runs in one of the
directories. -/

namespace CommandGrammar

/-- The files, with their texts, and the directories, each by the names on the way from the root.
Relative paths start in the working directory. The root and the directories that the working
directory is in need not be listed. The value of the home directory's variable is kept beside
them. -/
structure FileSystem where
  directories : List (List String)
  files : List (List String × String)
  working : List String
  home : Option String
  deriving Repr

inductive FileError where
  | missing
  | notDirectory
  | isDirectory
  | nameTooLong
  | nulInName
  deriving DecidableEq, Repr

def FileError.message : FileError → String
  | missing => "No such file or directory (os error 2)"
  | notDirectory => "Not a directory (os error 20)"
  | isDirectory => "Is a directory (os error 21)"
  | nameTooLong => "File name too long (os error 36)"
  | nulInName => "file name contained an unexpected NUL byte"

namespace FileSystem

/-- The root with nothing in it, and no home. -/
def empty : FileSystem := ⟨[], [], [], none⟩

/-- The beginnings of a list of names that are not empty. -/
def ways : List String → List (List String)
  | [] => []
  | name :: names => [name] :: (ways names).map (name :: ·)

/-- The names from the root to the place of a path, where every part but the last is a directory. -/
def placeOf (working : List String) (path : String) : List String :=
  let start := if path.toList.head? == some '/' then [] else working
  ((path.toList.splitOn '/').map String.ofList).foldl (fun names part =>
    if part == "" || part == "." then names
    else if part == ".." then names.dropLast
    else names ++ [part]) start

/-- A working directory with these directories and files, and with the directories that they are
in. -/
def ofPaths (directories : List String) (files : List (String × String)) (home : Option String) :
    FileSystem :=
  let working := ["work"]
  let files := files.map fun f => (placeOf working f.1, f.2)
  let listed := directories.map (placeOf working) ++ files.map fun f => f.1.dropLast
  ⟨(listed.flatMap ways).eraseDups, files, working, home⟩

inductive Entry where
  | file (text : String)
  | directory
  deriving DecidableEq, Repr

def directoryPlaces (fs : FileSystem) : List (List String) :=
  [] :: (ways fs.working ++ fs.directories)

/-- What is found at a place. -/
def entryAt (fs : FileSystem) (names : List String) : Option Entry :=
  if fs.directoryPlaces.contains names then some .directory
  else (fs.files.find? (·.1 == names)).map fun f => .file f.2

/-- Goes on from a place by one part of a path. A part can only be looked up in a directory. Above
the root there is the root again. -/
def walkPart (fs : FileSystem) (names : List String) (part : String) :
    Except FileError (List String) :=
  match fs.entryAt names with
  | none => .error .missing
  | some (.file _) => .error .notDirectory
  | some .directory =>
    if 255 < part.utf8ByteSize then .error .nameTooLong
    else if part == "" || part == "." then .ok names
    else if part == ".." then .ok names.dropLast
    else if (fs.entryAt (names ++ [part])).isNone then .error .missing
    else .ok (names ++ [part])

def start (fs : FileSystem) (path : String) : List String :=
  if path.toList.head? == some '/' then [] else fs.working

/-- The place that a path leads to. The empty path leads nowhere. -/
def locate (fs : FileSystem) (path : String) : Except FileError (List String) :=
  if path.toList.contains '\x00' then .error .nulInName
  else if 4096 ≤ path.utf8ByteSize then .error .nameTooLong
  else if path.isEmpty then .error .missing
  else ((path.toList.splitOn '/').map String.ofList).foldlM fs.walkPart (fs.start path)

def isDirectory (fs : FileSystem) (path : String) : Bool :=
  match fs.locate path with
  | .ok names => fs.entryAt names == some .directory
  | .error _ => false

def read (fs : FileSystem) (path : String) : Except FileError String :=
  match fs.locate path with
  | .error e => .error e
  | .ok names =>
    match fs.entryAt names with
    | some (.file text) => .ok text
    | some .directory => .error .isDirectory
    | none => .error .missing

/-- The names of the entries directly below a place. -/
def namesAt (fs : FileSystem) (names : List String) : List String :=
  ((fs.directoryPlaces ++ fs.files.map (·.1)).filterMap fun entry =>
    if entry.dropLast == names then entry.getLast? else none).eraseDups

/-- The names of the entries of the directory at a path, none if there is no such directory. -/
def list (fs : FileSystem) (path : String) : List String :=
  match fs.locate path with
  | .ok names => if fs.entryAt names == some .directory then fs.namesAt names else []
  | .error _ => []

def homeDirectory (fs : FileSystem) : Option String := fs.home.filter (!·.isEmpty)

/-- The path with a tilde at its start replaced by the home directory, if the tilde stands alone or
before a slash. -/
def expandHome (fs : FileSystem) (path : String) : String :=
  match path.toList, fs.homeDirectory with
  | '~' :: rest, some home =>
    if rest.isEmpty || rest.head? == some '/' then home ++ String.ofList rest else path
  | _, _ => path

end FileSystem

end CommandGrammar
