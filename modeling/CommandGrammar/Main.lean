import CommandGrammar.Shell.Session

/-! The shell on standard input and output. -/

open CommandGrammar

/-- What stands at a path: the text of a file, or a directory. -/
def probe (path : String) : IO (Option FileSystem.Entry) := do
  try
    return some (.file (← IO.FS.readFile path))
  catch
    | .inappropriateType .. => return some .directory
    | _ => return none

/-- The files and directories that the tokens of a line name. -/
def filesOf (line : String) : IO FileSystem := do
  let home ← IO.getEnv "HOME"
  let paths := (Line.read line).tokens.map fun t =>
    (FileSystem.ofPaths [] [] home).expandHome t.unquoted
  let mut directories := []
  let mut files := []
  for path in paths do
    match ← probe path with
    | some (.file text) => files := (path, text) :: files
    | some .directory => directories := path :: directories
    | none => pure ()
  return .ofPaths directories files home

/-- Reads and runs lines until the input ends or a line leaves. -/
partial def loop (s : Shell.Session) : IO Unit := do
  if !s.running then return ()
  let line ← (← IO.getStdin).getLine
  for text in Shell.linesOf line do
    match (Shell.commands (← filesOf text)).build with
    | .error e => IO.eprintln ("Error: " ++ e.message)
    | .ok g =>
      let (s, printed) := Shell.runLine g s text
      IO.print printed
      loop s

def main : IO Unit := loop .start
