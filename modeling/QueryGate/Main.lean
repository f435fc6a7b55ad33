import QueryGate.Tool.Run

/-!
The program.

It reads its arguments, the environment and the configuration directory, and writes
what running the command came to. No client for databases is attached, so that
connecting always fails.
-/

namespace QueryGate.Program

open Storage Tool

/-- What is shown when help is asked for. -/
def usageText : String :=
  "Usage: quarry [--log <LOG>] <COMMAND>\n\n" ++
    "  check    Inspect the database schema and the allow-list\n" ++
    "  watch    Keep a live snapshot fresh and log every published reload\n" ++
    "  version  Output the command-line tool version information\n"

/-- The environment variables that count. -/
def readEnvironment : IO Environment := do
  let keys := [Setting.log, .db, .config, .debounce].map Setting.environmentName ++
    [reloadDebounce.key, channelSize.key]
  keys.filterMapM fun key => do
    return (← IO.getEnv key).map fun value => (key, value)

/-- The content of a file, or nothing where there is no file. -/
def readFileNode (path : String) : IO (Option Node) := do
  try
    return some (.file (.ok (← IO.FS.readBinFile path).toList))
  catch _ => return none

/-- The files of a directory, where no file of an inner directory is looked at. -/
def readDirectory (path : String) : IO Node := do
  let entries ← (← IO.FS.realPath path).readDir
  let found ← entries.toList.filterMapM fun entry => do
    if ← entry.path.isDir then return some (FileName.ofText entry.fileName,
      .directory [])
    return (← readFileNode entry.path.toString).map
      (FileName.ofText entry.fileName, ·)
  return .directory found

/-- The files of a directory of queries. What is no regular file counts as a
directory, and a file that cannot be read as one that is gone when it is looked
at. -/
def readQueries (path : String) : IO Node := do
  let entries ← (← IO.FS.realPath path).readDir
  let found ← entries.toList.mapM fun entry => do
    let name := FileName.ofText entry.fileName
    if (← entry.path.symlinkMetadata).type == .file then
      return (name, (← readFileNode entry.path.toString).getD
        (.file (.error .notFound)))
    return (name, .directory [])
  return .directory found

/-- Whether there is a directory. -/
def isDirectory (path : String) : IO Bool := do
  try
    (← IO.FS.realPath path).isDir
  catch _ => return false

/-- What is at a place: the files, and those of the directory with the queries. -/
def readPlace (path : String) : IO (Except IoFault Node) := do
  let queries := path ++ "/" ++ queriesDirectory
  if ← isDirectory queries then
    let inner ← readQueries queries
    return .ok (.put (fun _ => inner) (some (← readDirectory path))
      [FileName.ofText queriesDirectory])
  if ← isDirectory path then return .ok (← readDirectory path)
  match ← readFileNode path with
  | some node => return .ok node
  | none => return .error .notFound

/-- Writes the notices to the error output. -/
def showNotices (notices : List Notice) : IO Unit :=
  notices.forM fun notice => do
    IO.eprintln s!"{notice.severity.name} {notice.target}: {notice.message}"

/-- Runs a command line that gives a command. -/
def runInvocation (invocation : Invocation) (environment : Environment) :
    IO UInt32 := do
  let place ← match invocation.command.place? with
    | some path => readPlace path
    | none => pure (.error .notFound)
  let connect := fun (kind : Catalog.DatabaseKind) (_ : String) =>
    (.error (.discoveryFailed s!"no client for {kind.name} databases is attached") :
      Except Error (Except Error Catalog.Rows))
  let release := Stamp.blank.release "this system" "this processor"
  let outcome := invocation.run ⟨place, connect⟩ environment release []
  showNotices outcome.notices
  if outcome.ending = .failed .logFilter then IO.eprintln Failure.logFilter.message
  IO.print outcome.output
  return UInt32.ofNat outcome.ending.exitCode

/-- Runs a command line, or shows how one is written. -/
def run (arguments : List String) : IO UInt32 := do
  let environment ← readEnvironment
  match Invocation.ofArguments arguments environment with
  | .ok invocation => runInvocation invocation environment
  | .error .help =>
      IO.print usageText
      return UInt32.ofNat Stop.help.exitCode
  | .error .usage =>
      IO.eprint usageText
      return UInt32.ofNat Stop.usage.exitCode

end QueryGate.Program

def main (arguments : List String) : IO UInt32 :=
  QueryGate.Program.run arguments
