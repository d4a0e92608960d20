import SqlScript.CommandLine.Program

/-!
# The command line

The program with real arguments, files and streams. No SQLite engine is built in: a connection is
refused, and scripts can only be split.

* `wantedPaths`: the paths that the program will look at.
* `main`: the program.
-/

namespace SqlScript.CommandLine

/-- A driver without an engine. -/
def noEngine : Sqlite.Driver Unit where
  answer call s :=
    match call with
    | .closeCursor => (.ok {}, s)
    | _ => (.error (.of (.database .operational) "unable to open database file"), s)
  makeDirectories _ s := (.ok (), s)
  inTransaction _ _ := false

/-- The paths that the look-up of a script can reach. -/
def scriptPaths (loader : Loader) : ScriptName → List Path
  | .file p => [loader.resolve p]
  | .resource package resource =>
    let names := (Text.splitAtChar '.' package.toList).map String.ofList
    let place (n : Nat) : Path := ⟨.relative, names.take n⟩
    let looked := (List.range names.length).flatMap fun n =>
      let inner := place (n + 1)
      [inner, inner.join (.ofString "__init__.py"), .ofString (inner.text ++ ".py")]
    looked ++ [(place names.length).join (.ofString resource)]

/-- **The paths that the program will look at**, by its environment and arguments. -/
def wantedPaths (environment : List (String × String)) (args : List String) : List Path :=
  match readRequest {} args with
  | .ok (.command globals command args) =>
    let directory := (globals.scriptsDirectory.map Path.ofString).toList
    let config := Config.ofSources Toolkit.standard.validation environment globals.overrides
    match config, readTask command args with
    | .ok config, .ok (some task) =>
      directory ++ scriptPaths { baseDirectory := config.scriptsDirectory }
        (.ofString task.argument)
    | _, _ => directory
  | _ => []

/-- The node at a path of the file system, if there is one. -/
def findNode (path : String) : IO (Option FileNode) := do
  try
    return some (.file (← IO.FS.readBinFile path).toList)
  catch e =>
    let whole := (← IO.currentDir) / path
    if ← whole.isDir then return some .directory
    else if !(← whole.pathExists) then return none
    else match e with
      | .permissionDenied .. => return some (.unreadable .permissionDenied (by decide))
      | _ => return some (.unreadable .inputOutput (by decide))

/-- The files at paths, in the tree of the current directory. -/
def readFiles (current : Path) (paths : List Path) : IO FileTree := do
  let start : FileTree := { current := current.parts }
  let mut files := start.plant current.parts .directory
  for p in paths do
    match ← findNode (String.ofList (Text.toUnicode p.text.toList)) with
    | some node => files := files.plant (current.join p).parts node
    | none => pure ()
  return files

/-- Reads a stream to its end. -/
partial def readStream (stream : IO.FS.Stream) (seen : List UInt8) : IO (List UInt8) := do
  let bytes ← stream.read 65536
  if bytes.isEmpty then return seen else readStream stream (seen ++ bytes.toList)

/-- The text of characters that come from outside. -/
def textOf (s : String) : String := String.ofList (Text.ofUnicode s.toList)

/-- The variables of the environment that settings come from. -/
def readEnvironment : IO (List (String × String)) :=
  Setting.all.filterMapM fun setting => do
    return (← IO.getEnv setting.variableName).map (setting.variableName, textOf ·)

/-- Writes a text to a stream. -/
def writeText (stream : IO.FS.Stream) (s : String) : IO Unit :=
  stream.write ⟨(Bytes.encodeUtf8 s).toArray⟩

/-- The text of a log entry. -/
def entryText (e : LogEntry) : String :=
  let level := match e.level with
    | .debug => "DEBUG"
    | .info => "INFO"
    | .warning => "WARNING"
  s!"{level}: {e.message}"

end SqlScript.CommandLine

open SqlScript SqlScript.CommandLine in
/-- **The program.** -/
def main (args : List String) : IO UInt32 := do
  let environment ← readEnvironment
  let args := args.map textOf
  let current := Path.ofString (textOf (← IO.currentDir).toString)
  let files ← readFiles current (wantedPaths environment args)
  let input ← if args.contains Session.standardInput then readStream (← IO.getStdin) []
    else pure []
  let now := Float.ofNat (← IO.monoMsNow) / 1000
  let w : World Sqlite.Call (Sqlite.Session Unit) := { outside := { driver := () }, clock := [now] }
  let (ending, w) := program .standard (backends noEngine) { environment, files, input } args w
  writeText (← IO.getStdout) w.printed
  let stderr ← IO.getStderr
  for e in w.log.filter ending.shows do
    writeText stderr (entryText e ++ "\n")
  writeText stderr ending.complaint
  match ending.exit with
  | .ok code => return UInt32.ofNat code.toNat
  | .error e =>
    writeText stderr (e.message ++ "\n")
    return 1
