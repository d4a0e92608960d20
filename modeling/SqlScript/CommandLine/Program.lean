import SqlScript.CommandLine.Invocation
import SqlScript.Config.Lenient
import SqlScript.Console.Terminal
import SqlScript.Envelope
import SqlScript.Registry
import SqlScript.Report.Printer
import SqlScript.Sqlite.Prepared

/-!
# The program

The commands: to run a script, to execute a single statement, and to show how a script splits into
statements. Each prints what it did for people, or one envelope for programs.

* `Surroundings`: what the program finds.
* `Toolkit`: what it takes from libraries.
* `Session.perform`: a command.
* `program`: the program.
-/

namespace SqlScript.CommandLine

/-- The version of the program. -/
def version : String := "0.1.0"

/-- **What the program finds** besides its arguments. -/
structure Surroundings where
  environment : List (String × String) := []
  files : FileTree := {}
  /-- The bytes of the standard input. -/
  input : List UInt8 := []

/-- **What the program takes from libraries**: how settings are validated, and the console that it
prints on. -/
structure Toolkit where
  validation : Config.Validation
  console : Console

/-- Opens the database at a location. -/
abbrev Opener (κ τ Conn Stmt : Type) :=
  String → Config → Action (World κ τ) (Backend κ τ Conn Stmt)

/-- What a command needs. -/
structure Session (κ τ Conn Stmt : Type) where
  registry : Registry (Opener κ τ Conn Stmt)
  config : Config
  surroundings : Surroundings
  console : Console

namespace Session

variable {κ τ Conn Stmt : Type}

/-- The script that stands for the standard input. -/
def standardInput : String := "-"

/-- What a script is called in reports. -/
def sourceName (script : String) : String := if script = standardInput then "<stdin>" else script

/-- The loader of scripts. -/
def loader (s : Session κ τ Conn Stmt) : Loader := { baseDirectory := s.config.scriptsDirectory }

/-- The text of the standard input. -/
def readInput (s : Session κ τ Conn Stmt) : Except Fault String :=
  match Bytes.Encoding.utf8.decode s.surroundings.input with
  | .ok cs => .ok (String.ofList (Text.unifyNewlines cs))
  | .error e => .error (.of .undecodable e.message)

/-- The text of a script. -/
def readScript (s : Session κ τ Conn Stmt) (script : String) : Action (World κ τ) String :=
  if script = standardInput then Action.ofExcept s.readInput
  else s.loader.load s.surroundings.files (.ofString script)

/-- **A runner for the duration of an action**; its backend is closed whatever happens. -/
def withRunner {α : Type} (s : Session κ τ Conn Stmt)
    (body : Runner κ τ Conn Stmt → Action (World κ τ) α) : Action (World κ τ) α := do
  let openBackend ← Action.ofExcept (s.registry.openUrl s.config.databaseUrl s.config)
  let backend ← openBackend
  let strictParameters := s.config.strictParameters
  Action.ensure (body { backend, loader := s.loader, strictParameters }) backend.close

/-! ## Output for programs -/

/-- How the command ran so far. -/
def info (database : Option String) (start : Float) (exitCode : Int) :
    Action (World κ τ) EnvelopeMeta := do
  let finish ← World.readClock
  let duration ← Action.ofExcept (elapsedMilliseconds start finish)
  return { duration, database, exitCode }

/-- Prints an envelope on a line. -/
def printEnvelope (e : Envelope) : Action (World κ τ) Unit := World.print (e.line ++ "\n")

/-- The warnings of a report. -/
def warnings (r : ScriptReport) : List String :=
  if r.discardedParameters = 0 then []
  else [s!"{r.discardedParameters} unused parameter(s) discarded"]

/-- The exit code of a run: one for a failure. -/
def exitCode (r : ScriptReport) : Int := if r.isSuccess then 0 else 1

/-- Prints the envelope of a finished run. -/
def printReport (s : Session κ τ Conn Stmt) (command : Command) (r : ScriptReport)
    (start : Float) : Action (World κ τ) Unit := do
  let data ← Action.ofExcept r.toJson
  let info ← info (some s.config.databaseUrl) start (exitCode r)
  printEnvelope {
    command := command.name, data, warnings := warnings r
    error := r.error.map EnvelopeError.ofFailure, info }

/-! ## Failures before a report -/

/-- Prints an error for people. -/
def printError (c : Console) (message : String) : Action (World κ τ) Unit :=
  c.printMarkup s!"[red]✗ Error:[/red] {c.escape message}"

/-- Tells a failure, and gives the exit code. -/
def fail (c : Console) (command : Command) (f : Failure) (json : Bool)
    (database : Option String) (start : Float) : Action (World κ τ) Int := do
  if json then
    let info ← info database start 1
    printEnvelope {
      command := command.name, data := .null, error := some (.ofFailure f), info }
  else printError c f.message
  return 1

/-! ## Commands -/

/-- **Runs** what gives a report, and gives the exit code. Failures are told like reports; a value
that is not allowed is told to people, and other faults go on. -/
def runTask (s : Session κ τ Conn Stmt) (task : Task)
    (body : Action (World κ τ) ScriptReport) (start : Float) : Action (World κ τ) Int := do
  match ← Action.attempt body with
  | .ok report =>
    if task.json then s.printReport task.command report start
    return exitCode report
  | .error (.failure f) =>
    fail s.console task.command f task.json (some s.config.databaseUrl) start
  | .error e =>
    if e.isValueError then
      printError s.console e.message
      return 1
    else throw e

/-- The values of the parameters of a command. -/
def readParameters (task : Task) : Action (World κ τ) (List Value) :=
  Action.ofExcept (task.parameters.mapM Value.ofArgument)

/-- Runs a script. -/
def run (s : Session κ τ Conn Stmt) (task : Task) : Action (World κ τ) ScriptReport := do
  let script ← s.readScript task.argument
  s.withRunner fun r => do
    let parameters ← readParameters task
    r.presentScript s.console (sourceName task.argument) script parameters (!task.json)

/-- Executes a single statement. -/
def exec (s : Session κ τ Conn Stmt) (task : Task) : Action (World κ τ) ScriptReport :=
  s.withRunner fun r => do
    let parameters ← readParameters task
    r.presentStatement s.console task.argument parameters (!task.json)

/-- The JSON form of a statement of a split script. -/
def unitJson (u : StatementUnit) : Json :=
  .object [("index", .int u.index), ("sql", .string u.sql),
    ("placeholderCount", .int u.placeholderCount)]

/-- Shows the statements of a script, and gives the exit code. -/
def showUnits (c : Console) (task : Task) (script : String) (start : Float) :
    Action (World κ τ) Int := do
  let source := sourceName task.argument
  let units := parseScript script
  if task.json then
    let data : Json :=
      .object [("source", .string source), ("statements", .array (units.map unitJson))]
    let info ← info none start 0
    printEnvelope { command := task.command.name, data, info }
  else printUnits c units source
  return 0

/-- Shows how a script splits into statements. -/
def split (s : Session κ τ Conn Stmt) (task : Task) (start : Float) :
    Action (World κ τ) Int := do
  match ← Action.attempt (s.readScript task.argument) with
  | .ok script => showUnits s.console task script start
  | .error (.failure f) => fail s.console task.command f task.json none start
  | .error e => throw e

/-- **Performs a command**, and gives the exit code. -/
def perform (s : Session κ τ Conn Stmt) (task : Task) : Action (World κ τ) Int := do
  let start ← World.readClock
  match task.command with
  | .run => s.runTask task (s.run task) start
  | .exec => s.runTask task (s.exec task) start
  | .split => s.split task start

end Session

/-! ## The program -/

/-- How the program ended: with an exit code, or with a fault that nothing handled. -/
structure Ending where
  exit : Except Fault Int
  /-- What is printed for errors of usage. -/
  complaint : String := ""
  /-- Whether everything is to be logged, and not only warnings. -/
  verbose : Bool := false

namespace Ending

/-- An error of usage. One whose text has no bytes cannot be told, and only the usage is. -/
def ofUsage (e : UsageError) (c : Option Command) : Ending :=
  match e with
  | .fault e => { exit := .error e }
  | e => match Text.unencodable? (fun _ => false) e.text with
    | some run => { exit := .error (.of .unencodable run.message), complaint := e.heading c }
    | none => { exit := .ok 2, complaint := e.heading c ++ e.text }

/-- The end of a command. An interrupt ends it with a word to the user; other faults that nothing
handled go on. -/
def ofExit (exit : Except Fault Int) (verbose : Bool) : Ending :=
  match exit with
  | .error (.outside .interrupt ..) => { exit := .ok 1, complaint := "\nAborted!\n", verbose }
  | exit => { exit, verbose }

/-- Whether a log entry is shown. -/
def shows (e : Ending) (entry : LogEntry) : Bool := e.verbose || entry.level == .warning

end Ending

variable {κ τ Conn Stmt : Type}

/-- Prints a line and ends well. -/
def printAndEnd (text : String) (w : World κ τ) : Ending × World κ τ :=
  ({ exit := .ok 0 }, { w with printed := w.printed ++ text ++ "\n" })

/-- Performs the command that arguments ask for, with a configuration. -/
def dispatch (s : Session κ τ Conn Stmt) (verbose : Bool) (command : Command)
    (args : List String) (w : World κ τ) : Ending × World κ τ :=
  match readTask command args with
  | .error e => (.ofUsage e (some command), w)
  | .ok none => printAndEnd (usage (some command)) w
  | .ok (some task) =>
    let (exit, w) := s.perform task w
    (.ofExit exit verbose, w)

/-- **The program**: its arguments in, what it prints and how it ends out. -/
def program (kit : Toolkit) (registry : Registry (Opener κ τ Conn Stmt))
    (surroundings : Surroundings) (args : List String) (w : World κ τ) : Ending × World κ τ :=
  match readRequest surroundings.files args with
  | .error e => (.ofUsage e none, w)
  | .ok .version => printAndEnd s!"{programName}, version {version}" w
  | .ok .help => printAndEnd (usage none) w
  | .ok (.command globals command args) =>
    match Config.ofSources kit.validation surroundings.environment globals.overrides with
    | .error ps => (.ofUsage (.configuration ps) none, w)
    | .ok config =>
      dispatch ⟨registry, config, surroundings, kit.console⟩ globals.verbose command args w

/-! ## The libraries of the program -/

/-- **The libraries of the program**: lenient settings and a terminal. -/
def Toolkit.standard : Toolkit where
  validation := .lenient
  console := .terminal

/-! ## SQLite -/

/-- Opens a pool of connections to a SQLite database. -/
def openSqlite {σ : Type} (d : Sqlite.Driver σ) :
    Opener Sqlite.Call (Sqlite.Session σ) Sqlite.Lease Sqlite.Prepared := fun location config => do
  let (pool, note) := Sqlite.Pool.ofConfig location config
  match note with
  | some note => World.say .debug note
  | none => pure ()
  let pool ← Action.ofExcept pool
  Sqlite.updatePool fun _ => pool
  return Sqlite.backend d

/-- The backends that the program knows. -/
def backends {σ : Type} (d : Sqlite.Driver σ) :
    Registry (Opener Sqlite.Call (Sqlite.Session σ) Sqlite.Lease Sqlite.Prepared) :=
  ⟨[(DatabaseUrl.defaultScheme, openSqlite d)]⟩

end SqlScript.CommandLine
