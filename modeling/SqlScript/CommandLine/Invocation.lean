import SqlScript.CommandLine.Usage
import SqlScript.Files.Tree
import SqlScript.Text.Digit

/-!
# Invocations

What the arguments of the program ask for: the settings for all commands, and one command with its
own options.

* `Globals`: the settings for all commands.
* `Request`, `readRequest`: what a command line asks for, up to its command.
* `Task`, `readTask`: a command with its options.
-/

namespace SqlScript.CommandLine

/-! ## The settings for all commands -/

/-- The options for all commands. -/
inductive GlobalOption where
  | version
  | database
  | poolSize
  | scriptsDirectory
  | strict
  | verbose
  | help
  deriving DecidableEq, Repr

/-- The options for all commands, with their names. -/
def globalOptions : List (OptionSpec GlobalOption) :=
  [{ key := .version, long := some "version" },
    { key := .database, long := some "database", short := some 'd', takesValue := true },
    { key := .poolSize, long := some "pool-size", takesValue := true },
    { key := .scriptsDirectory, long := some "scripts-dir", takesValue := true },
    { key := .strict, long := some "strict" },
    { key := .verbose, long := some "verbose", short := some 'v' },
    { key := .help, long := some "help" }]

/-- **The settings for all commands**, as the command line gives them. -/
structure Globals where
  database : Option String := none
  poolSize : Option Int := none
  scriptsDirectory : Option String := none
  strict : Bool := false
  verbose : Bool := false

/-- How a command line begins: with a wish that goes before all else, or with settings. -/
inductive Opening where
  | version
  | help
  /-- Settings, and the arguments behind them. -/
  | settings (globals : Globals) (rest : List String)

/-- **What a command line asks for.** -/
inductive Request where
  | version
  | help
  /-- A command, with its arguments. -/
  | command (globals : Globals) (command : Command) (args : List String)

/-- The digits of any script as ASCII digits; other characters stay. -/
def plainDigits (cs : List Char) : List Char :=
  cs.map fun c => match Text.digitValue? c with
    | some n => Char.ofNat (48 + n)
    | none => c

/-- The whole number that an argument is: a sign, and digits with single underscores between
them. -/
def wholeArgument? (s : String) : Option Int := do
  let (negative, cs) := Number.splitSign (Text.unpadded s.toList)
  let ds ← Number.dropUnderscores? (plainDigits cs)
  if ds.isEmpty || !ds.all Char.isDigit || Number.maxWholeDigits < ds.length then none
  else
    let n : Int := Number.asciiValue ds
    return if negative then -n else n

/-- Whether a text ends like a directory: in a slash, or in a dot after one. -/
def endsLikeDirectory (s : String) : Bool :=
  match s.toList.reverse with
  | '/' :: _ | '.' :: '/' :: _ => true
  | _ => false

/-- Whether a path names a file that is no directory; what only a device could open is no file. A
path that no file system can have is a fault. -/
def namesFile (files : FileTree) (s : String) : Except Fault Bool :=
  let p := Path.ofString s
  match p.fault? with
  | some e => .error e
  | none => .ok (!endsLikeDirectory s && Text.nameBytes s < FileTree.pathBytesLimit
      && match files.find p with
        | .ok (_, .file _) => true
        | .ok (_, .unreadable e _) => e != .noDevice
        | _ => false)

/-- Takes one option into the settings. -/
def Globals.take (files : FileTree) (g : Globals) (option : GlobalOption) (value : String) :
    Except UsageError Globals :=
  match option with
  | .database => .ok { g with database := some value }
  | .poolSize =>
    match wholeArgument? value with
    | some n => .ok { g with poolSize := some n }
    | none => .error (.notWhole "--pool-size" value)
  | .scriptsDirectory =>
    match namesFile files value with
    | .error e => .error (.fault e)
    | .ok true => .error (.fileForDirectory "--scripts-dir" value)
    | .ok false => .ok { g with scriptsDirectory := some value }
  | .strict => .ok { g with strict := true }
  | .verbose => .ok { g with verbose := true }
  | .version | .help => .ok g

/-- The first position of each option with its last value: of an option that is given twice, the
last value counts, in the first place. -/
def lastValues {α : Type} [BEq α] (options : List (α × String)) : List (α × String) :=
  options.foldl (fun seen (key, value) =>
    if seen.any (·.1 == key) then
      seen.map fun o => if o.1 == key then (key, value) else o
    else seen ++ [(key, value)]) []

/-- Takes options into the settings, in order. -/
def Globals.takeAll (files : FileTree) (g : Globals) :
    List (GlobalOption × String) → Except UsageError Globals
  | [] => .ok g
  | (option, value) :: rest => do
    let g ← g.take files option value
    g.takeAll files rest

/-- Reads how a command line begins. To ask for the version or for help goes before all else. -/
def readOpening (files : FileTree) (args : List String) : Except UsageError Opening := do
  let a ← (readArguments globalOptions false args).mapError .options
  match a.options.find? fun (key, _) => key == .version || key == .help with
  | some (.version, _) => return .version
  | some _ => return .help
  | none => return .settings (← Globals.takeAll files {} (lastValues a.options)) a.rest

/-- **Reads the arguments of the program** up to its command. The name of a command that is unknown
is read once more, for it may look like an option. -/
def readRequest (files : FileTree) (args : List String) : Except UsageError Request := do
  match ← readOpening files args with
  | .version => return .version
  | .help => return .help
  | .settings _ [] => throw .missingCommand
  | .settings globals (name :: args) =>
    match Command.ofName? name with
    | some command => return .command globals command args
    | none => match ← readOpening files (name :: args) with
      | .version => return .version
      | .help => return .help
      | .settings .. => throw (.unknownCommand name)

/-- The overrides of a configuration that settings amount to. -/
def Globals.overrides (g : Globals) : Config.Inputs := fun setting =>
  match setting with
  | .databaseUrl => g.database.map (.value <| .text ·)
  | .poolSize => g.poolSize.map (.value <| .int ·)
  | .scriptsDirectory => g.scriptsDirectory.map (.path <| .ofString ·)
  | .strictParameters => if g.strict then some (.value (.bool true)) else none
  | .acquireTimeout | .busyTimeout => none

/-! ## Commands -/

/-- The options of commands. -/
inductive TaskOption where
  | param
  | json
  | help
  deriving DecidableEq, Repr

/-- The options of a command, with their names. -/
def taskOptions : Command → List (OptionSpec TaskOption)
  | .run | .exec =>
    [{ key := .param, long := some "param", short := some 'p', takesValue := true },
      { key := .json, long := some "json" },
      { key := .help, long := some "help" }]
  | .split =>
    [{ key := .json, long := some "json" },
      { key := .help, long := some "help" }]

/-- **A command with its options.** -/
structure Task where
  command : Command
  /-- The script or the statement. -/
  argument : String
  /-- The arguments that are parameters. -/
  parameters : List String := []
  json : Bool := false

/-- **Reads the arguments of a command**; `none` is a request for help. -/
def readTask (command : Command) (args : List String) : Except UsageError (Option Task) := do
  let a ← (readArguments (taskOptions command) true args).mapError .options
  if a.has .help then return none
  match a.rest with
  | [] => throw (.missingArgument command.argumentName)
  | [argument] =>
    return some { command, argument, parameters := a.values .param, json := a.has .json }
  | _ :: extra => throw (.extraArguments extra)

end SqlScript.CommandLine
