import SqlScript.Config
import SqlScript.CommandLine.Options
import SqlScript.Text.ControlSequence
import SqlScript.Text.Quoted

/-!
# Usage errors

What is wrong with a command line, and how it is told to the user.

* `UsageError`: what can be wrong.
* `UsageError.heading`, `UsageError.text`: the text for the user.
* `problemsText`: the problems with a configuration.
-/

namespace SqlScript.CommandLine

/-! ## Problems with the configuration -/

/-- The name of the kind of a value. -/
def valueKind : Value → String
  | .null => "NoneType"
  | .bool _ => "bool"
  | .int _ => "int"
  | .float _ => "float"
  | .text _ => "str"
  | .bytes .plain _ => "bytes"
  | .bytes .mutable _ => "bytearray"
  | .bytes .view _ => "memoryview"
  | .list _ => "list"
  | .date .. => "date"
  | .time .. => "time"
  | .dateTime .. => "datetime"
  | .decimal _ => "Decimal"
  | .handle _ | .foreign .. => "object"

/-- The name of the kind of an input. -/
def inputKind : Config.Input → String
  | .value v => valueKind v
  | .path _ => "PosixPath"

/-- The literal of an input. -/
def inputLiteral : Config.Input → String
  | .value v => v.literal
  | .path p => s!"PosixPath({Text.quoted p.text})"

/-- The longest start of a text that has at most `n` bytes in UTF-8. -/
def startWithin (n : Nat) : List Char → List Char
  | [] => []
  | c :: cs => if c.utf8Size ≤ n then c :: startWithin (n - c.utf8Size) cs else []

/-- A text of more than 50 bytes by its first 25 and its last 24 bytes. -/
def abridged (s : String) : String :=
  if s.utf8ByteSize ≤ 50 then s
  else
    let first := startWithin 25 s.toList
    let last := (startWithin 24 s.toList.reverse).reverse
    String.ofList first ++ "..." ++ String.ofList last

/-- Where a kind of problem is explained. -/
def explanationAddress (code : String) : String :=
  "https:" ++ "//errors.pydantic.dev/2.14/v/" ++ code

/-- The lines on one problem. -/
def problemText (p : Problem) : String :=
  let code := p.complaint.code
  let message := p.complaint.message
  let input := abridged (inputLiteral p.input)
  let kind := inputKind p.input
  p.setting.name ++ s!"\n  {message} [type={code}, input_value={input}, input_type={kind}]"
    ++ s!"\n    For further information visit {explanationAddress code}"

/-- **The problems with a configuration**, with their number. -/
def problemsText (ps : List Problem) : String :=
  let plural := if ps.length = 1 then "" else "s"
  let heading := s!"{ps.length} validation error{plural} for RunnerConfig"
  "\n".intercalate (heading :: ps.map problemText)

/-! ## Usage errors -/

/-- The commands. -/
inductive Command where
  | run
  | exec
  | split
  deriving DecidableEq, Repr

namespace Command

/-- The name of a command. -/
def name : Command → String
  | run => "run"
  | exec => "exec"
  | split => "split"

/-- The name of the argument of a command. -/
def argumentName : Command → String
  | run | split => "SCRIPT"
  | exec => "STATEMENT"

/-- All commands. -/
def all : List Command := [run, exec, split]

/-- The command with a name. -/
def ofName? (name : String) : Option Command := all.find? (·.name == name)

end Command

/-- What can be wrong with a command line. -/
inductive UsageError where
  | options (e : OptionError)
  | missingCommand
  | unknownCommand (name : String)
  | missingArgument (name : String)
  | extraArguments (args : List String)
  | notWhole (option value : String)
  | fileForDirectory (option value : String)
  | configuration (ps : List Problem)
  /-- A value that nothing can be said of, for looking at it is a fault. -/
  | fault (e : Fault)

namespace UsageError

/-- A hint at the names that may have been meant, if there are any. -/
def hint : List String → String
  | [] => ""
  | [name] => s!" Did you mean {Text.quoted name}?"
  | names => " (Did you mean one of: " ++ ", ".intercalate (names.map Text.quoted) ++ "?)"

/-- The wording of an error. -/
def message : UsageError → String
  | options (.unknown name similar) => s!"No such option {Text.quoted name}." ++ hint similar
  | options (.missingValue name) => s!"Option {Text.quoted name} requires an argument."
  | options (.unexpectedValue name) => s!"Option {Text.quoted name} does not take a value."
  | missingCommand => "Missing command."
  | unknownCommand name =>
    s!"No such command {Text.quoted name}."
      ++ hint (Text.similarNames (Text.unmarked name.toList) (Command.all.map Command.name))
  | missingArgument name => s!"Missing argument '{name}'."
  | extraArguments args =>
    let plural := if args.length = 1 then "" else "s"
    let shown := " ".intercalate args
    s!"Got unexpected extra argument{plural} ({shown})"
  | notWhole option value =>
    s!"Invalid value for '{option}': {Text.quoted value} is not a valid integer."
  | fileForDirectory option value =>
    s!"Invalid value for '{option}': Directory {Text.quoted value} is a file."
  | configuration ps => s!"Invalid value: {problemsText ps}"
  | fault e => e.message

/-- Whether the usage is shown too: not for an option without its value or with one too many. -/
def showsUsage : UsageError → Bool
  | options (.missingValue _) | options (.unexpectedValue _) => false
  | _ => true

end UsageError

/-- The name of the program. -/
def programName : String := "sqlrunner"

/-- The usage of the program, or of one of its commands. -/
def usage : Option Command → String
  | none => s!"Usage: {programName} [OPTIONS] COMMAND [ARGS]..."
  | some c => s!"Usage: {programName} {c.name} [OPTIONS] {c.argumentName}"

/-- How to get help. -/
def helpHint (c : Option Command) : String :=
  let path := match c with
    | none => programName
    | some c => programName ++ " " ++ c.name
  s!"Try '{path} --help' for help."

/-- **What the user is told first**: the usage, and where to get help. -/
def UsageError.heading (e : UsageError) (c : Option Command) : String :=
  if e.showsUsage then usage c ++ "\n" ++ helpHint c ++ "\n\n" else ""

/-- **The error for the user**, in which nothing controls the terminal. -/
def UsageError.text (e : UsageError) : String :=
  "Error: " ++ Text.withoutControlSequences e.message ++ "\n"

end SqlScript.CommandLine
