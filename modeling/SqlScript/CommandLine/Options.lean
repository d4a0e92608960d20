import SqlScript.Text.Similarity
import SqlScript.Text.Surrogate

/-!
# Options

Reading command-line arguments: options with a long name, a letter or both, some of which take the
next argument as their value, and arguments between them.

* `OptionSpec`: an option that is known.
* `OptionError`: what can be wrong with the arguments.
* `readArguments`: the options and the other arguments of a command line.
-/

namespace SqlScript.CommandLine

/-- **An option**, known as `key`. -/
structure OptionSpec (α : Type) where
  key : α
  /-- The name after two dashes. -/
  long : Option String := none
  /-- The letter after one dash. -/
  short : Option Char := none
  takesValue : Bool := false

/-- What can be wrong with options. -/
inductive OptionError where
  /-- An unknown name, with the known names that come close to it. -/
  | unknown (name : String) (similar : List String)
  | missingValue (name : String)
  | unexpectedValue (name : String)
  deriving DecidableEq, Repr

/-- What was read: the options with their values, in order, and the other arguments. -/
structure Arguments (α : Type) where
  options : List (α × String) := []
  rest : List String := []

/-- An option that waits for its value, with the name under which it was given. -/
abbrev Pending (α : Type) := Option (α × String)

/-- Reads the letters of an argument as options. A letter whose option takes a value takes what is
left of the argument, or else the next one. -/
def readLetters {α : Type} (specs : List (OptionSpec α)) :
    List Char → Except OptionError (List (α × String) × Pending α)
  | [] => .ok ([], none)
  | c :: cs =>
    match specs.find? (·.short == some c) with
    | none => .error (.unknown (String.ofList ('-' :: Text.takeWhole 1 (c :: cs))) [])
    | some spec =>
      let name := String.ofList ['-', c]
      if spec.takesValue then
        if cs.isEmpty then .ok ([], some (spec.key, name))
        else .ok ([(spec.key, String.ofList cs)], none)
      else match readLetters specs cs with
        | .ok (options, pending) => .ok ((spec.key, "") :: options, pending)
        | .error e => .error e

/-- The long names of options, with their dashes. -/
def longNames {α : Type} (specs : List (OptionSpec α)) : List String :=
  specs.filterMap fun spec => spec.long.map ("--" ++ ·)

/-- Splits an argument at its first equals sign. -/
def splitValue (arg : String) : String × Option String :=
  let cs := arg.toList
  let name := cs.takeWhile (· != '=')
  match cs.drop name.length with
  | _ :: value => (String.ofList name, some (String.ofList value))
  | [] => (arg, none)

/-- Reads an argument that begins with a dash: a long name, with its value behind an equals sign if
there is one, or letters. -/
def readOption {α : Type} (specs : List (OptionSpec α)) (arg : String) :
    Except OptionError (List (α × String) × Pending α) :=
  let (name, value) := splitValue arg
  let long := specs.find? fun spec => (spec.long.map ("--" ++ ·)) == some name
  match long with
  | some spec =>
    match spec.takesValue, value with
    | true, some value => .ok ([(spec.key, value)], none)
    | true, none => .ok ([], some (spec.key, name))
    | false, some _ => .error (.unexpectedValue name)
    | false, none => .ok ([(spec.key, "")], none)
  | none =>
    match arg.toList with
    | '-' :: '-' :: _ =>
      .error (.unknown name (Text.similarNames (Text.unmarked name.toList) (longNames specs)))
    | _ :: letters => readLetters specs letters
    | [] => .error (.unknown name [])

/-- Whether an argument is read as an option: a dash alone is none. -/
def looksLikeOption (arg : String) : Bool :=
  match arg.toList with
  | '-' :: _ :: _ => true
  | _ => false

/-- Reads arguments while an option may wait for its value. `mixed` says whether options can follow
other arguments. -/
def readFrom {α : Type} (specs : List (OptionSpec α)) (mixed : Bool) (pending : Pending α) :
    List String → Except OptionError (Arguments α)
  | [] =>
    match pending with
    | some (_, name) => .error (.missingValue name)
    | none => .ok {}
  | arg :: args => do
    match pending with
    | some (key, _) =>
      let a ← readFrom specs mixed none args
      return { a with options := (key, arg) :: a.options }
    | none =>
      if arg = "--" then return { rest := args }
      else if looksLikeOption arg then
        let (options, pending) ← readOption specs arg
        let a ← readFrom specs mixed pending args
        return { a with options := options ++ a.options }
      else if mixed then
        let a ← readFrom specs mixed none args
        return { a with rest := arg :: a.rest }
      else return { rest := arg :: args }

/-- **The options and the other arguments of a command line.** Two dashes end the options. -/
def readArguments {α : Type} (specs : List (OptionSpec α)) (mixed : Bool) (args : List String) :
    Except OptionError (Arguments α) :=
  readFrom specs mixed none args

namespace Arguments

variable {α : Type} [BEq α]

/-- Whether an option was given. -/
def has (a : Arguments α) (key : α) : Bool := a.options.any (·.1 == key)

/-- The values of an option, in order. -/
def values (a : Arguments α) (key : α) : List String :=
  (a.options.filter (·.1 == key)).map (·.2)

end Arguments

end SqlScript.CommandLine
