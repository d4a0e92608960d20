import SqlScript.Value
import SqlScript.Files.Path
import SqlScript.Text.Blank

/-!
# Configuration

The settings of a runner. Each comes from an override, else from its environment variable, else
from its default. Each input is checked on its own, by a validation that is given, and all settings
whose input it refuses are reported together.

* `Setting`: the settings, with their names and variables.
* `Config.Validation`: what reads inputs, with `Validation.IsSound` for what it has to keep to.
* `Problem`: what is wrong with the input of a setting.
* `Config`, `Config.ofSources`: the settings' values, read from their sources.
-/

namespace SqlScript

/-- The settings. -/
inductive Setting where
  | databaseUrl
  | poolSize
  | acquireTimeout
  | busyTimeout
  | scriptsDirectory
  | strictParameters
  deriving DecidableEq, Repr

namespace Setting

/-- The name of a setting. -/
def name : Setting → String
  | databaseUrl => "database_url"
  | poolSize => "pool_size"
  | acquireTimeout => "acquire_timeout_seconds"
  | busyTimeout => "busy_timeout_seconds"
  | scriptsDirectory => "scripts_dir"
  | strictParameters => "strict_parameters"

/-- The environment variable of a setting. -/
def variableName : Setting → String
  | databaseUrl => "SQLRUNNER_DATABASE_URL"
  | poolSize => "SQLRUNNER_POOL_SIZE"
  | acquireTimeout => "SQLRUNNER_ACQUIRE_TIMEOUT"
  | busyTimeout => "SQLRUNNER_BUSY_TIMEOUT"
  | scriptsDirectory => "SQLRUNNER_SCRIPTS_DIR"
  | strictParameters => "SQLRUNNER_STRICT_PARAMETERS"

/-- All settings, in the order in which they are reported. -/
def all : List Setting :=
  [databaseUrl, poolSize, acquireTimeout, busyTimeout, scriptsDirectory, strictParameters]

end Setting

namespace Config

/-! ## Inputs and their validation -/

/-- **An input of a setting**: a value, or a path. -/
inductive Input where
  | value (v : Value)
  | path (p : Path)

/-- What is wrong with an input: a stable name, and a description. -/
structure Complaint where
  code : String
  message : String
  deriving DecidableEq, Repr

/-- A bound that a number has to keep to. -/
inductive Bound where
  | atLeast (limit : Nat)
  | above (limit : Nat)
  deriving DecidableEq, Repr

/-- A number keeps to a bound. -/
def Bound.Holds (b : Bound) (x : Float) : Prop :=
  match b with
  | atLeast limit => Float.ofNat limit ≤ x
  | above limit => Float.ofNat limit < x

instance (b : Bound) (x : Float) : Decidable (b.Holds x) :=
  match b with
  | .atLeast limit => inferInstanceAs (Decidable (Float.ofNat limit ≤ x))
  | .above limit => inferInstanceAs (Decidable (Float.ofNat limit < x))

/-- **A validation**: it reads an input as a text, as a whole number that is not below a least one,
as a number within a bound, as a path or as a truth value, or complains of it. -/
structure Validation where
  text : Input → Except Complaint String
  whole (least : Int) : Input → Except Complaint Int
  number (bound : Bound) : Input → Except Complaint Float
  path : Input → Except Complaint Path
  truth : Input → Except Complaint Bool

/-- **A sound validation**: the numbers that it accepts keep to what is asked of them, and an input
that is of the right kind already is taken as it is. -/
structure Validation.IsSound (v : Validation) : Prop where
  whole {least n : Int} {i : Input} (accepted : v.whole least i = .ok n) : least ≤ n
  number {bound : Bound} {x : Float} {i : Input} (accepted : v.number bound i = .ok x) :
    bound.Holds x
  ownText (s : String) : v.text (.value (.text s)) = .ok s
  ownWhole {least n : Int} (kept : least ≤ n) : v.whole least (.value (.int n)) = .ok n
  ownNumber {bound : Bound} {x : Float} (kept : bound.Holds x) :
    v.number bound (.value (.float x)) = .ok x
  ownTruth (b : Bool) : v.truth (.value (.bool b)) = .ok b

end Config

/-- **A problem** with the input of a setting. -/
structure Problem where
  setting : Setting
  complaint : Config.Complaint
  input : Config.Input

/-! ## The configuration -/

/-- **The configuration** of a runner. -/
structure Config where
  databaseUrl : String := "sqlite:///sqlrunner.db"
  poolSize : Int := 5
  /-- Seconds. -/
  acquireTimeout : Float := 30
  /-- Seconds. -/
  busyTimeout : Float := 5
  scriptsDirectory : Option Path := none
  strictParameters : Bool := false
  deriving Inhabited

namespace Config

/-- The inputs of the settings, for those that have one. -/
abbrev Inputs := Setting → Option Input

/-- Inputs given by name. A name that no setting has counts for nothing. -/
def fromNames (named : List (String × Input)) : Inputs := fun setting =>
  (named.find? (·.1 == setting.name)).map (·.2)

/-- The text of an environment variable without blanks at its ends, unless it is blank. -/
def fromEnvironment (environment : List (String × String)) : Inputs := fun setting => do
  let (_, raw) ← environment.find? (·.1 == setting.variableName)
  let text := Text.trim raw.toList
  if text.isEmpty then none else some (.value (.text (String.ofList text)))

/-- **The input of a setting**: the override unless it is null, else the environment's. -/
def effective (environment : List (String × String)) (overrides : Inputs) : Inputs :=
  fun setting => match overrides setting with
    | none | some (.value .null) => fromEnvironment environment setting
    | some i => some i

/-- Reads the input of a setting, if there is one. -/
def readSetting {α : Type} (inputs : Inputs) (setting : Setting) (default : α)
    (read : Input → Except Complaint α) : Except Problem α :=
  match inputs setting with
  | none => .ok default
  | some i => (read i).mapError fun complaint => ⟨setting, complaint, i⟩

/-- The problem of a reading, if it failed. -/
def problem? {α : Type} : Except Problem α → Option Problem
  | .ok _ => none
  | .error p => some p

section

variable (v : Validation)

/-- A pool has at least one slot. -/
def poolSizeOf (i : Input) : Except Complaint Int := v.whole 1 i

/-- A time to wait for a connection is more than nothing. -/
def acquireTimeoutOf (i : Input) : Except Complaint Float := v.number (.above 0) i

/-- A time to wait for a database is not negative. -/
def busyTimeoutOf (i : Input) : Except Complaint Float := v.number (.atLeast 0) i

/-- A directory is given by its path. -/
def scriptsDirectoryOf (i : Input) : Except Complaint (Option Path) := (v.path i).map some

/-- The configuration from the inputs of its settings, or all problems with them. -/
def ofInputs (inputs : Inputs) : Except (List Problem) Config :=
  let d : Config := {}
  let databaseUrl := readSetting inputs .databaseUrl d.databaseUrl v.text
  let poolSize := readSetting inputs .poolSize d.poolSize (poolSizeOf v)
  let acquireTimeout :=
    readSetting inputs .acquireTimeout d.acquireTimeout (acquireTimeoutOf v)
  let busyTimeout := readSetting inputs .busyTimeout d.busyTimeout (busyTimeoutOf v)
  let scriptsDirectory :=
    readSetting inputs .scriptsDirectory d.scriptsDirectory (scriptsDirectoryOf v)
  let strictParameters :=
    readSetting inputs .strictParameters d.strictParameters v.truth
  match databaseUrl, poolSize, acquireTimeout, busyTimeout, scriptsDirectory, strictParameters with
  | .ok a, .ok b, .ok c, .ok d, .ok e, .ok f => .ok ⟨a, b, c, d, e, f⟩
  | a, b, c, d, e, f =>
    .error ([problem? a, problem? b, problem? c, problem? d, problem? e, problem? f].filterMap id)

/-- **The configuration from its sources**, or all problems with them. -/
def ofSources (environment : List (String × String)) (overrides : Inputs) :
    Except (List Problem) Config :=
  ofInputs v (effective environment overrides)

end

end Config

end SqlScript
