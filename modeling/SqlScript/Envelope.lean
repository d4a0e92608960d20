import SqlScript.Fault
import SqlScript.Json

/-!
# Envelopes

What a command prints for programs: one JSON object with the data, the warnings, the failure if
there is one, and how the command ran.

* `EnvelopeError`: a failure in an envelope.
* `Envelope`, `Envelope.toJson`: an envelope and its JSON form.
-/

namespace SqlScript

/-- A failure in an envelope. -/
structure EnvelopeError where
  code : String
  message : String
  /-- Further facts, by name. -/
  details : Option Json := none

namespace EnvelopeError

/-- **A failure of the runner in an envelope**: with its kind, the statement to blame, and what is
behind it. -/
def ofFailure (f : Failure) : EnvelopeError :=
  let index := f.statementIndex.map fun i => ("statementIndex", Json.int i)
  let cause := f.cause.map fun e => ("cause", Json.string e.message)
  let trigger := f.trigger.map fun e => ("originalError", Json.string e.message)
  { code := f.code, message := f.message
    details := some (.object (("type", .string f.kind.name) ::
      (index.toList ++ cause.toList ++ (if f.kind = .rollback then trigger.toList else [])))) }

/-- The JSON form of a failure. -/
def toJson (e : EnvelopeError) : Json :=
  .object ([("code", .string e.code), ("message", .string e.message)]
    ++ (e.details.map fun d => ("details", d)).toList)

end EnvelopeError

/-- How a command ran. -/
structure EnvelopeMeta where
  /-- Milliseconds. -/
  duration : Int
  database : Option String
  exitCode : Int

/-- The JSON form of how a command ran. -/
def EnvelopeMeta.toJson (m : EnvelopeMeta) : Json :=
  .object [("durationMs", .int m.duration),
    ("database", match m.database with
      | some d => .string d
      | none => .null),
    ("exitCode", .int m.exitCode)]

/-- **An envelope.** The command succeeded if there is no error. -/
structure Envelope where
  command : String
  data : Json
  warnings : List String := []
  error : Option EnvelopeError := none
  info : EnvelopeMeta

namespace Envelope

/-- The version of the format. -/
def schemaVersion : String := "1"

/-- **The JSON form of an envelope.** -/
def toJson (e : Envelope) : Json :=
  .object [
    ("schemaVersion", .string schemaVersion),
    ("command", .string e.command),
    ("status", .string (if e.error.isNone then "success" else "error")),
    ("data", e.data),
    ("warnings", .array (e.warnings.map .string)),
    ("errors", .array (e.error.toList.map EnvelopeError.toJson)),
    ("meta", e.info.toJson)]

/-- The line that is printed. -/
def line (e : Envelope) : String := e.toJson.line

end Envelope

end SqlScript
