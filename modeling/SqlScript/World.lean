import SqlScript.Action
import SqlScript.Number.Binary64

/-!
# The world of a run

What a run reads and changes besides its own results: what lies outside of it, the requests made
there so far, the log, the clock and the printed text.

* `World`: the state.
* `World.say`, `World.readClock`, `World.print`: the actions on it.
-/

namespace SqlScript

/-- How much a log entry matters. -/
inductive LogLevel where
  | debug
  | info
  | warning
  deriving DecidableEq, Repr

/-- An entry of the log. -/
structure LogEntry where
  level : LogLevel
  message : String
  deriving DecidableEq, Repr

/-- **The world**: `κ` are the requests to a database, `τ` is the state of what lies outside. -/
structure World (κ τ : Type) where
  outside : τ
  /-- The requests so far, in order. -/
  trace : List κ := []
  log : List LogEntry := []
  /-- The times that the clock will show; the last one stays. -/
  clock : List Float := []
  printed : String := ""

namespace World

variable {κ τ : Type}

/-- Writes an entry to the log. -/
def say (level : LogLevel) (message : String) : Action (World κ τ) Unit :=
  .update fun w => { w with log := w.log ++ [⟨level, message⟩] }

/-- Prints a text. -/
def print (text : String) : Action (World κ τ) Unit :=
  .update fun w => { w with printed := w.printed ++ text }

/-- The time that the clock shows. -/
def now (w : World κ τ) : Float := w.clock.headD 0

/-- The world after the clock was read. -/
def tick (w : World κ τ) : World κ τ :=
  { w with clock := if w.clock.length ≤ 1 then w.clock else w.clock.tail }

/-- Reads the clock, in seconds. -/
def readClock : Action (World κ τ) Float := fun w => (.ok w.now, w.tick)

end World

/-- **The whole milliseconds between two times** in seconds. There is no such number if one of
them is no number, or if they are infinitely far apart. -/
def elapsedMilliseconds (start finish : Float) : Except Fault Int :=
  let milliseconds := (finish - start) * 1000
  match Number.Binary64.ofFloat milliseconds with
  | .nan => .error (.of .value "cannot convert float NaN to integer")
  | .infinite _ => .error (.of .overflow "cannot convert float infinity to integer")
  | .finite .. => .ok (Number.truncate milliseconds)

end SqlScript
