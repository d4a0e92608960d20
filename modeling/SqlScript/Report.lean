import SqlScript.Runner

/-!
# Reports

A report tells what became of a script: of each statement, and of the run as a whole. A run that
failed left the database unchanged, which the status of each statement says.

* `StatementReport`, `ScriptReport`: the reports.
* `ScriptReport.ofOutcomes`, `ScriptReport.ofFailure`: the report of a run.
* `ScriptReport.toJson`: a report as JSON.
* `Runner.reportScript`, `Runner.reportStatement`: runs that end in a report.
-/

namespace SqlScript

/-- What became of a statement. -/
inductive StatementStatus where
  | success
  | failed
  | skipped
  /-- It ran, and was undone. -/
  | rolledBack
  deriving DecidableEq, Repr

/-- The name of a status. -/
def StatementStatus.name : StatementStatus → String
  | success => "success"
  | failed => "failed"
  | skipped => "skipped"
  | rolledBack => "rolled_back"

/-- **What became of a statement** of a script. -/
structure StatementReport where
  unit : StatementUnit
  parameters : Batch
  status : StatementStatus
  outcome : Outcome := none

namespace StatementReport

/-- The labels of the columns, if the statement has a row set. -/
def columns (s : StatementReport) : Option (List String) := s.outcome.map (·.columns)

/-- The rows, if the statement has a row set. -/
def rows (s : StatementReport) : Option (List Row) := s.outcome.map (·.rows)

/-- The number of rows, if the statement has a row set. -/
def rowCount (s : StatementReport) : Option Nat := s.outcome.map (·.rows.length)

end StatementReport

/-- **What became of a script.** The run failed if there is an error. -/
structure ScriptReport where
  /-- Where the script came from. -/
  source : String
  statements : List StatementReport
  totalStatements : Nat
  /-- The number of parameters that no statement took. -/
  discardedParameters : Int
  /-- The milliseconds that the run took. -/
  elapsed : Int
  error : Option Failure := none

/-! ## Reports of runs -/

/-- **What a failure says about a statement.** The statements before the one to blame ran; if none
is to blame, all ran if the failure is one of committing, and else none. -/
def Failure.statusOf (f : Failure) (index : Int) : StatementStatus :=
  match f.statementIndex with
  | none => if f.code = "commit_failed" then .rolledBack else .skipped
  | some blamed =>
    if index < blamed then .rolledBack else if index = blamed then .failed else .skipped

namespace ScriptReport

/-- The number of parameters that are in no batch. -/
def discarded (parameterCount : Int) (batches : List Batch) : Int :=
  let used : Nat := (batches.map List.length).foldl (· + ·) 0
  parameterCount - used

/-- **The report of a committed run.** -/
def ofOutcomes (source : String) (units : List StatementUnit) (batches : List Batch)
    (outcomes : List Outcome) (parameterCount elapsed : Int) : ScriptReport where
  source
  statements := ((units.zip batches).zip outcomes).map fun ((unit, parameters), outcome) =>
    { unit, parameters, status := .success, outcome }
  totalStatements := units.length
  discardedParameters := discarded parameterCount batches
  elapsed

/-- **The report of a failed run.** Without batches it failed before they were known. -/
def ofFailure (source : String) (units : List StatementUnit) (batches : List Batch)
    (failure : Failure) (parameterCount elapsed : Int) : ScriptReport where
  source
  statements := units.mapIdx fun i unit =>
    { unit, parameters := batches.getD i [], status := failure.statusOf unit.index }
  totalStatements := units.length
  discardedParameters := if batches.isEmpty then 0 else discarded parameterCount batches
  elapsed
  error := some failure

/-- Whether the run was committed. -/
def isSuccess (r : ScriptReport) : Bool := r.error.isNone

/-- The number of committed statements. -/
def successfulStatements (r : ScriptReport) : Nat := if r.isSuccess then r.totalStatements else 0

/-- The statement to blame for a failed run, if there is one. -/
def failedIndex (r : ScriptReport) : Option Int := r.error.bind (·.statementIndex)

/-- The code of the failure. -/
def errorCode (r : ScriptReport) : Option String := r.error.map (·.code)

/-- The description of the failure. -/
def errorMessage (r : ScriptReport) : Option String := r.error.map (·.message)

end ScriptReport

/-! ## Reports as JSON -/

/-- A value if there is one, and null otherwise. -/
def Json.orNull {α : Type} (f : α → Json) : Option α → Json
  | some x => f x
  | none => .null

/-- A row as an object. Its labels become names of fields, in which half of a surrogate pair is an
unknown one; of two labels with one name the later value counts. -/
def Row.toJson (row : Row) : Except Value.JsonError Json := do
  let fields ← row.mapM fun (label, value) => do
    return (String.ofList (Text.replaceSurrogates label.toList), ← value.toJson)
  return .object (fields.foldl (fun fields (name, j) => Json.setField fields name j) [])

/-- A report on a statement as JSON, if all its values have a JSON form. -/
def StatementReport.toJson (s : StatementReport) : Except Value.JsonError Json := do
  let parameters ← s.parameters.mapM Value.toJson
  let rows ← match s.rows with
    | some rows => (rows.mapM Row.toJson).map Json.array
    | none => .ok .null
  return .object [
    ("index", .int s.unit.index),
    ("sql", .string s.unit.sql),
    ("parameters", .array parameters),
    ("status", .string s.status.name),
    ("columns", .orNull (fun labels => .array (labels.map .string)) s.columns),
    ("rows", rows),
    ("row_count", .orNull (fun n : Nat => .int n) s.rowCount)]

/-- The fields of a report, if all its values have a JSON form. -/
def ScriptReport.fields (r : ScriptReport) :
    Except Value.JsonError (List (String × Json)) := do
  let statements ← r.statements.mapM StatementReport.toJson
  return [
    ("source", .string r.source),
    ("status", .string (if r.isSuccess then "success" else "failed")),
    ("total_statements", .int r.totalStatements),
    ("successful_statements", .int r.successfulStatements),
    ("failed_statement_index", .orNull .int r.failedIndex),
    ("statement_results", .array statements),
    ("discarded_parameters", .int r.discardedParameters),
    ("total_execution_time_ms", .int r.elapsed),
    ("error_code", .orNull .string r.errorCode),
    ("error_message", .orNull .string r.errorMessage)]

/-- **A report as JSON.** A value without a JSON form is a fault, the first one of several. -/
def ScriptReport.toJson (r : ScriptReport) : Except Fault Json :=
  (r.fields.mapError Value.JsonError.fault).map .object

/-! ## Runs with a report -/

namespace Runner

variable {κ τ Conn Stmt : Type}

/-- **Runs statements and reports.** Failures are part of the report; other faults go on as they
are. -/
def report (r : Runner κ τ Conn Stmt) (source : String) (units : List StatementUnit)
    (parameters : List Value) (allocate : Action (World κ τ) (List Batch)) :
    Action (World κ τ) ScriptReport := do
  let count : Int := parameters.length
  let start ← World.readClock
  let elapsed : Action (World κ τ) Int := do
    let finish ← World.readClock
    Action.ofExcept (elapsedMilliseconds start finish)
  let failed (batches : List Batch) (e : Fault) : Action (World κ τ) ScriptReport :=
    match e with
    | .failure f => do
      let ms ← elapsed
      World.say .debug s!"Run of {source} failed with {f.code}"
      return .ofFailure source units batches f count ms
    | e => throw e
  match ← Action.attempt allocate with
  | .error e => failed [] e
  | .ok batches =>
    match ← Action.attempt (r.executeUnits units batches) with
    | .error e => failed batches e
    | .ok outcomes => do
      let ms ← elapsed
      return .ofOutcomes source units batches outcomes count ms

/-- **Runs a script and reports.** -/
def reportScript (r : Runner κ τ Conn Stmt) (source script : String) (parameters : List Value) :
    Action (World κ τ) ScriptReport :=
  let units := parseScript script
  r.report source units parameters (r.allocateBatches units parameters)

/-- The source of a single statement. -/
def statementSource : String := "<statement>"

/-- **Runs a single statement and reports.** A text without a statement is reported as a script of
none. -/
def reportStatement (r : Runner κ τ Conn Stmt) (text : String) (parameters : List Value) :
    Action (World κ τ) ScriptReport :=
  if split text = [] then r.report statementSource [] parameters (pure [])
  else r.report statementSource [parseStatement text] parameters (pure [parameters])

end Runner

end SqlScript
