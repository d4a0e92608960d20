import SqlScript.Fault

/-!
# The failures of the runner

Each failure that the runner reports, with its code, its wording, and the fault behind it.

* `Failure.prepareFailed` and the others: one per way to fail.
-/

namespace SqlScript

namespace Failure

/-! ## Loading scripts -/

/-- There is no script at a path. -/
def scriptNotFound (path : String) (cause : Fault) : Failure :=
  { kind := .load, code := "script_not_found", message := s!"SQL script not found: {path}"
    cause := some cause }

/-- A package has no such script, or there is no such package. -/
def resourceNotFound (package resource : String) (cause : Fault) : Failure :=
  { kind := .load, code := "script_not_found"
    message := s!"SQL script resource not found: {package}:{resource}", cause := some cause }

/-- A script cannot be read. -/
def scriptUnreadable (name : String) (cause : Fault) : Failure :=
  { kind := .load, code := "script_unreadable"
    message := s!"An error occurred while reading the SQL script {name}: {cause.message}"
    cause := some cause }

/-! ## Parameters -/

/-- Parameters that no statement takes. -/
def excessDescription (left taken statements : Nat) : String :=
  s!"{left} parameter(s) left over after allocating {taken} across {statements} statement(s)"

/-- Parameters are left over where none may be. -/
def excessParameters (left taken statements : Nat) : Failure :=
  { kind := .allocation, code := "excess_parameters"
    message := excessDescription left taken statements }

/-! ## Connections -/

/-- The pool gives out no more connections. -/
def poolClosed (database : String) : Failure :=
  { kind := .acquire, code := "pool_closed"
    message := s!"Connection pool for {database} is closed" }

/-- No connection became free in time. -/
def poolExhausted (database timeout size : String) : Failure :=
  let limits := s!"{timeout}s (pool size {size})"
  { kind := .acquire, code := "pool_exhausted"
    message := s!"No connection to {database} became available within {limits}" }

/-- A connection could not be opened, or no transaction begun on it. -/
def transactionNotOpened (database : String) (cause : Fault) : Failure :=
  { kind := .acquire, code := "connection_failed"
    message := s!"Could not open a transaction on {database}: {cause.message}"
    cause := some cause }

/-- The pool failed with a fault of its own. -/
def connectionFailed (cause : Fault) : Failure :=
  { kind := .acquire, code := "connection_failed"
    message := s!"Could not get a database connection: {cause.message}", cause := some cause }

/-! ## Statements -/

/-- A statement could not be prepared. -/
def prepareFailed (index : Int) (cause : Fault) : Failure :=
  { kind := .load, code := "prepare_failed"
    message := s!"Statement {index} could not be prepared: {cause.message}"
    statementIndex := some index, cause := some cause }

/-- A parameter could not be bound, or the statement not be executed. -/
def executionFailed (index : Int) (cause : Fault) : Failure :=
  { kind := .execution, code := "execution_failed"
    message := s!"An error occurred while executing statement {index}: {cause.message}"
    statementIndex := some index, cause := some cause }

/-- The rows of a statement could not be read. -/
def materializationFailed (index : Option Int) (cause : Fault) : Failure :=
  let name := match index with
    | some i => toString i
    | none => "None"
  { kind := .materialization, code := "materialization_failed"
    message := s!"Could not read the results of statement {name}: {cause.message}"
    statementIndex := index, cause := some cause }

/-! ## Ending the transaction -/

/-- The transaction could not be committed. -/
def commitFailed (cause : Fault) : Failure :=
  { kind := .execution, code := "commit_failed"
    message := s!"Could not commit the script transaction: {cause.message}", cause := some cause }

/-- A script that failed with `trigger` could not be rolled back. -/
def rollbackFailed (trigger cause : Fault) : Failure :=
  { kind := .rollback, code := "rollback_failed"
    message := s!"Could not roll back the failed script ({trigger.message}): {cause.message}"
    statementIndex := trigger.statementIndex, cause := some cause, trigger := some trigger }

end Failure

end SqlScript
