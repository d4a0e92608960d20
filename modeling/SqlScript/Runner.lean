import SqlScript.Allocation
import SqlScript.Backend
import SqlScript.Snapshot
import SqlScript.Files.Loader

/-!
# The runner

Runs the statements of a script one after the other in one transaction. It is committed if
every statement succeeds; whatever goes wrong rolls it back, and the connection is given back in
any case.

* `Runner`: a backend with the rules of its runs.
* `Runner.executeUnits`: runs statements with their parameters in one transaction.
* `Runner.runScript`, `Runner.runFile`, `Runner.runStatement`: runs a script, a script by its name,
  and a single statement.
-/

namespace SqlScript

/-- What a statement gives: a snapshot if it has a row set. -/
abbrev Outcome := Option Snapshot

/-- **A runner** over a backend. -/
structure Runner (κ τ Conn Stmt : Type) where
  backend : Backend κ τ Conn Stmt
  loader : Loader := {}
  /-- Parameters that no statement takes are a failure. -/
  strictParameters : Bool := false

namespace Backend

variable {κ τ Conn Stmt : Type}

/-! ## One statement -/

/-- Binds the values of a batch to the positions from `position` on. -/
def bindFrom (b : Backend κ τ Conn Stmt) (position : Int) (s : Stmt) :
    Batch → Action (World κ τ) Stmt
  | [] => return s
  | value :: batch => do
    let s ← b.bind s position value
    b.bindFrom (position + 1) s batch

/-- Binds a batch to a statement and executes it. -/
def bindAndExecute (b : Backend κ τ Conn Stmt) (s : Stmt) (batch : Batch) :
    Action (World κ τ) Cursor := do
  let s ← b.bindFrom 1 s batch
  b.execute s

/-- What a cursor gives, after which it is closed. -/
def collect (b : Backend κ τ Conn Stmt) (index : Int) (cursor : Cursor) :
    Action (World κ τ) Outcome := do
  if cursor.columns.isNone then
    World.say .debug s!"Statement {index} affected {cursor.rowCount} row(s)"
    b.closeCursor cursor
    return none
  else
    let snapshot ← Snapshot.materialize b.closeCursor cursor (some index)
    return some snapshot

/-- **Runs one statement**: it is prepared, bound and executed, and its rows are read. -/
def runUnit (b : Backend κ τ Conn Stmt) (c : Conn) (unit : StatementUnit) (batch : Batch) :
    Action (World κ τ) Outcome := do
  World.say .debug s!"Statement {unit.index}: {unit.sql} with {batch.length} parameter(s)"
  let s ← Action.reporting (Failure.prepareFailed unit.index) (b.prepare c unit.sql)
  let cursor ← Action.reporting (Failure.executionFailed unit.index) (b.bindAndExecute s batch)
  b.collect unit.index cursor

/-- Runs statements in order, up to the first fault. -/
def runUnits (b : Backend κ τ Conn Stmt) (c : Conn) :
    List (StatementUnit × Batch) → Action (World κ τ) (List Outcome)
  | [] => return []
  | (unit, batch) :: rest => do
    let outcome ← b.runUnit c unit batch
    let outcomes ← b.runUnits c rest
    return outcome :: outcomes

/-! ## The transaction -/

/-- **Rolls back** what failed with a fault. -/
def rollbackAfter (b : Backend κ τ Conn Stmt) (c : Conn) (e : Fault) :
    Action (World κ τ) Unit := do
  World.say .warning s!"Rolling back script transaction: {e.message}"
  Action.reporting (Failure.rollbackFailed e) (b.rollback c)

/-- **Commits**. An ordinary fault of it is reported after a rollback; the failure that is rolled
back has no cause yet. -/
def commitOrRollback (b : Backend κ τ Conn Stmt) (c : Conn) : Action (World κ τ) Unit := do
  match ← Action.attempt (b.commit c) with
  | .ok () => return ()
  | .error e =>
    if e.isOrdinary then
      let failure := Failure.commitFailed e
      b.rollbackAfter c (.failure { failure with cause := none })
      throw (.failure failure)
    else throw e

/-- How a fault of acquiring a connection is reported: failures of the runner go on as they are. -/
def reportAcquire (e : Fault) : Fault :=
  match e with
  | .failure f => .failure f
  | e => if e.isOrdinary then .failure (Failure.connectionFailed e) else e

/-- Acquires a connection. -/
def acquireConnection (b : Backend κ τ Conn Stmt) : Action (World κ τ) Conn := do
  match ← Action.attempt b.acquire with
  | .ok c => return c
  | .error e => throw (reportAcquire e)

/-- **A transaction**: the body runs on one connection, what it did is committed if it succeeds and
rolled back otherwise, and the connection is released. -/
def transaction {α : Type} (b : Backend κ τ Conn Stmt) (body : Conn → Action (World κ τ) α) :
    Action (World κ τ) α := do
  let c ← b.acquireConnection
  Action.ensure (do
    let result ← Action.onFault (body c) (b.rollbackAfter c)
    b.commitOrRollback c
    return result) (b.release c)

end Backend

namespace Runner

variable {κ τ Conn Stmt : Type}

/-! ## Runs -/

/-- **Runs statements** with a batch for each, in one transaction. -/
def executeUnits (r : Runner κ τ Conn Stmt) (units : List StatementUnit) (batches : List Batch) :
    Action (World κ τ) (List Outcome) := do
  let n := units.length
  if batches.length ≠ n then
    throw (.of .value s!"Expected {n} parameter batch(es), got {batches.length}")
  else if n = 0 then
    World.say .debug "Script contains no statements; nothing to execute"
    return []
  else
    let start ← World.readClock
    let outcomes ← r.backend.transaction fun c => r.backend.runUnits c (units.zip batches)
    let finish ← World.readClock
    let elapsed ← Action.ofExcept (elapsedMilliseconds start finish)
    World.say .info s!"Committed {n} statement(s) in {elapsed}ms"
    return outcomes

/-- The batches for statements; the log warns of parameters that no statement takes. -/
def allocateBatches (r : Runner κ τ Conn Stmt) (units : List StatementUnit)
    (parameters : List Value) : Action (World κ τ) (List Batch) := do
  match allocate units parameters r.strictParameters with
  | .error failure => throw (.failure failure)
  | .ok (batches, none) => return batches
  | .ok (batches, some warning) =>
    World.say .warning warning
    return batches

/-- **Runs a script** with one list of parameters for all its statements. -/
def runScript (r : Runner κ τ Conn Stmt) (script : String) (parameters : List Value) :
    Action (World κ τ) (List Outcome) := do
  let units := parseScript script
  let batches ← r.allocateBatches units parameters
  r.executeUnits units batches

/-- Runs a script by its name. -/
def runFile (r : Runner κ τ Conn Stmt) (files : FileTree) (name : ScriptName)
    (parameters : List Value) : Action (World κ τ) (List Outcome) := do
  let script ← r.loader.load files name
  r.runScript script parameters

/-- **Runs a single statement** with all parameters. A text without a statement is not run. -/
def runStatement (r : Runner κ τ Conn Stmt) (text : String) (parameters : List Value) :
    Action (World κ τ) Outcome := do
  if split text = [] then
    World.say .debug "Statement is empty; nothing to execute"
    return none
  else
    let outcomes ← r.executeUnits [parseStatement text] [parameters]
    return outcomes.headD none

end Runner

end SqlScript
