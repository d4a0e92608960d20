import SqlScript.Config
import SqlScript.DatabaseUrl
import SqlScript.Failure
import SqlScript.Sqlite.Driver
import SqlScript.Text.Quoted

/-!
# The connection pool

Connections to a SQLite database, opened when they are needed and used again. Each is leased with
a transaction open on it, to one holder at a time, and at most as many as the pool has slots.

* `Pool`: the state of a pool.
* `Lease`: a connection that is out.
* `Pool.acquire`, `Pool.release`, `Pool.close`: the operations.
* `Pool.withLease`: a lease for the duration of an action.
-/

namespace SqlScript.Sqlite

/-- **A lease**: a connection that was given out, under a number of its own. -/
structure Lease where
  number : Nat
  connection : Nat
  deriving DecidableEq, Repr

/-- **A pool** of connections to a database. -/
structure Pool where
  database : String
  size : Amount
  acquireTimeout : Amount
  busyTimeout : Amount
  /-- The slots for further leases. A size with a fraction never comes down to no slot. -/
  free : Option Nat := size.units?
  /-- The connections that wait for their next lease, the latest first. -/
  idle : List Nat := []
  closed : Bool := false
  /-- The leases that were not released yet. -/
  leases : List Lease := []
  /-- How many leases were given out. -/
  leased : Nat := 0

/-- The pool of a program that opened no database yet: it is closed. -/
def Pool.unopened : Pool where
  database := ""
  size := .whole 0
  acquireTimeout := .whole 0
  busyTimeout := .whole 0
  closed := true

/-- A pool with what lies behind it. -/
structure Session (σ : Type) where
  pool : Pool := .unopened
  /-- How many connections were asked for. -/
  connects : Nat := 0
  driver : σ

namespace Pool

/-- **A new pool**, and a note for the log. Each connection to a database in memory has a database
of its own, so its pool has one slot, whatever size is asked for. -/
def create (database : String) (size acquireTimeout busyTimeout : Amount) :
    Except Fault Pool × Option String :=
  let single := database = memoryDatabase ∧ !size.isOne
  let note := if single then
      some s!"Using a single connection for '{memoryDatabase}' instead of {size.text}"
    else none
  let size := if single then .whole 1 else size
  if size.isBelowOne then
    (.error (.of .value s!"Pool size must be at least 1, got {size.text}"), note)
  else (.ok { database, size, acquireTimeout, busyTimeout }, note)

/-- The pool of a location with the size and times of a configuration. -/
def ofConfig (location : String) (config : Config) : Except Fault Pool × Option String :=
  create location (.whole config.poolSize) (.fractional config.acquireTimeout)
    (.fractional config.busyTimeout)

/-- Whether the database is kept in memory. -/
def inMemory (p : Pool) : Bool := p.database == memoryDatabase

end Pool

/-- Actions on a pool over a driver with states `σ`. -/
abbrev PoolAction (σ α : Type) := Action (World Call (Session σ)) α

variable {σ : Type}

/-! ## Requests -/

/-- The state of the pool. -/
def pool : PoolAction σ Pool := fun w => (.ok w.outside.pool, w)

/-- Changes the state of the pool. -/
def updatePool (f : Pool → Pool) : PoolAction σ Unit :=
  .update fun w => { w with outside := { w.outside with pool := f w.outside.pool } }

namespace Driver

/-- Makes a request. -/
def ask (d : Driver σ) (call : Call) : PoolAction σ Cursor := fun w =>
  match d.answer call w.outside.driver with
  | (reply, s) =>
    (reply, { w with outside := { w.outside with driver := s }, trace := w.trace ++ [call] })

/-- Makes a request whose answer does not matter. -/
def tell (d : Driver σ) (call : Call) : PoolAction σ Unit := do
  let _ ← d.ask call

/-- Executes a text without parameters. -/
def run (d : Driver σ) (connection : Nat) (sql : String) : PoolAction σ Unit :=
  d.tell (.execute connection sql [])

/-- The number for the next connection. -/
def nextConnection : PoolAction σ Nat := fun w =>
  let n := w.outside.connects + 1
  (.ok n, { w with outside := { w.outside with connects := n } })

/-- Asks for a new connection. -/
def connect (d : Driver σ) (database : String) (timeout : Amount) : PoolAction σ Nat := do
  let connection ← nextConnection
  d.tell (.connect connection database timeout)
  return connection

/-- Makes the directory of a database file, with those above it. -/
def makeParents (d : Driver σ) (database : String) : PoolAction σ Unit := fun w =>
  match d.makeDirectories (Path.ofString database).parent w.outside.driver with
  | (reply, s) => (reply, { w with outside := { w.outside with driver := s } })

/-- Whether a connection is inside a transaction. -/
def isInTransaction (d : Driver σ) (connection : Nat) : PoolAction σ Bool := fun w =>
  (.ok (d.inTransaction w.outside.driver connection), w)

/-! ## Opening connections -/

/-- Sets up a new connection: readers of a file see the last committed state while a script runs,
and foreign keys are enforced. -/
def setUp (d : Driver σ) (inMemory : Bool) (connection : Nat) : PoolAction σ Unit := do
  if !inMemory then
    d.run connection "PRAGMA journal_mode=WAL"
  d.run connection "PRAGMA foreign_keys=ON"

/-- **Opens a connection.** One that cannot be set up is closed. -/
def openConnection (d : Driver σ) (p : Pool) : PoolAction σ Nat := do
  if !p.inMemory then
    d.makeParents p.database
  World.say .debug s!"Opening SQLite connection to {p.database}"
  let connection ← d.connect p.database p.busyTimeout
  Action.onFault (d.setUp p.inMemory connection) fun _ => d.tell (.close connection)
  return connection

end Driver

namespace Pool

/-! ## Leases -/

/-- The fault of giving back a slot that was not taken. -/
def overReleased : Fault := .of .value "Semaphore released too many times"

/-- Gives a slot back. There are never more slots than the pool began with. -/
def freeSlot : PoolAction σ Unit := do
  let p ← pool
  if p.free.isSome ∧ p.free = p.size.units? then throw overReleased
  else updatePool fun p => { p with free := p.free.map (· + 1) }

/-- The fault of a pool that has no slot: nobody gives one back in the time to wait, if it is a time
that one can wait at all. -/
def exhausted (p : Pool) : Fault :=
  match p.acquireTimeout.unwaitable? with
  | some e => e
  | none =>
    .failure (Failure.poolExhausted p.database p.acquireTimeout.text p.size.text)

/-- Takes a slot: fails if the pool is closed or has none. -/
def takeSlot : PoolAction σ Unit := do
  let p ← pool
  if p.closed then throw (.failure (Failure.poolClosed p.database))
  else if p.free = some 0 then throw p.exhausted
  else updatePool fun p => { p with free := p.free.map (· - 1) }

/-- Closes a connection, if there is one. -/
def closeIfAny (d : Driver σ) : Option Nat → PoolAction σ Unit
  | some connection => d.tell (.close connection)
  | none => return ()

/-- Closes a connection that was not leased, if there is one, and gives its slot back. -/
def discard (d : Driver σ) (connection : Option Nat) : PoolAction σ Unit :=
  Action.ensure (closeIfAny d connection) freeSlot

/-- **How a failed acquisition is reported**: what the database and the operating system raise is a
failure of the pool; other faults go on as they are. -/
def reportOpening (database : String) (e : Fault) : Fault :=
  if e.isDatabaseError || e.isSystemError then .failure (Failure.transactionNotOpened database e)
  else e

/-- Does what can fail before a connection is leased; a fault of it discards the connection. -/
def guarded {α : Type} (d : Driver σ) (database : String) (connection : Option Nat)
    (a : PoolAction σ α) : PoolAction σ α := do
  match ← Action.attempt a with
  | .ok x => return x
  | .error e =>
    discard d connection
    throw (reportOpening database e)

/-- The first of some idle connections, or else a new one. -/
def takeFrom (d : Driver σ) (p : Pool) : List Nat → PoolAction σ Nat
  | connection :: idle => do
    updatePool fun p => { p with idle }
    return connection
  | [] => guarded d p.database none (d.openConnection p)

/-- An idle connection, or else a new one. -/
def takeConnection (d : Driver σ) : PoolAction σ Nat := do
  let p ← pool
  takeFrom d p p.idle

/-- Notes the lease of a connection. -/
def lease (connection : Nat) : PoolAction σ Lease := do
  let p ← pool
  let l : Lease := ⟨p.leased, connection⟩
  updatePool fun p => { p with leases := l :: p.leases, leased := p.leased + 1 }
  return l

/-- The text that begins a transaction. -/
def beginText : String := "BEGIN IMMEDIATE"

/-- **Acquires a connection** with an open transaction. Whatever fails gives the slot back. -/
def acquire (d : Driver σ) : PoolAction σ Lease := do
  takeSlot
  let connection ← takeConnection d
  let p ← pool
  guarded d p.database (some connection) (d.run connection beginText)
  lease connection

/-! ## Returns -/

/-- Rolls back what a connection left open. -/
def reset (d : Driver σ) (connection : Nat) : PoolAction σ Unit := do
  let open? ← d.isInTransaction connection
  if open? then
    d.tell (.rollback connection)

/-- Puts a connection where it belongs: among the idle ones, or away if the pool is closed. -/
def store (d : Driver σ) (connection : Nat) : PoolAction σ Unit := do
  let p ← pool
  if p.closed then d.tell (.close connection)
  else updatePool fun p => { p with idle := connection :: p.idle }

/-- What is done with a connection after its reset. One that the database cannot reset is closed. -/
def settle (d : Driver σ) (connection : Nat) : Except Fault Unit → PoolAction σ Unit
  | .ok () => store d connection
  | .error e => do
    if e.isDatabaseError then
      World.say .warning s!"Discarding SQLite connection that could not be reset: {e.message}"
      d.tell (.close connection)
    else throw e

/-- Takes a connection back. -/
def takeBack (d : Driver σ) (connection : Nat) : PoolAction σ Unit := do
  settle d connection (← Action.attempt (reset d connection))

/-- The fault of releasing a lease that is not out. -/
def alreadyReleased : Fault := .of .value "Connection was already released to the pool"

/-- **Releases a lease.** Its slot becomes free whatever happens to its connection; a lease cannot
be released twice. -/
def release (d : Driver σ) (l : Lease) : PoolAction σ Unit := do
  let p ← pool
  if l ∈ p.leases then
    updatePool fun p => { p with leases := p.leases.erase l }
    Action.ensure (takeBack d l.connection) freeSlot
  else throw alreadyReleased

/-- **An action that ends a lease**: the lease is released after the action, whatever its
outcome. -/
def during {α : Type} (d : Driver σ) (l : Lease) (a : PoolAction σ α) : PoolAction σ α :=
  Action.ensure a (release d l)

/-- **A lease for the duration of an action.** -/
def withLease {α : Type} (d : Driver σ) (body : Lease → PoolAction σ α) : PoolAction σ α := do
  let l ← acquire d
  during d l (body l)

/-- Closes idle connections one after the other, up to the first fault. -/
def closeIdle (d : Driver σ) : List Nat → PoolAction σ Unit
  | [] => return ()
  | connection :: idle => do
    updatePool fun p => { p with idle }
    d.tell (.close connection)
    closeIdle d idle

/-- **Closes the pool**: idle connections now, leased ones when they are released. -/
def close (d : Driver σ) : PoolAction σ Unit := do
  updatePool fun p => { p with closed := true }
  let p ← pool
  closeIdle d p.idle

end Pool

end SqlScript.Sqlite
