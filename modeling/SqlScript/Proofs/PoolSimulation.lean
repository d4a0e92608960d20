import SqlScript.Proofs.Simulation
import SqlScript.Sqlite.Prepared

/-!
# Simulations of pools

If the requests to two drivers simulate each other, and reading and changing the state of the pools
does, then the operations of the pools simulate each other. Each operation makes only some kinds of
requests, and needs no more than those.

* `Sqlite.Driver.Simulates`: drivers whose requests simulate each other, as far as they are allowed.
* `Sqlite.Driver.Simulates.acquire`, `Sqlite.Driver.Simulates.release`: the operations of pools over
  them.
* `Sqlite.Driver.Simulates.backend`: the backends of the pools.
-/

namespace SqlScript.Sqlite

open SqlScript.Action

variable {σ σ' α : Type} {S : World Call (Session σ) → World Call (Session σ') → Prop}
  {allowed : Call → Prop} {d : Driver σ} {d' : Driver σ'}

/-- **Drivers that simulate each other** on the allowed requests, each with its pool. -/
structure Driver.Simulates (S : World Call (Session σ) → World Call (Session σ') → Prop)
    (allowed : Call → Prop) (d : Driver σ) (d' : Driver σ') : Prop where
  ask : ∀ call, allowed call → Action.Simulates S (d.ask call) (d'.ask call)
  say : ∀ level message, Action.Simulates S (World.say level message) (World.say level message)
  pool : Action.Simulates S pool pool
  updatePool : ∀ f, Action.Simulates S (updatePool f) (updatePool f)
  nextConnection : Action.Simulates S Driver.nextConnection Driver.nextConnection
  makeParents : ∀ database,
    Action.Simulates S (d.makeParents database) (d'.makeParents database)
  isInTransaction : ∀ connection,
    Action.Simulates S (d.isInTransaction connection) (d'.isInTransaction connection)

namespace Driver.Simulates

variable (h : Driver.Simulates S allowed d d')

include h

theorem tell {call : Call} (hcall : allowed call) :
    Action.Simulates S (d.tell call) (d'.tell call) :=
  (h.ask call hcall).bind fun _ => .pure ()

theorem freeSlot : Action.Simulates S Pool.freeSlot Pool.freeSlot := by
  refine h.pool.bind fun p => ?_
  split
  · exact .throw _
  · exact h.updatePool _

theorem takeSlot : Action.Simulates S Pool.takeSlot Pool.takeSlot := by
  refine h.pool.bind fun p => ?_
  split
  · exact .throw _
  · split
    · exact .throw _
    · exact h.updatePool _

theorem setUp (hexecute : ∀ connection sql parameters, allowed (.execute connection sql parameters))
    (inMemory : Bool) (connection : Nat) :
    Action.Simulates S (d.setUp inMemory connection) (d'.setUp inMemory connection) := by
  unfold Driver.setUp
  cases inMemory with
  | true => exact h.tell (hexecute ..)
  | false => exact (h.tell (hexecute ..)).bind fun _ => h.tell (hexecute ..)

section Closing

variable (hclose : ∀ connection, allowed (.close connection))

include hclose

theorem guarded (database : String) (connection : Option Nat) {a : PoolAction σ α}
    {a' : PoolAction σ' α} (ha : Action.Simulates S a a') :
    Action.Simulates S (Pool.guarded d database connection a)
      (Pool.guarded d' database connection a') := by
  have hcloseIfAny :
      Action.Simulates S (Pool.closeIfAny d connection) (Pool.closeIfAny d' connection) := by
    cases connection with
    | some connection => exact h.tell (hclose connection)
    | none => exact .pure ()
  refine ha.attempt.bind fun r => ?_
  cases r with
  | ok x => exact .pure x
  | error e => exact (hcloseIfAny.ensure h.freeSlot).bind fun _ => .throw _

/-! ## Acquiring -/

section Acquiring

variable (hexecute : ∀ connection sql parameters, allowed (.execute connection sql parameters))
  (hconnect : ∀ connection database timeout, allowed (.connect connection database timeout))

include hexecute hconnect

theorem openConnection (p : Pool) :
    Action.Simulates S (d.openConnection p) (d'.openConnection p) := by
  have hopened : Action.Simulates S (d.connect p.database p.busyTimeout)
      (d'.connect p.database p.busyTimeout) :=
    h.nextConnection.bind fun _ => (h.tell (hconnect ..)).bind fun _ => .pure _
  have hopen (inMemory : Bool) : Action.Simulates S (do
        World.say .debug s!"Opening SQLite connection to {p.database}"
        let connection ← d.connect p.database p.busyTimeout
        Action.onFault (d.setUp inMemory connection) fun _ => d.tell (.close connection)
        return connection) (do
        World.say .debug s!"Opening SQLite connection to {p.database}"
        let connection ← d'.connect p.database p.busyTimeout
        Action.onFault (d'.setUp inMemory connection) fun _ => d'.tell (.close connection)
        return connection) :=
    (h.say _ _).bind fun _ => hopened.bind fun c =>
      ((h.setUp hexecute inMemory c).onFault fun _ => h.tell (hclose c)).bind fun _ => .pure c
  unfold Driver.openConnection
  cases p.inMemory with
  | true => exact hopen true
  | false => exact (h.makeParents _).bind fun _ => hopen false

theorem takeConnection :
    Action.Simulates S (Pool.takeConnection d) (Pool.takeConnection d') := by
  refine h.pool.bind fun p => ?_
  cases p.idle with
  | nil => exact h.guarded hclose _ _ (h.openConnection hclose hexecute hconnect p)
  | cons c idle => exact (h.updatePool _).bind fun _ => .pure c

/-- **Acquisitions simulate each other.** -/
theorem acquire : Action.Simulates S (Pool.acquire d) (Pool.acquire d') := by
  have hlease (c : Nat) : Action.Simulates S (Pool.lease c) (Pool.lease c) :=
    h.pool.bind fun _ => (h.updatePool _).bind fun _ => .pure _
  exact h.takeSlot.bind fun _ => (h.takeConnection hclose hexecute hconnect).bind fun c =>
    h.pool.bind fun _ => (h.guarded hclose _ _ (h.tell (hexecute ..))).bind fun _ => hlease c

end Acquiring

/-! ## Giving back -/

/-- **Releases simulate each other.** -/
theorem release (hrollback : ∀ connection, allowed (.rollback connection)) (l : Lease) :
    Action.Simulates S (Pool.release d l) (Pool.release d' l) := by
  have hreset : Action.Simulates S (Pool.reset d l.connection) (Pool.reset d' l.connection) := by
    refine (h.isInTransaction _).bind fun inside => ?_
    cases inside with
    | true => exact h.tell (hrollback _)
    | false => exact .pure ()
  have hback : Action.Simulates S (Pool.takeBack d l.connection)
      (Pool.takeBack d' l.connection) := by
    refine hreset.attempt.bind fun r => ?_
    cases r with
    | ok _ =>
      refine h.pool.bind fun p => ?_
      split
      · exact h.tell (hclose _)
      · exact h.updatePool _
    | error e =>
      unfold Pool.settle
      simp only
      split
      · exact (h.say _ _).bind fun _ => h.tell (hclose _)
      · exact .throw e
  refine h.pool.bind fun p => ?_
  split
  · exact (h.updatePool _).bind fun _ => hback.ensure h.freeSlot
  · exact .throw _

/-- **Closings of pools simulate each other.** -/
theorem close : Action.Simulates S (Pool.close d) (Pool.close d') := by
  have hidle (idle : List Nat) :
      Action.Simulates S (Pool.closeIdle d idle) (Pool.closeIdle d' idle) := by
    induction idle with
    | nil => exact .pure ()
    | cons c idle ih =>
      exact (h.updatePool _).bind fun _ => (h.tell (hclose c)).bind fun _ => ih
  exact (h.updatePool _).bind fun _ => h.pool.bind fun p => hidle p.idle

end Closing

end Driver.Simulates

/-- **The backends of pools simulate each other** if all requests do, and the closing of cursors. -/
theorem Driver.Simulates.backend (h : Driver.Simulates S (fun _ => True) d d')
    (hcursor : ∀ cursor, Action.Simulates S (World.closeCursor Call.closeCursor cursor)
      (World.closeCursor Call.closeCursor cursor)) :
    (backend d).Simulates S (backend d') where
  acquire := h.acquire (fun _ => trivial) (fun _ _ _ => trivial) fun _ _ _ => trivial
  release := h.release (fun _ => trivial) fun _ => trivial
  prepare l sql := by
    have hcompile : Action.Simulates S
        (Prepared.compile d l.connection sql (countPlaceholders sql))
        (Prepared.compile d' l.connection sql (countPlaceholders sql)) := by
      unfold Prepared.compile
      split
      · exact .pure ()
      · exact (h.ask _ trivial).bind hcursor
    exact hcompile.bind fun _ => .pure _
  bind s position value := .ofExcept (s.bind position value)
  execute _ := h.ask _ trivial
  closeCursor := hcursor
  commit _ := h.tell trivial
  rollback _ := h.tell trivial
  say := h.say

end SqlScript.Sqlite
