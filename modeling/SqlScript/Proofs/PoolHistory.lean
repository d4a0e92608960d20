import SqlScript.Sqlite.Pool

/-!
# Histories of a pool

Callers acquire and release leases in any order, return some twice, nest scoped leases, close the
pool and talk to the driver. A history records each step with what it raised, and with the leases
that were given out and returned before and after it.

* `Sqlite.Operation`: what callers do.
* `Sqlite.Books`: a world with the leases that were given out and returned.
* `Sqlite.Entry`: one step on record.
* `Sqlite.Operation.run`, `Sqlite.Operation.runAll`: the record of operations.
* `Sqlite.world_run_scoped`: a scoped operation is a lease for the duration of its body.
-/

namespace SqlScript.Sqlite

variable {σ : Type}

/-- **What callers do with a pool.** -/
inductive Operation where
  | acquire
  /-- Releases the lease with a number, whether it was released before or not. -/
  | release (number : Nat)
  /-- Does operations for the duration of a lease. -/
  | scoped (body : List Operation)
  | close
  /-- Asks something of the driver. -/
  | request (call : Call)

/-- **A world with its books**: the leases that were given out in it and those whose release was
asked for, the latest first. -/
structure Books (σ : Type) where
  world : World Call (Session σ)
  given : List Lease := []
  returned : List Lease := []

namespace Books

/-- The pool of a world. -/
def pool (b : Books σ) : Pool := b.world.outside.pool

/-- The leases that are out. -/
def out (b : Books σ) : List Lease := b.given.filter (· ∉ b.returned)

end Books

/-- One step of what callers do. -/
inductive Deed where
  | acquire
  | release (l : Lease)
  | close
  | request (call : Call)

/-- **One step on record**: what was done, what it raised, and the books before and after it. -/
structure Entry (σ : Type) where
  deed : Deed
  fault : Option Fault
  before : Books σ
  after : Books σ

/-- The fault of an outcome. -/
def faultOf {α : Type} : Except Fault α → Option Fault
  | .ok _ => none
  | .error e => some e

theorem eq_error_of_faultOf {α : Type} {r : Except Fault α} {f : Fault} (h : faultOf r = some f) :
    r = .error f := by
  cases r with
  | ok _ => cases h
  | error e => exact congrArg Except.error (Option.some.inj h)

namespace Books

/-- Does one step. A lease counts as returned once its release was asked for. -/
def enter (b : Books σ) (d : Driver σ) (deed : Deed) : Entry σ :=
  match deed with
  | .acquire => match Pool.acquire d b.world with
    | (.ok l, world) => ⟨deed, none, b, { b with world, given := l :: b.given }⟩
    | (.error e, world) => ⟨deed, some e, b, { b with world }⟩
  | .release l => match Pool.release d l b.world with
    | (r, world) => ⟨deed, faultOf r, b, { b with world, returned := l :: b.returned }⟩
  | .close => match Pool.close d b.world with
    | (r, world) => ⟨deed, faultOf r, b, { b with world }⟩
  | .request call => match d.tell call b.world with
    | (r, world) => ⟨deed, faultOf r, b, { b with world }⟩

end Books

mutual

/-- **Does an operation**: the steps on record, and the books after it. Faults of steps inside a
scoped lease are for its body to deal with; the lease is released in any case. -/
def Operation.run (d : Driver σ) (b : Books σ) : Operation → List (Entry σ) × Books σ
  | .acquire => ([b.enter d .acquire], (b.enter d .acquire).after)
  | .release number => match b.given.find? (·.number = number) with
    | some l => ([b.enter d (.release l)], (b.enter d (.release l)).after)
    | none => ([], b)
  | .scoped body => match (Pool.acquire d b.world).1 with
    | .error _ => ([b.enter d .acquire], (b.enter d .acquire).after)
    | .ok l =>
      let inner := Operation.runAll d (b.enter d .acquire).after body
      let last := inner.2.enter d (.release l)
      (b.enter d .acquire :: (inner.1 ++ [last]), last.after)
  | .close => ([b.enter d .close], (b.enter d .close).after)
  | .request call => ([b.enter d (.request call)], (b.enter d (.request call)).after)

/-- Does operations in order. -/
def Operation.runAll (d : Driver σ) (b : Books σ) : List Operation → List (Entry σ) × Books σ
  | [] => ([], b)
  | operation :: operations =>
    let first := Operation.run d b operation
    let rest := Operation.runAll d first.2 operations
    (first.1 ++ rest.1, rest.2)

end

/-- A scoped operation is a lease for the duration of its body, whatever the body's outcome is. -/
theorem world_run_scoped {α : Type} (d : Driver σ) (b : Books σ) (body : List Operation)
    (result : Except Fault α) :
    ((Operation.scoped body).run d b).2.world = (Pool.withLease d (fun l world =>
      (result, (Operation.runAll d { b with world, given := l :: b.given } body).2.world))
        b.world).2 := by
  rw [Operation.run]
  unfold Books.enter Pool.withLease
  cases ha : Pool.acquire d b.world with
  | mk r w =>
    cases r with
    | error e => rw [Action.bind_of_error ha]
    | ok l =>
      rw [Action.bind_of_ok ha]
      unfold Pool.during Action.ensure
      simp only
      split <;> simp_all

end SqlScript.Sqlite
