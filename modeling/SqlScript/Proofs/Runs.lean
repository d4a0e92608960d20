import SqlScript.Runner
import SqlScript.Proofs.Yield

/-!
# Runs around their transactions

Besides its transaction a run deals out parameters, reads the clock and writes to the log. None of
that is asked of a database, so a run makes the requests of its transaction and no others.

* `Action.Yields.sayElapsed`: what is left to do after a commit.
* `Runner.executeUnits_of_length_ne`, `Runner.executeUnits_nil`: runs without a transaction.
* `Runner.yields_executeUnits_of`: **a run comes to what its transaction comes to**, up to the
  clock.
* `Runner.yields_allocateBatches`: dealing out parameters.
-/

namespace SqlScript

namespace Action

/-- Reading the clock again, and the log of a commit. -/
theorem Yields.sayElapsed {κ τ α : Type} (start : Float) (message : Int → String) (x : α)
    (w : World κ τ) :
    Yields (do
        let finish ← World.readClock
        let elapsed ← Action.ofExcept (elapsedMilliseconds start finish)
        World.say .info (message elapsed)
        return x) w [] w.outside ((elapsedMilliseconds start w.now).map fun _ => x) := by
  refine (Yields.readClock w).bind fun w₁ hw₁ => ?_
  cases hr : elapsedMilliseconds start w.now with
  | error e => exact hw₁ ▸ (Yields.ofExcept (.error e) w₁).bind_error
  | ok elapsed =>
    refine (hw₁ ▸ Yields.ofExcept (.ok elapsed) w₁).bind_quiet ?_
    exact Yields.say_bind fun w₂ hw₂ => hw₂ ▸ Yields.pure x w₂

end Action

namespace Runner

open SqlScript.Action

variable {κ τ Conn Stmt : Type} (r : Runner κ τ Conn Stmt) {units : List StatementUnit}
  {batches : List Batch}

/-- A run does nothing without a batch for each statement. -/
theorem executeUnits_of_length_ne (h : batches.length ≠ units.length) (w : World κ τ) :
    Yields (r.executeUnits units batches) w [] w.outside (.error
      (.of .value s!"Expected {units.length} parameter batch(es), got {batches.length}")) := by
  unfold Runner.executeUnits
  rw [if_pos h]
  exact Yields.throw _ w

/-- A run of no statements does nothing. -/
theorem executeUnits_nil (w : World κ τ) :
    Yields (r.executeUnits [] []) w [] w.outside (.ok []) :=
  Yields.say_bind fun w' hw' => hw' ▸ Yields.pure [] w'

/-- **A run comes to what its transaction comes to**; after a commit only the clock can still
fail. -/
theorem yields_executeUnits_of (hlength : batches.length = units.length) (hunits : units ≠ [])
    {w : World κ τ} {made : List κ} {state : τ} {result : Except Fault (List Outcome)}
    (h : Yields (r.backend.transaction fun c => r.backend.runUnits c (units.zip batches)) w.tick
      made state result) :
    let after := r.backend.transaction (fun c => r.backend.runUnits c (units.zip batches)) w.tick
    Yields (r.executeUnits units batches) w made state (result.bind fun outcomes =>
      (elapsedMilliseconds w.now after.2.now).map fun _ => outcomes) := by
  have hn : units.length ≠ 0 := by
    rw [Ne, List.length_eq_zero_iff]
    exact hunits
  unfold Runner.executeUnits
  rw [if_neg (not_not_intro hlength), if_neg hn]
  cases result with
  | error e => exact (Yields.readClock w).bind_at h.bind_error
  | ok outcomes =>
    exact (Yields.readClock w).bind_at (h.bind_quiet (Yields.sayElapsed w.now _ outcomes _))

/-- Dealing out parameters asks nothing of the database. -/
theorem yields_allocateBatches (units : List StatementUnit) (parameters : List Value)
    (w : World κ τ) :
    Yields (r.allocateBatches units parameters) w [] w.outside
      (((allocate units parameters r.strictParameters).map (·.1)).mapError .failure) := by
  unfold Runner.allocateBatches
  cases allocate units parameters r.strictParameters with
  | error g => exact Yields.throw _ w
  | ok dealt =>
    obtain ⟨batches, warning⟩ := dealt
    cases warning with
    | none => exact Yields.pure batches w
    | some warning => exact Yields.say_bind fun w' hw' => hw' ▸ Yields.pure batches w'

end Runner

end SqlScript
