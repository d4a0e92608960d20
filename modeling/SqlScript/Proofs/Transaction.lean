import SqlScript.Proofs.Runs
import SqlScript.Proofs.UnitRun

/-!
# Transactions

Around the statements of a run the runner acquires a connection, commits or rolls back, and
releases the connection. Which requests these are, in which order, and what the run raises depends
on the answers alone.

* `Responder.yields_ending`: the end of a transaction.
* `Responder.yields_transaction`: a transaction as a whole.
* `Responder.Session`, `Responder.session`: what a run comes to, by the answers alone.
* `Responder.yields_executeUnits`: **a run is its session.**
-/

namespace SqlScript

namespace Responder

open SqlScript.Action

variable {σ : Type} {d : Responder σ}

/-! ## Ending a transaction -/

theorem yields_rollbackAfter (e : Fault) (w : World Request σ) :
    Yields (d.backend.rollbackAfter () e) w [.rollback] (d .rollback w.outside).2
      (((d .rollback w.outside).1.map fun _ => ()).mapError
        (Fault.reportedAs (Failure.rollbackFailed e))) :=
  Yields.say_bind fun w' hw' =>
    hw' ▸ (yields_tell (d := d) .rollback w').reporting (Failure.rollbackFailed e)

/-- What a transaction gives that ends so, if its statements gave `x`. -/
def Ending.result {α : Type} (e : Ending σ) (x : α) : Except Fault α :=
  match e.raised with
  | some e => .error e
  | none => .ok x

/-- Rolling back and then raising is what `undo` says. -/
theorem yields_undo {α : Type} {state : σ} (trigger raised : Fault) (x : α) {w : World Request σ}
    (hw : w.outside = state) :
    Yields (d.backend.rollbackAfter () trigger >>= fun _ => throw raised) w
      (d.undo state trigger raised).requests (d.undo state trigger raised).state
      ((d.undo state trigger raised).result x) := by
  subst hw
  have hr := yields_rollbackAfter (d := d) trigger w
  unfold undo
  cases hd : d .rollback w.outside with
  | mk reply state =>
    rw [hd] at hr
    cases reply with
    | error e => exact hr.bind_error
    | ok cursor => exact hr.bind_quiet (Yields.throw raised _)

/-- Committing, after statements without a fault, is how a transaction ends. -/
theorem yields_commitOrRollback {α : Type} {made : List Request} {s : Standing σ}
    {w : World Request σ} (hw : w.outside = s.state) (x : α) :
    let e := d.ending { made, standing := s }
    Yields (d.backend.commitOrRollback () >>= fun _ => pure x) w e.requests e.state
      (e.result x) := by
  have hc := (yields_tell (d := d) .commit w).attempt
  rw [hw] at hc
  unfold Backend.commitOrRollback ending
  rw [bind_assoc]
  cases hd : d .commit s.state with
  | mk reply state =>
    rw [hd] at hc
    cases reply with
    | ok cursor => exact hc.bind_quiet (Yields.pure x _)
    | error e =>
      -- only an ordinary fault of committing is answered with a rollback
      simp only
      split
      · rename_i he
        refine hc.bind fun w' hw' => ?_
        have hu := yields_undo (d := d) (.failure { Failure.commitFailed e with cause := none })
          (.failure (Failure.commitFailed e)) x hw'
        simp only [Except.map, he, if_true, bind_assoc]
        exact hu
      · rename_i he
        refine hc.bind_quiet ?_
        simp only [Except.map, he, if_false, Bool.false_eq_true]
        exact Yields.throw e _

/-- Statements that took a course, and how their transaction ends. -/
theorem yields_ending {α : Type} {a : Action (World Request σ) α} {c : Course σ} {x : α}
    {w : World Request σ} (ha : Yields a w c.made c.standing.state (c.report x)) :
    Yields (do
        let result ← Action.onFault a (d.backend.rollbackAfter ())
        d.backend.commitOrRollback ()
        return result) w
      (c.made ++ (d.ending c).requests) (d.ending c).state ((d.ending c).result x) := by
  obtain ⟨made, stop, standing⟩ := c
  cases stop with
  | none => exact ha.onFault_ok.bind fun w' hw' => yields_commitOrRollback hw' x
  | some stop =>
    -- a fault of the rollback takes the place of the one that stopped the statements
    have hr := Yields.onFault_error (d.backend.rollbackAfter ()) ha fun w' hw' =>
      hw' ▸ yields_rollbackAfter (d := d) stop.reported w'
    unfold ending undo
    simp only
    cases hd : d .rollback standing.state with
    | mk reply state =>
      rw [hd] at hr
      cases reply <;> exact hr.bind_error

/-! ## The transaction -/

section Whole

variable {α : Type} {body : Unit → Action (World Request σ) α} {w : World Request σ}

/-- Without a connection nothing else is asked. -/
theorem yields_transaction_of_error {e : Fault} {s : σ}
    (hacquire : d .acquire w.outside = (.error e, s)) :
    Yields (d.backend.transaction body) w [.acquire] s (.error (Backend.reportAcquire e)) := by
  have ha := (yields_tell (d := d) .acquire w).attempt
  rw [hacquire] at ha
  exact (ha.bind_quiet (Yields.throw (Backend.reportAcquire e) _)).bind_error

/-- **A transaction on a connection**: its statements, its end, and the release. What the release
raises counts. -/
theorem yields_transaction {cursor : Cursor} {s : σ} {c : Course σ} {x : α}
    (hacquire : d .acquire w.outside = (.ok cursor, s))
    (hbody : ∀ w', w'.outside = s → Yields (body ()) w' c.made c.standing.state (c.report x)) :
    Yields (d.backend.transaction body) w
      (.acquire :: (c.made ++ (d.ending c).requests ++ [.release]))
      (d .release (d.ending c).state).2
      (((d .release (d.ending c).state).1.map fun _ => ()).bind fun _ =>
        (d.ending c).result x) := by
  have ha := (yields_tell (d := d) .acquire w).attempt
  rw [hacquire] at ha
  have hconn : Yields d.backend.acquireConnection w [.acquire] s (.ok ()) :=
    ha.bind_quiet (Yields.pure () _)
  refine hconn.bind fun w₁ hw₁ => ?_
  exact (yields_ending (hbody w₁ hw₁)).ensure fun w₂ hw₂ =>
    hw₂ ▸ yields_tell (d := d) .release w₂

end Whole

/-! ## A run -/

/-- The runner over a database that answers requests. -/
def runner (d : Responder σ) (loader : Loader) (strict : Bool) : Runner Request σ Unit Prepared :=
  ⟨d.backend, loader, strict⟩

/-- **What a run comes to**: its requests, the state that it leaves, and its result. -/
structure Session (σ : Type) where
  requests : List Request
  state : σ
  result : Except Fault (List Outcome)

/-- **The run of statements with their batches**, by the answers of the database alone. -/
def session (d : Responder σ) (s : σ) (items : List (StatementUnit × Batch)) : Session σ :=
  match d .acquire s with
  | (.error e, s) => ⟨[.acquire], s, .error (Backend.reportAcquire e)⟩
  | (.ok _, s) =>
    let c := d.pursue ⟨s, {}⟩ (requestsOf items)
    let e := d.ending c
    let (reply, final) := d .release e.state
    ⟨.acquire :: (c.made ++ e.requests ++ [.release]), final,
      (reply.map fun _ => ()).bind fun _ => e.result (d.outcomes ⟨s, {}⟩ items)⟩

theorem yields_session (items : List (StatementUnit × Batch)) (w : World Request σ) :
    let n := d.session w.outside items
    Yields (d.backend.transaction fun c => d.backend.runUnits c items) w n.requests n.state
      n.result := by
  unfold session
  cases hd : d .acquire w.outside with
  | mk reply s =>
    cases reply with
    | error e => exact yields_transaction_of_error hd
    | ok cursor =>
      exact yields_transaction hd fun w' hw' => hw' ▸ yields_runUnits (d := d) items {} w'

/-- **A run is its session**; after a commit only the clock can still fail. -/
theorem yields_executeUnits (loader : Loader) (strict : Bool) {units : List StatementUnit}
    {batches : List Batch} (hlength : batches.length = units.length) (hunits : units ≠ [])
    (w : World Request σ) :
    let n := d.session w.outside (units.zip batches)
    ∃ start finish, Yields ((d.runner loader strict).executeUnits units batches) w n.requests
      n.state
      (n.result.bind fun outcomes => (elapsedMilliseconds start finish).map fun _ => outcomes) := by
  have hs : Yields _ w.tick _ _ _ := yields_session (d := d) (units.zip batches) w.tick
  exact ⟨_, _, (d.runner loader strict).yields_executeUnits_of hlength hunits hs⟩

end Responder

end SqlScript
