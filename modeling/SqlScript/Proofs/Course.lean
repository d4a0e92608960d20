import SqlScript.Request
import SqlScript.Runner
import SqlScript.Proofs.Yield

/-!
# The course of a run

What a run asks of a database, told from the side of the database alone: the requests that are made
if all goes well, how far they come, and how the run ends.

* `requestsOf`: the requests for statements with their batches, in order.
* `Cursor.flaw?`: what goes wrong with a cursor that is read and closed.
* `Responder.pursue`: requests made in order, up to the first that fails.
* `Responder.ending`: the requests that end a transaction, and what it raises.
* `pursue_append`: requests in two parts are one part after the other.
-/

namespace SqlScript

/-! ## The requests of statements -/

/-- **The requests for one statement**: it is prepared, its batch is bound to the positions from one
on, it is executed, and its cursor is closed. -/
def StatementUnit.requests (unit : StatementUnit) (batch : Batch) : List Request :=
  .prepare unit.sql :: batch.mapIdx (fun i value => .bind unit.sql (1 + i) value)
    ++ [.execute unit.sql batch, .closeCursor]

/-- **The requests for statements in order**, each with the statement that it is made for. -/
def requestsOf (items : List (StatementUnit × Batch)) : List (StatementUnit × Request) :=
  items.flatMap fun (unit, batch) => (unit.requests batch).map (unit, ·)

/-! ## Where a run stops -/

/-- The phases of a statement in which something can go wrong. -/
inductive Phase where
  | preparing
  /-- Binding and executing. -/
  | executing
  /-- Reading the rows, with normalizing their values. -/
  | reading
  | closing
  deriving DecidableEq, Repr

/-- **Where a run stopped**: at which statement, in which phase, and with what fault. -/
structure Stop where
  unit : StatementUnit
  phase : Phase
  fault : Fault

/-- What the runner raises for a stop. A fault of closing a cursor is raised as it is. -/
def Stop.reported (s : Stop) : Fault :=
  match s.phase with
  | .preparing => s.fault.reportedAs (Failure.prepareFailed s.unit.index)
  | .executing => s.fault.reportedAs (Failure.executionFailed s.unit.index)
  | .reading => s.fault.reportedAs (Failure.materializationFailed (some s.unit.index))
  | .closing => s.fault

/-- **What goes wrong with a cursor** that is read, if it has a row set, and then closed in any
case. A fault of closing takes the place of one of reading. -/
def Cursor.flaw? (cursor : Cursor) : Option (Phase × Fault) :=
  match cursor.closeFault with
  | some e => some (.closing, e)
  | none =>
    if cursor.columns.isNone then none
    else match Snapshot.read cursor with
      | .ok _ => none
      | .error e => some (.reading, e)

/-- What a cursor without a flaw gives. -/
def Cursor.outcome (cursor : Cursor) : Outcome :=
  if cursor.columns.isNone then none else (Snapshot.read cursor).toOption

namespace Responder

variable {σ : Type}

/-! ## Pursuing requests -/

/-- A database in the middle of a run: its state, and the cursor that it gave last. -/
structure Standing (σ : Type) where
  state : σ
  cursor : Cursor := {}

/-- **What a course of requests came to**: those that were made, where it stopped if it did, and
where it left the database. -/
structure Course (σ : Type) where
  made : List Request
  stop : Option Stop := none
  standing : Standing σ

/-- What goes wrong with a request for a statement, if anything, and where it leaves the database.
Closing a cursor stands for reading it too. -/
def meet (d : Responder σ) (s : Standing σ) : Request → Option (Phase × Fault) × Standing σ
  | .closeCursor => (s.cursor.flaw?, s)
  | .prepare sql => match d (.prepare sql) s.state with
    | (.ok cursor, state) => (none, ⟨state, cursor⟩)
    | (.error e, state) => (some (.preparing, e), ⟨state, s.cursor⟩)
  | request => match d request s.state with
    | (.ok cursor, state) => (none, ⟨state, cursor⟩)
    | (.error e, state) => (some (.executing, e), ⟨state, s.cursor⟩)

/-- **Makes requests in order, up to the first that fails.** -/
def pursue (d : Responder σ) (s : Standing σ) : List (StatementUnit × Request) → Course σ
  | [] => { made := [], standing := s }
  | (unit, request) :: plan => match d.meet s request with
    | (some (phase, e), s) => { made := [request], stop := some ⟨unit, phase, e⟩, standing := s }
    | (none, s) =>
      let rest := d.pursue s plan
      { rest with made := request :: rest.made }

/-- One course after another, unless the first one stopped. -/
def Course.andThen (c : Course σ) (next : Standing σ → Course σ) : Course σ :=
  match c.stop with
  | some _ => c
  | none => { next c.standing with made := c.made ++ (next c.standing).made }

theorem pursue_append (d : Responder σ) (s : Standing σ) (p q : List (StatementUnit × Request)) :
    d.pursue s (p ++ q) = (d.pursue s p).andThen fun s => d.pursue s q := by
  induction p generalizing s with
  | nil => rfl
  | cons x p ih =>
    obtain ⟨unit, request⟩ := x
    rw [List.cons_append, pursue, pursue]
    cases hm : d.meet s request with
    | mk flaw s' =>
      cases flaw with
      | some f => rfl
      | none =>
        -- whether the rest of the first part stopped decides both sides alike
        simp only [ih]
        generalize d.pursue s' p = c
        obtain ⟨made, stop, standing⟩ := c
        cases stop <;> rfl

/-- What is made is a start of what was to be made. -/
theorem isPrefix_made_pursue (d : Responder σ) (s : Standing σ)
    (plan : List (StatementUnit × Request)) : (d.pursue s plan).made <+: plan.map (·.2) := by
  induction plan generalizing s with
  | nil => exact List.prefix_rfl
  | cons x plan ih =>
    obtain ⟨unit, request⟩ := x
    rw [pursue]
    split
    · exact List.prefix_append [request] _
    · exact (List.prefix_cons_inj request).2 (ih _)

/-- If nothing fails, everything is made. -/
theorem made_pursue_of_stop_none (d : Responder σ) (s : Standing σ)
    (plan : List (StatementUnit × Request)) (h : (d.pursue s plan).stop = none) :
    (d.pursue s plan).made = plan.map (·.2) := by
  induction plan generalizing s with
  | nil => rfl
  | cons x plan ih =>
    obtain ⟨unit, request⟩ := x
    rw [pursue] at h ⊢
    split at h
    · simp at h
    · simp only at h
      simp only [List.map_cons, ih _ h]

/-! ## Ending a transaction -/

/-- **How a transaction ends**: the requests that end it, what it raises, and the state that it
leaves. -/
structure Ending (σ : Type) where
  requests : List Request
  raised : Option Fault := none
  state : σ

/-- Rolls back for `trigger`, and raises `raised` if that succeeds. -/
def undo (d : Responder σ) (state : σ) (trigger raised : Fault) : Ending σ :=
  match d .rollback state with
  | (.ok _, state) => { requests := [.rollback], raised := some raised, state }
  | (.error e, state) =>
    { requests := [.rollback]
      raised := some (e.reportedAs (Failure.rollbackFailed trigger))
      state }

/-- Rolling back is asked once, whether it succeeds or not. -/
theorem undo_requests (d : Responder σ) (state : σ) (trigger raised : Fault) :
    (d.undo state trigger raised).requests = [.rollback] := by
  unfold undo
  split <;> rfl

/-- **The end of a transaction** whose statements took a course. An interrupt of committing is not
answered with a rollback. -/
def ending (d : Responder σ) (c : Course σ) : Ending σ :=
  match c.stop with
  | some stop => d.undo c.standing.state stop.reported stop.reported
  | none => match d .commit c.standing.state with
    | (.ok _, state) => { requests := [.commit], state }
    | (.error e, state) =>
      if e.isOrdinary then
        let undone := d.undo state (.failure { Failure.commitFailed e with cause := none })
          (.failure (Failure.commitFailed e))
        { undone with requests := .commit :: undone.requests }
      else { requests := [.commit], raised := some e, state }

end Responder

end SqlScript
