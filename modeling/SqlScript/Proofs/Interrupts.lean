import SqlScript.Proofs.Shape

/-!
# Interrupts

An interrupt is no ordinary fault: nothing reports it as a failure, so a run raises it as it came.
It can come with any request, and while the rows of a cursor are read. What the run still asks of
the database is told by the moment alone.

* `Moment`, `Moment.answer`: when a run is interrupted, and what it asks after that.
* `Responder.IsInterrupted`: a run on a connection whose first fault is an interrupt.
* `Responder.Grants`: requests of which none is refused.
* `Responder.raises_interrupt`: **an interrupted run raises its interrupt**; it is rolled back
  before its one release, unless the interrupt came in committing.
-/

namespace SqlScript

/-! ## Moments -/

/-- **When a run on a connection is interrupted**: in the course of its statements, or in
committing. -/
inductive Moment where
  | running
  | committing
  deriving DecidableEq, Repr

/-- **What is asked after an interrupt.** The course of the statements is rolled back. Committing is
not: only ordinary faults of it are answered with a rollback. -/
def Moment.answer : Moment → List Request
  | running => [.rollback, .release]
  | committing => [.release]

/-- Nothing is asked for a statement after an interrupt. -/
theorem Moment.not_isOfStatement_of_mem_answer {m : Moment} {q : Request} (hq : q ∈ m.answer) :
    ¬ q.IsOfStatement := by
  cases m with
  | running => rcases List.mem_cons.1 hq with rfl | hq <;> simp_all [Request.IsOfStatement]
  | committing => simp_all [Moment.answer, Request.IsOfStatement]

/-- What is raised for an interrupt in a statement is the interrupt, in every phase. -/
theorem Stop.reported_of_not_isOrdinary {stop : Stop} (h : stop.fault.isOrdinary = false) :
    stop.reported = stop.fault := by
  have hreport : ∀ report, stop.fault.reportedAs report = stop.fault := fun report =>
    if_neg (by rw [h]; exact Bool.false_ne_true)
  unfold reported
  cases stop.phase with
  | preparing | executing | reading => exact hreport _
  | closing => rfl

namespace Responder

variable {σ : Type}

/-! ## Interrupted runs -/

/-- **A run that is interrupted** on a connection, before anything else failed: the moment, what was
asked until then, the interrupt, and the state in which it leaves the database. -/
inductive IsInterrupted (d : Responder σ) (s : σ) (items : List (StatementUnit × Batch)) :
    Moment → List Request → Fault → σ → Prop
  /-- Preparing, binding or executing a statement, or reading or closing its cursor. -/
  | running {cursor : Cursor} {s' : σ} {stop : Stop} : d .acquire s = (.ok cursor, s') →
      (d.pursue ⟨s', {}⟩ (requestsOf items)).stop = some stop → stop.fault.isOrdinary = false →
      IsInterrupted d s items .running
        (.acquire :: (d.pursue ⟨s', {}⟩ (requestsOf items)).made) stop.fault
        (d.pursue ⟨s', {}⟩ (requestsOf items)).standing.state
  | committing {cursor : Cursor} {s' s'' : σ} {e : Fault} : items ≠ [] →
      d .acquire s = (.ok cursor, s') → (d.pursue ⟨s', {}⟩ (requestsOf items)).stop = none →
      d .commit (d.pursue ⟨s', {}⟩ (requestsOf items)).standing.state = (.error e, s'') →
      e.isOrdinary = false →
      IsInterrupted d s items .committing
        (.acquire :: ((requestsOf items).map (·.2) ++ [.commit])) e s''

/-- **Requests in order of which none is refused.** -/
def Grants (d : Responder σ) (s : σ) : List Request → Prop
  | [] => True
  | request :: rest => ¬ d.Refuses s request ∧ Grants d (d.after s request) rest

variable {d : Responder σ} {s state : σ} {items : List (StatementUnit × Batch)} {m : Moment}
  {asked rest : List Request} {e : Fault}

/-- A request that is not refused is answered with a cursor. -/
theorem exists_ok_of_not_refuses {request : Request} (hrequest : ¬ request.IsOfStatement)
    (h : ¬ d.Refuses s request) : ∃ cursor, d request s = (.ok cursor, d.after s request) := by
  cases request with
  | closeCursor => exact absurd trivial hrequest
  | acquire | prepare | bind | execute | commit | rollback | release | close =>
    all_goals
      simp only [Refuses, after] at h ⊢
      cases hr : d _ s with
      | mk reply s' =>
        cases reply with
        | error e => exact absurd ⟨e, by rw [hr]⟩ h
        | ok cursor => exact ⟨cursor, rfl⟩

/-- Before its interrupt a run asks neither for a rollback nor for the release. -/
theorem IsInterrupted.not_mem_asked (h : d.IsInterrupted s items m asked e state) :
    .rollback ∉ asked ∧ .release ∉ asked := by
  have hplan : ∀ q, ¬ q.IsOfStatement → q ∉ (requestsOf items).map (·.2) := by
    intro q hq hmem
    obtain ⟨x, hx, rfl⟩ := List.mem_map.1 hmem
    exact hq (isOfStatement_of_mem_requestsOf hx)
  cases h with
  | @running cursor s' stop ha hs he =>
    have hmade : ∀ q, ¬ q.IsOfStatement → q ∉ (d.pursue ⟨s', {}⟩ (requestsOf items)).made :=
      fun q hq hmem => hplan q hq ((isPrefix_made_pursue d _ _).subset hmem)
    exact ⟨by simpa using hmade .rollback id, by simpa using hmade .release id⟩
  | committing =>
    exact ⟨by simpa using hplan .rollback id, by simpa using hplan .release id⟩

/-- **An interrupted session** asks for what answers its interrupt, and raises it. -/
theorem session_of_isInterrupted (h : d.IsInterrupted s items m asked e state)
    (hanswer : d.Grants state m.answer) :
    (d.session s items).requests = asked ++ m.answer ∧
      (d.session s items).result = .error e := by
  cases h with
  | @running cursor s' stop ha hs he =>
    obtain ⟨hrollback, hrelease, -⟩ := hanswer
    obtain ⟨undone, hrollback⟩ := exists_ok_of_not_refuses id hrollback
    obtain ⟨released, hrelease⟩ := exists_ok_of_not_refuses id hrelease
    have hending : d.ending (d.pursue ⟨s', {}⟩ (requestsOf items)) =
        { requests := [.rollback], raised := some stop.fault
          state := d.after (d.pursue ⟨s', {}⟩ (requestsOf items)).standing.state .rollback } := by
      simp only [ending, hs, undo, hrollback, Stop.reported_of_not_isOrdinary he]
    simp only [session, ha, hending, hrelease]
    exact ⟨by simp [Moment.answer], rfl⟩
  | @committing cursor s' s'' e hitems ha hs hc he =>
    obtain ⟨hrelease, -⟩ := hanswer
    obtain ⟨released, hrelease⟩ := exists_ok_of_not_refuses id hrelease
    have hending : d.ending (d.pursue ⟨s', {}⟩ (requestsOf items)) =
        { requests := [.commit], raised := some e, state := state } := by
      simp only [ending, hs, hc, he, if_false, Bool.false_eq_true]
    simp only [session, ha, hending, hrelease, made_pursue_of_stop_none d _ _ hs]
    exact ⟨by simp [Moment.answer], rfl⟩

/-! ## Runs -/

/-- **An interrupted run raises its interrupt**, as it came. After it nothing is asked for a
statement; the connection is released once, and before that the run is rolled back once, if the
interrupt did not come in committing. -/
theorem raises_interrupt (loader : Loader) (strict : Bool) {units : List StatementUnit}
    {batches : List Batch} (hlength : batches.length = units.length) {w : World Request σ}
    (h : d.IsInterrupted w.outside (units.zip batches) m asked e state)
    (hanswer : d.Grants state m.answer) :
    ((d.runner loader strict).executeUnits units batches w).1 = .error e ∧
      ((d.runner loader strict).executeUnits units batches w).2.trace =
        w.trace ++ (asked ++ m.answer) ∧
      .rollback ∉ asked ∧ .release ∉ asked ∧ (∀ q ∈ m.answer, ¬ q.IsOfStatement) := by
  have hunits : units ≠ [] := by
    rintro rfl
    cases h with
    | running _ hs => cases hs
    | committing hitems => exact hitems rfl
  obtain ⟨hrequests, hresult⟩ := session_of_isInterrupted h hanswer
  obtain ⟨start, finish, hrun⟩ := yields_executeUnits (d := d) loader strict hlength hunits w
  refine ⟨?_, ?_, h.not_mem_asked.1, h.not_mem_asked.2,
    fun q hq => Moment.not_isOfStatement_of_mem_answer hq⟩
  · rw [hrun.result, hresult]
    rfl
  · rw [hrun.trace, hrequests]

/-- The user's wish to stop. -/
def stopped : Fault := .of .interrupt "stop"

/-- A database that is interrupted in reading the rows of a query, or else in committing. -/
def interrupted (m : Moment) : Responder Unit
  | .execute "SELECT a" _, s =>
    (.ok { columns := some [.text "a"]
           readFault := if m = .running then some stopped else none }, s)
  | .commit, s => (if m = .committing then .error stopped else .ok {}, s)
  | _, s => (.ok {}, s)

/-- A statement without rows, a query, and one more statement that is never prepared. -/
theorem raises_interrupt_reading :
    let units : List StatementUnit :=
      [⟨0, "DELETE FROM t", 0⟩, ⟨1, "SELECT a", 0⟩, ⟨2, "DROP TABLE t", 0⟩]
    let run := ((interrupted .running).runner {} false).executeUnits units [[], [], []]
      { outside := () }
    run.1 = .error stopped ∧
      run.2.trace = [.acquire, .prepare "DELETE FROM t", .execute "DELETE FROM t" [], .closeCursor,
        .prepare "SELECT a", .execute "SELECT a" [], .closeCursor, .rollback, .release] := by
  intro units run
  have hstop : ((interrupted .running).pursue ⟨(), {}⟩
      (requestsOf (units.zip [[], [], []]))).stop =
        some ⟨⟨1, "SELECT a", 0⟩, .reading, stopped⟩ := rfl
  have h : (interrupted .running).IsInterrupted () (units.zip [[], [], []]) .running _ _ () :=
    .running rfl hstop rfl
  have hanswer : (interrupted .running).Grants () Moment.running.answer := by
    simp [Grants, Moment.answer, Refuses, interrupted]
  obtain ⟨hresult, htrace, -⟩ := raises_interrupt {} false rfl h hanswer
  exact ⟨hresult, htrace⟩

/-- An interrupt in committing is not rolled back, although the database would. -/
theorem not_rollback_interrupted :
    (interrupted .committing).IsInterrupted () [(⟨0, "DELETE FROM t", 0⟩, [])] .committing
        [.acquire, .prepare "DELETE FROM t", .execute "DELETE FROM t" [], .closeCursor, .commit]
        stopped () ∧
      (∀ s, ((interrupted .committing) .rollback s).1 = .ok {}) ∧
      .rollback ∉ (((interrupted .committing).runner {} false).executeUnits
        [⟨0, "DELETE FROM t", 0⟩] [[]] { outside := () }).2.trace := by
  refine ⟨.committing (by simp) rfl rfl rfl rfl, fun s => rfl, ?_⟩
  have htrace : (((interrupted .committing).runner {} false).executeUnits
      [⟨0, "DELETE FROM t", 0⟩] [[]] { outside := () }).2.trace = [.acquire,
        .prepare "DELETE FROM t", .execute "DELETE FROM t" [], .closeCursor, .commit, .release] :=
    rfl
  rw [htrace]
  simp

end Responder

end SqlScript
