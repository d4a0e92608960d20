import SqlScript.Proofs.Transaction

/-!
# The requests of a run

Which requests a run makes, told without its results: the shape of its transaction, and what follows
from it.

* `Responder.IsTransaction`: the four shapes of a transaction.
* `Responder.IsCautious`: nothing is asked for a statement after a fault.
* `Responder.Commits`: some commit succeeds.
* `Responder.requests_executeUnits`: **every run has one of the shapes**, is cautious, and does not
  roll back what it committed.
-/

namespace SqlScript

/-- The requests that are made for a statement. -/
def Request.IsOfStatement : Request → Prop
  | .prepare _ | .bind .. | .execute .. | .closeCursor => True
  | _ => False

/-- All that is planned for statements is for a statement. -/
theorem isOfStatement_of_mem_requestsOf {items : List (StatementUnit × Batch)}
    {x : StatementUnit × Request} (hx : x ∈ requestsOf items) : x.2.IsOfStatement := by
  obtain ⟨⟨unit, batch⟩, -, hx⟩ := List.mem_flatMap.1 hx
  obtain ⟨request, hr, rfl⟩ := List.mem_map.1 hx
  simp only [StatementUnit.requests, List.mem_append, List.mem_cons, List.mem_mapIdx,
    List.not_mem_nil, or_false] at hr
  rcases hr with (rfl | ⟨i, hi, rfl⟩) | rfl | rfl <;> trivial

namespace Responder

open SqlScript.Runner (executeUnits_of_length_ne executeUnits_nil)

variable {σ : Type} (d : Responder σ)

/-- **The requests of a transaction** for statements with their batches. -/
inductive IsTransaction (s : σ) (items : List (StatementUnit × Batch)) : List Request → Prop
  /-- There is no connection. -/
  | refused {e : Fault} {s' : σ} : d .acquire s = (.error e, s') → IsTransaction s items [.acquire]
  /-- Something failed in the course of the statements. -/
  | undone {cursor : Cursor} {s' : σ} {stop : Stop} : d .acquire s = (.ok cursor, s') →
      (d.pursue ⟨s', {}⟩ (requestsOf items)).stop = some stop →
      IsTransaction s items (.acquire :: ((d.pursue ⟨s', {}⟩ (requestsOf items)).made
        ++ [.rollback, .release]))
  /-- Nothing failed but the commit. -/
  | uncommitted {cursor : Cursor} {s' : σ} {e : Fault} : d .acquire s = (.ok cursor, s') →
      (d.pursue ⟨s', {}⟩ (requestsOf items)).stop = none →
      (d .commit (d.pursue ⟨s', {}⟩ (requestsOf items)).standing.state).1 = .error e →
      IsTransaction s items (.acquire :: ((requestsOf items).map (·.2)
        ++ [.commit, .rollback, .release]))
  /-- Nothing failed. -/
  | committed {cursor reply : Cursor} {s' : σ} : d .acquire s = (.ok cursor, s') →
      (d.pursue ⟨s', {}⟩ (requestsOf items)).stop = none →
      (d .commit (d.pursue ⟨s', {}⟩ (requestsOf items)).standing.state).1 = .ok reply →
      IsTransaction s items (.acquire :: ((requestsOf items).map (·.2) ++ [.commit, .release]))

/-- The state after a request. Closing a cursor does not concern the database. -/
def after (s : σ) : Request → σ
  | .closeCursor => s
  | request => (d request s).2

/-- Whether a request is answered with a fault. -/
def Refuses (s : σ) : Request → Prop
  | .closeCursor => False
  | request => ∃ e, (d request s).1 = .error e

/-- **Nothing is asked for a statement after a fault.** -/
def IsCautious (s : σ) : List Request → Prop
  | [] => True
  | request :: rest =>
    (d.Refuses s request → ∀ q ∈ rest, ¬ q.IsOfStatement) ∧ IsCautious (d.after s request) rest

/-- **Some commit succeeds.** -/
def Commits (s : σ) : List Request → Prop
  | [] => False
  | request :: rest =>
    (request = .commit ∧ ¬ d.Refuses s request) ∨ Commits (d.after s request) rest

variable {d} {s : Standing σ} {plan : List (StatementUnit × Request)} {tail : List Request}

/-! ## Requests one after the other -/

theorem state_meet (s : Standing σ) (request : Request) :
    (d.meet s request).2.state = d.after s.state request := by
  cases request <;> simp only [meet, after] <;> split <;> simp [*]

theorem not_refuses_of_meet {request : Request} (h : (d.meet s request).1 = none) :
    ¬ d.Refuses s.state request := by
  rintro hr
  cases request <;> simp only [meet, Refuses] at h hr <;> obtain ⟨e, he⟩ := hr <;>
    split at h <;> simp_all

/-- Requests that are not for a statement are cautious. -/
theorem isCautious_of_forall {state : σ} (h : ∀ q ∈ tail, ¬ q.IsOfStatement) :
    d.IsCautious state tail := by
  induction tail generalizing state with
  | nil => trivial
  | cons q tail ih =>
    have htail : ∀ q' ∈ tail, ¬ q'.IsOfStatement := fun q' hq => h q' (List.mem_cons_of_mem _ hq)
    exact ⟨fun _ => htail, ih htail⟩

/-- A course that is followed by nothing for a statement is cautious: it ends with what failed. -/
theorem isCautious_pursue (h : ∀ q ∈ tail, ¬ q.IsOfStatement) :
    d.IsCautious s.state ((d.pursue s plan).made ++ tail) := by
  induction plan generalizing s with
  | nil => exact isCautious_of_forall h
  | cons x plan ih =>
    obtain ⟨unit, request⟩ := x
    have hstate := state_meet (d := d) s request
    rw [pursue]
    cases hm : d.meet s request with
    | mk flaw s' =>
      rw [hm] at hstate
      cases flaw with
      | some f => exact ⟨fun _ => h, isCautious_of_forall h⟩
      | none =>
        -- the request was not refused, so the rest may ask for more
        refine ⟨fun hr => absurd hr (not_refuses_of_meet (by rw [hm])), ?_⟩
        rw [← hstate]
        exact ih

/-- A course for statements does not commit, so it is up to what follows. -/
theorem commits_pursue (hplan : ∀ x ∈ plan, x.2.IsOfStatement) :
    d.Commits s.state ((d.pursue s plan).made ++ tail) ↔
      d.Commits (d.pursue s plan).standing.state tail := by
  induction plan generalizing s with
  | nil => exact Iff.rfl
  | cons x plan ih =>
    obtain ⟨unit, request⟩ := x
    have hrequest : request ≠ .commit := by
      rintro rfl
      exact hplan _ List.mem_cons_self
    have hstate := state_meet (d := d) s request
    have hrest := fun s' => ih (s := s') fun y hy => hplan y (List.mem_cons_of_mem _ hy)
    rw [pursue]
    cases hm : d.meet s request with
    | mk flaw s' =>
      rw [hm] at hstate
      cases flaw with
      | some f => simp [Commits, hrequest, ← hstate]
      | none =>
        simp only [List.cons_append, Commits, hrequest, false_and, false_or, ← hstate]
        exact hrest s'

/-! ## The shapes -/

variable {state s' : σ} {items : List (StatementUnit × Batch)} {requests : List Request}

/-- **A session has the shape of a transaction**, if committing raises ordinary faults only. -/
theorem isTransaction_session (hcommit : ∀ s e, (d .commit s).1 = .error e → e.isOrdinary)
    (state : σ) (items : List (StatementUnit × Batch)) :
    d.IsTransaction state items (d.session state items).requests := by
  unfold session
  cases ha : d .acquire state with
  | mk reply s' =>
    cases reply with
    | error e => exact .refused ha
    | ok cursor =>
      simp only [ending]
      cases hs : (d.pursue ⟨s', {}⟩ (requestsOf items)).stop with
      | some stop =>
        simp only [undo_requests, List.append_assoc]
        exact .undone ha hs
      | none =>
        have hmade := made_pursue_of_stop_none d ⟨s', {}⟩ (requestsOf items) hs
        cases hc : d .commit (d.pursue ⟨s', {}⟩ (requestsOf items)).standing.state with
        | mk reply s'' =>
          cases reply with
          | ok reply =>
            have hr : (d .commit (d.pursue ⟨s', {}⟩ (requestsOf items)).standing.state).1 =
                .ok reply := by rw [hc]
            simp only [hmade, List.append_assoc]
            exact .committed ha hs hr
          | error e =>
            have he := hcommit _ e (by rw [hc])
            simp only [he, if_true, undo_requests, hmade, List.append_assoc]
            exact .uncommitted ha hs (by rw [hc])

/-- A transaction on a connection is a course for the statements, and what ends it. -/
theorem IsTransaction.cases_connected (h : d.IsTransaction state items requests) :
    requests = [.acquire] ∨ ∃ cursor s' tail, d .acquire state = (.ok cursor, s') ∧
      requests = .acquire :: ((d.pursue ⟨s', {}⟩ (requestsOf items)).made ++ tail) ∧
      (∀ q ∈ tail, ¬ q.IsOfStatement) ∧
      (d.Commits (d.pursue ⟨s', {}⟩ (requestsOf items)).standing.state tail →
        .rollback ∉ tail) := by
  -- what is made of a course that did not stop is all that was planned
  cases h with
  | refused => exact .inl rfl
  | @undone cursor s' stop ha hs =>
    refine .inr ⟨cursor, s', _, ha, rfl, by simp [Request.IsOfStatement], fun hc => ?_⟩
    simp [Commits] at hc
  | @uncommitted cursor s' e ha hs he =>
    rw [← made_pursue_of_stop_none d ⟨s', {}⟩ _ hs]
    refine .inr ⟨cursor, s', _, ha, rfl, by simp [Request.IsOfStatement], fun hc => ?_⟩
    simp [Commits, Refuses, he] at hc
  | @committed cursor reply s' ha hs hr =>
    rw [← made_pursue_of_stop_none d ⟨s', {}⟩ _ hs]
    exact .inr ⟨cursor, s', _, ha, rfl, by simp [Request.IsOfStatement], fun _ => by simp⟩

/-- A transaction asks nothing for a statement after a fault. -/
theorem IsTransaction.isCautious (h : d.IsTransaction state items requests) :
    d.IsCautious state requests := by
  rcases h.cases_connected with rfl | ⟨cursor, s', tail, ha, rfl, htail, -⟩
  · exact ⟨fun _ => by simp, trivial⟩
  · refine ⟨?_, ?_⟩
    · rintro ⟨e, he⟩
      rw [ha] at he
      cases he
    · simp only [after, ha]
      exact isCautious_pursue (s := ⟨s', {}⟩) htail

/-- A transaction does not roll back what it committed. -/
theorem IsTransaction.rollback_not_mem (h : d.IsTransaction state items requests)
    (hc : d.Commits state requests) : .rollback ∉ requests := by
  rcases h.cases_connected with rfl | ⟨cursor, s', tail, ha, rfl, -, htail⟩
  · simp [Commits] at hc
  · have hplan : ∀ x ∈ requestsOf items, x.2.IsOfStatement :=
      fun _ => isOfStatement_of_mem_requestsOf
    simp only [Commits, reduceCtorEq, false_and, false_or, after, ha] at hc
    rw [commits_pursue (s := ⟨s', {}⟩) hplan] at hc
    simp only [List.mem_cons, List.mem_append, reduceCtorEq, false_or, not_or]
    -- a rollback in the course itself would be a request for a statement
    refine ⟨fun hr => ?_, htail hc⟩
    obtain ⟨x, hx, hxr⟩ := List.mem_map.1 ((isPrefix_made_pursue d _ _).subset hr)
    have hof := hplan x hx
    rw [hxr] at hof
    exact hof

/-- **The requests of a run.** There are none if there is not one batch for each statement, or no
statement at all. Otherwise they have the shape of a transaction, nothing is asked for a statement
after a fault, and nothing is both committed and rolled back. -/
theorem requests_executeUnits (d : Responder σ)
    (hcommit : ∀ s e, (d .commit s).1 = .error e → e.isOrdinary) (loader : Loader) (strict : Bool)
    (units : List StatementUnit) (batches : List Batch) (w : World Request σ) :
    ∃ requests,
      ((d.runner loader strict).executeUnits units batches w).2.trace = w.trace ++ requests ∧
      (batches.length ≠ units.length ∨ units = [] → requests = []) ∧
      (batches.length = units.length → units ≠ [] →
        d.IsTransaction w.outside (units.zip batches) requests) ∧
      d.IsCautious w.outside requests ∧
      (d.Commits w.outside requests → .rollback ∉ requests) := by
  by_cases hlength : batches.length = units.length
  · by_cases hunits : units = []
    · subst hunits
      obtain rfl := List.length_eq_zero_iff.1 hlength
      have hnone := executeUnits_nil (d.runner loader strict) w
      exact ⟨[], hnone.trace, fun _ => rfl, fun _ h => absurd rfl h, trivial, fun h => h.elim⟩
    · obtain ⟨start, finish, hrun⟩ := yields_executeUnits (d := d) loader strict hlength hunits w
      have hshape := isTransaction_session hcommit w.outside (units.zip batches)
      refine ⟨_, hrun.trace, ?_, fun _ _ => hshape, hshape.isCautious, hshape.rollback_not_mem⟩
      rintro (h | h)
      · exact absurd hlength h
      · exact absurd h hunits
  · have hnone := executeUnits_of_length_ne (d.runner loader strict) hlength w
    exact ⟨[], hnone.trace, fun _ => rfl, fun h => absurd h hlength, trivial, fun h => h.elim⟩

/-- A database that commits nothing. -/
def neverCommits : Responder Unit
  | .commit, s => (.error (.of (.database .operational) "database is locked"), s)
  | _, s => (.ok {}, s)

theorem requests_executeUnits_neverCommits :
    (∀ s e, (neverCommits .commit s).1 = .error e → e.isOrdinary) ∧
    neverCommits.IsTransaction () [(⟨0, "DELETE FROM t", 0⟩, [])]
      [.acquire, .prepare "DELETE FROM t", .execute "DELETE FROM t" [], .closeCursor, .commit,
        .rollback, .release] := by
  have hcommit : ∀ s e, (neverCommits .commit s).1 = .error e → e.isOrdinary := by
    intro s e h
    obtain rfl := Except.error.inj h
    rfl
  obtain ⟨requests, htrace, -, hshape, -⟩ := requests_executeUnits neverCommits hcommit {} false
    [⟨0, "DELETE FROM t", 0⟩] [[]] { outside := () }
  refine ⟨hcommit, ?_⟩
  have hrequests : requests = [.acquire, .prepare "DELETE FROM t", .execute "DELETE FROM t" [],
      .closeCursor, .commit, .rollback, .release] := htrace.symm
  rw [← hrequests]
  exact hshape rfl (List.cons_ne_nil _ _)

end Responder

end SqlScript
