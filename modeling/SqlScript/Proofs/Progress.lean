import SqlScript.Proofs.Transaction

/-!
# How far a run comes

A run prepares its statements one after the other until one of them fails. So the statements before
the one that failed ran, and those after it were never prepared.

* `Responder.Completes`, `Responder.Fails`: what becomes of the statement at a place.
* `Responder.exists_stop`: a run that stopped, told by the place where it did.
* `Responder.Causes`, `Responder.causes_of_stop`: what can stop a run.
* `Responder.blame`: what the failure of a run says about where it stopped.
-/

namespace SqlScript

/-- Whether a request prepares a statement. -/
def Request.isPrepare : Request → Bool
  | .prepare _ => true
  | _ => false

/-- How many statements were asked to be prepared. -/
def prepares (requests : List Request) : Nat := requests.countP Request.isPrepare

namespace Responder

variable {σ : Type} (d : Responder σ)

/-- **The statement at a place ran to completion**, on a connection of its run. -/
def Completes (s : σ) (items : List (StatementUnit × Batch)) (i : Nat) : Prop :=
  ∃ cursor s', d .acquire s = (.ok cursor, s') ∧ i < items.length ∧
    (d.pursue ⟨s', {}⟩ (requestsOf (items.take (i + 1)))).stop = none

/-- **The statement at a place failed itself**: those before it ran. -/
def Fails (s : σ) (items : List (StatementUnit × Batch)) (i : Nat) : Prop :=
  ∃ cursor s', d .acquire s = (.ok cursor, s') ∧
    (d.pursue ⟨s', {}⟩ (requestsOf (items.take i))).stop = none ∧
    (d.pursue ⟨s', {}⟩ (requestsOf (items.take (i + 1)))).stop ≠ none

variable {d} {s : Standing σ} {plan : List (StatementUnit × Request)}
  {items : List (StatementUnit × Batch)} {stop : Stop}

/-! ## One statement -/

/-- A course stops at a request that it was planned for, with what goes wrong there. -/
theorem meet_of_stop (h : (d.pursue s plan).stop = some stop) :
    ∃ request s', (stop.unit, request) ∈ plan ∧
      (d.meet s' request).1 = some (stop.phase, stop.fault) := by
  induction plan generalizing s with
  | nil => simp [pursue] at h
  | cons x plan ih =>
    rw [pursue] at h
    split at h
    · rename_i phase e s' hm
      obtain rfl := Option.some.inj h
      exact ⟨x.2, s, List.mem_cons_self, by rw [hm]⟩
    · obtain ⟨request, s', hmem, hmeet⟩ := ih h
      exact ⟨request, s', List.mem_cons_of_mem _ hmem, hmeet⟩

/-- A statement is prepared once, whether it fails or not. -/
theorem prepares_statement (unit : StatementUnit) (batch : Batch) (s : Standing σ) :
    prepares (d.pursue s ((unit.requests batch).map (unit, ·))).made = 1 := by
  have hrest : ∀ s : Standing σ, prepares
      (d.pursue s (executeRequests unit batch ++ [(unit, .closeCursor)])).made = 0 := by
    intro s
    refine List.countP_eq_zero.2 fun request hr => ?_
    obtain ⟨x, hx, rfl⟩ := List.mem_map.1 ((isPrefix_made_pursue d s _).subset hr)
    simp only [executeRequests, bindRequests, List.mem_append, List.mem_singleton,
      List.mem_mapIdx] at hx
    rcases hx with (⟨i, hi, rfl⟩ | rfl) | rfl <;> simp [Request.isPrepare]
  rw [requests_map, pursue]
  split
  · rfl
  · rw [prepares, List.countP_cons, ← prepares, hrest]
    rfl

/-- The course of statements goes on from the first one, if that is done. -/
theorem pursue_requestsOf_cons (unit : StatementUnit) (batch : Batch) (s : Standing σ)
    (items : List (StatementUnit × Batch)) :
    d.pursue s (requestsOf ((unit, batch) :: items)) =
      (d.pursue s ((unit.requests batch).map (unit, ·))).andThen fun s =>
        d.pursue s (requestsOf items) := by
  rw [requestsOf_cons, pursue_append]

/-! ## Statements in order -/

/-- **Where a run stopped**: at the first place that could not be passed. -/
theorem exists_stop (h : (d.pursue s (requestsOf items)).stop = some stop) :
    ∃ k item, items[k]? = some item ∧ stop.unit = item.1 ∧
      prepares (d.pursue s (requestsOf items)).made = k + 1 ∧
      ∀ i, (d.pursue s (requestsOf (items.take i))).stop = none ↔ i ≤ k := by
  induction items generalizing s with
  | nil => simp [requestsOf, pursue] at h
  | cons item items ih =>
    obtain ⟨unit, batch⟩ := item
    have hprepares := prepares_statement (d := d) unit batch s
    have hmem := fun h : (d.pursue s ((unit.requests batch).map (unit, ·))).stop = some stop =>
      meet_of_stop h
    have htake : ∀ i, (d.pursue s (requestsOf (((unit, batch) :: items).take (i + 1)))) =
        (d.pursue s ((unit.requests batch).map (unit, ·))).andThen fun s =>
          d.pursue s (requestsOf (items.take i)) := fun i => pursue_requestsOf_cons unit batch s _
    rw [pursue_requestsOf_cons] at h ⊢
    generalize d.pursue s ((unit.requests batch).map (unit, ·)) = c at hprepares hmem htake h ⊢
    obtain ⟨made, stop', standing⟩ := c
    cases stop' with
    | some first =>
      -- the first statement is the one that failed
      obtain ⟨request, -, hrequest, -⟩ := hmem h
      obtain ⟨request', -, hunit⟩ := List.mem_map.1 hrequest
      refine ⟨0, (unit, batch), rfl, (congrArg Prod.fst hunit).symm, hprepares, fun i => ?_⟩
      cases i with
      | zero => exact ⟨fun _ => Nat.le_refl 0, fun _ => rfl⟩
      | succ i =>
        rw [htake i]
        simp [Course.andThen]
    | none =>
      -- otherwise the place is one further than in the rest
      obtain ⟨k, item, hitem, hunit, hk, hle⟩ := ih (s := standing) h
      refine ⟨k + 1, item, hitem, hunit, ?_, fun i => ?_⟩
      · simp only [Course.andThen, prepares, List.countP_append] at hprepares hk ⊢
        omega
      · cases i with
        | zero => exact ⟨fun _ => Nat.zero_le _, fun _ => rfl⟩
        | succ i =>
          rw [htake i, Nat.add_le_add_iff_right, ← hle i]
          rfl

/-- A run that came to the end prepared all statements and passed every place. -/
theorem prepares_of_stop_none (h : (d.pursue s (requestsOf items)).stop = none) :
    prepares (d.pursue s (requestsOf items)).made = items.length ∧
      ∀ i, (d.pursue s (requestsOf (items.take i))).stop = none := by
  constructor
  · induction items generalizing s with
    | nil => rfl
    | cons item items ih =>
      obtain ⟨unit, batch⟩ := item
      have hprepares := prepares_statement (d := d) unit batch s
      rw [pursue_requestsOf_cons] at h ⊢
      generalize d.pursue s ((unit.requests batch).map (unit, ·)) = c at hprepares h ⊢
      obtain ⟨made, stop', standing⟩ := c
      cases stop' with
      | some first => cases h
      | none =>
        have hrest := ih (s := standing) h
        simp only [Course.andThen, prepares, List.countP_append, List.length_cons] at *
        omega
  · -- a course does not go on behind a part that stopped
    intro i
    rw [← List.take_append_drop i items, requestsOf, List.flatMap_append, ← requestsOf,
      ← requestsOf, pursue_append] at h
    generalize d.pursue s (requestsOf (items.take i)) = c at h ⊢
    obtain ⟨made, stop', standing⟩ := c
    cases stop' with
    | some first => cases h
    | none => rfl

/-! ## What stops a run -/

/-- **What can stop a run**: a statement that cannot be prepared, one that cannot be bound and
executed, or a flaw of a cursor that executing gave. -/
inductive Causes (d : Responder σ) : Stop → Prop
  | preparing {unit : StatementUnit} {sql : String} {s : σ} {e : Fault} :
      (d (.prepare sql) s).1 = .error e → Causes d ⟨unit, .preparing, e⟩
  | executing {unit : StatementUnit} {request : Request} {s : σ} {e : Fault} :
      (d request s).1 = .error e → Causes d ⟨unit, .executing, e⟩
  | reading {unit : StatementUnit} {sql : String} {parameters : List Value} {s : σ}
      {cursor : Cursor} {f : Phase × Fault} : (d (.execute sql parameters) s).1 = .ok cursor →
      cursor.flaw? = some f → Causes d ⟨unit, f.1, f.2⟩

variable {unit : StatementUnit} {batch : Batch}

theorem causes_executeRequests (h : (d.pursue s (executeRequests unit batch)).stop = some stop) :
    d.Causes stop := by
  obtain ⟨-, hphase⟩ := stop_executeRequests h
  obtain ⟨request, s', hmem, hmeet⟩ := meet_of_stop h
  obtain ⟨unit, phase, e⟩ := stop
  obtain rfl : phase = .executing := hphase
  rw [executeRequests, bindRequests, List.mem_append, List.mem_singleton, List.mem_mapIdx] at hmem
  rcases hmem with ⟨i, hi, hx⟩ | hx
  all_goals
    obtain ⟨-, rfl⟩ := Prod.mk.inj hx
    simp only [meet] at hmeet
    split at hmeet
    · cases hmeet
    · rename_i e' state hr
      obtain ⟨-, rfl⟩ := Prod.mk.inj (Option.some.inj hmeet)
      exact .executing (by rw [hr])

/-- The cursor that is read is the one that executing gave. -/
theorem cursor_executeRequests (h : (d.pursue s (executeRequests unit batch)).stop = none) :
    ∃ state, (d (.execute unit.sql batch) state).1 =
      .ok (d.pursue s (executeRequests unit batch)).standing.cursor := by
  rw [executeRequests, pursue_append] at h ⊢
  generalize d.pursue s (bindRequests unit 1 batch) = c at h ⊢
  obtain ⟨made, stop, standing⟩ := c
  cases stop with
  | some first => cases h
  | none =>
    simp only [Course.andThen, pursue, meet] at h ⊢
    cases hr : d (.execute unit.sql batch) standing.state with
    | mk reply state =>
      rw [hr] at h
      cases reply with
      | error e => cases h
      | ok cursor => exact ⟨standing.state, by rw [hr]⟩

/-- What stops a run in one statement. -/
theorem causes_statement (h : (d.pursue s ((unit.requests batch).map (unit, ·))).stop = some stop) :
    d.Causes stop := by
  rw [requests_map, pursue] at h
  simp only [meet] at h
  cases hp : d (.prepare unit.sql) s.state with
  | mk reply state =>
    rw [hp] at h
    cases reply with
    | error e =>
      obtain rfl := Option.some.inj h
      exact .preparing (by rw [hp])
    | ok cursor =>
      have hexecute := @causes_executeRequests σ d ⟨state, cursor⟩ stop unit batch
      have hcursor := @cursor_executeRequests σ d ⟨state, cursor⟩ unit batch
      simp only [pursue_append] at h
      generalize d.pursue ⟨state, cursor⟩ (executeRequests unit batch) = c at h hexecute hcursor
      obtain ⟨made, stop', standing⟩ := c
      cases stop' with
      | some first => exact hexecute h
      | none =>
        obtain ⟨state', hreply⟩ := hcursor rfl
        simp only [Course.andThen, pursue, meet] at h
        cases hf : standing.cursor.flaw? with
        | none => rw [hf] at h; cases h
        | some f =>
          rw [hf] at h
          obtain rfl := Option.some.inj h
          exact .reading hreply hf

/-- **What stopped a run** is one of the causes. -/
theorem causes_of_stop (h : (d.pursue s (requestsOf items)).stop = some stop) : d.Causes stop := by
  induction items generalizing s with
  | nil => cases h
  | cons item items ih =>
    obtain ⟨unit, batch⟩ := item
    have hfirst := @causes_statement σ d s stop unit batch
    rw [pursue_requestsOf_cons] at h
    generalize d.pursue s ((unit.requests batch).map (unit, ·)) = c at h hfirst
    obtain ⟨made, stop', standing⟩ := c
    cases stop' with
    | some first => exact hfirst h
    | none => exact ih h

/-! ## What a failure says -/

/-- **A database that fails in an orderly way**: its cursors close, it takes back its connections,
and a connection that it does not give out is no statement's fault. -/
structure IsOrderly (d : Responder σ) : Prop where
  closes : ∀ request s cursor, (d request s).1 = .ok cursor → cursor.closeFault = none
  releases : ∀ s e, (d .release s).1 ≠ .error e
  acquires : ∀ s f, (d .acquire s).1 = .error (.failure f) →
    f.statementIndex = none ∧ f.code ≠ "commit_failed"

/-- A cursor that closes has no flaw but one of reading. -/
theorem flaw?_of_closes {cursor : Cursor} (h : cursor.closeFault = none) {f : Phase × Fault}
    (hf : cursor.flaw? = some f) : f.1 ≠ .closing := by
  unfold Cursor.flaw? at hf
  rw [h] at hf
  simp only at hf
  split at hf
  · cases hf
  · split at hf
    · cases hf
    · obtain rfl := Option.some.inj hf
      simp

/-- An orderly database does not stop a run in closing a cursor. -/
theorem phase_ne_closing (hd : d.IsOrderly) (h : (d.pursue s (requestsOf items)).stop = some stop) :
    stop.phase ≠ .closing := by
  cases causes_of_stop h with
  | preparing | executing => nofun
  | reading hcursor hflaw => exact flaw?_of_closes (hd.closes _ _ _ hcursor) hflaw

/-- What stopped a run is a failure that blames its statement, or an interrupt. -/
theorem reported_cases (h : stop.phase ≠ .closing) :
    (∃ f, stop.reported = .failure f ∧ f.statementIndex = some stop.unit.index) ∨
      stop.reported.isOrdinary = false := by
  unfold Stop.reported Fault.reportedAs
  cases hp : stop.phase with
  | closing => exact absurd hp h
  | preparing | executing | reading =>
    simp only
    split
    · exact .inl ⟨_, rfl, rfl⟩
    · rename_i hordinary
      exact .inr (Bool.eq_false_iff.2 hordinary)

/-- A failure after a rollback is the one that was rolled back, or one of rolling back. -/
theorem raised_undo {state : σ} {trigger raised : Fault} {f : Failure}
    (h : (d.undo state trigger raised).raised = some (.failure f)) :
    raised = .failure f ∨ ∃ e, f = Failure.rollbackFailed trigger e := by
  unfold undo at h
  split at h
  · exact .inl (Option.some.inj h)
  · rename_i e state' hr
    right
    have he := Option.some.inj h
    unfold Fault.reportedAs at he
    split at he
    · exact ⟨e, (Fault.failure.inj he).symm⟩
    · rename_i hordinary
      rw [he] at hordinary
      exact absurd rfl hordinary

/-- A failure to acquire a connection blames no statement. -/
theorem blame_acquire (hd : d.IsOrderly) {state : σ} {e : Fault} {f : Failure}
    (he : (d .acquire state).1 = .error e) (hf : Backend.reportAcquire e = .failure f) :
    f.statementIndex = none ∧ f.code ≠ "commit_failed" := by
  cases e with
  | failure g =>
    obtain rfl := Fault.failure.inj hf
    exact hd.acquires state g he
  | outside kind message cause =>
    simp only [Backend.reportAcquire] at hf
    split at hf
    · obtain rfl := Fault.failure.inj hf
      have hcode : "connection_failed" ≠ "commit_failed" := by decide
      exact ⟨rfl, hcode⟩
    · cases hf

/-- **The end of a failed transaction**: it is rolled back, and its failure blames the statement
that failed, or is one of committing, or blames none. -/
theorem blame_ending {c : Course σ} {f : Failure}
    (hphase : ∀ stop, c.stop = some stop → stop.phase ≠ .closing)
    (h : (d.ending c).raised = some (.failure f)) :
    .rollback ∈ (d.ending c).requests ∧ prepares (d.ending c).requests = 0 ∧
      ((∃ stop, c.stop = some stop ∧ f.statementIndex = some stop.unit.index) ∨
        (c.stop = none ∧ f.statementIndex = none ∧ f.code = "commit_failed") ∨
        (f.statementIndex = none ∧ f.code = "rollback_failed")) := by
  unfold ending at h ⊢
  cases hs : c.stop with
  | some stop =>
    rw [hs] at h
    simp only [undo_requests] at h ⊢
    refine ⟨List.mem_cons_self, rfl, ?_⟩
    rcases reported_cases (hphase stop hs) with ⟨g, hg, hindex⟩ | hinterrupt
    · -- a failed rollback blames the statement that made it necessary
      rcases raised_undo h with hf | ⟨e, rfl⟩
      · obtain rfl := Fault.failure.inj (hg.symm.trans hf)
        exact .inl ⟨stop, rfl, hindex⟩
      · refine .inl ⟨stop, rfl, ?_⟩
        simp only [Failure.rollbackFailed, hg, Fault.statementIndex, hindex]
    · rcases raised_undo h with hf | ⟨e, rfl⟩
      · rw [hf] at hinterrupt
        cases hinterrupt
      · -- an interrupt that cannot be rolled back blames nobody
        refine .inr (.inr ⟨?_, rfl⟩)
        cases hr : stop.reported with
        | failure g =>
          rw [hr] at hinterrupt
          cases hinterrupt
        | outside kind message cause => rfl
  | none =>
    rw [hs] at h
    simp only at h ⊢
    cases hc : d .commit c.standing.state with
    | mk reply state =>
      rw [hc] at h
      cases reply with
      | ok cursor => cases h
      | error e =>
        simp only at h ⊢
        split at h
        · -- committing blames no statement, and neither does rolling back after it
          rename_i he
          simp only [he, if_true, undo_requests] at h ⊢
          refine ⟨by simp, rfl, ?_⟩
          rcases raised_undo h with hf | ⟨e', rfl⟩
          · obtain rfl := Fault.failure.inj hf
            exact .inr (.inl ⟨trivial, rfl, rfl⟩)
          · exact .inr (.inr ⟨rfl, rfl⟩)
        · rename_i he
          have hf := Option.some.inj h
          rw [hf] at he
          exact absurd rfl he

/-- **What the failure of a run says**: either no connection was given out, or the run was rolled
back, and its failure is as `blame_ending` says. -/
theorem blame (hd : d.IsOrderly) {state : σ} {f : Failure}
    (h : (d.session state items).result = .error (.failure f)) :
    ((d.session state items).requests = [.acquire] ∧ (∃ e s', d .acquire state = (.error e, s')) ∧
      f.statementIndex = none ∧ f.code ≠ "commit_failed") ∨
    ∃ cursor s' final, d .acquire state = (.ok cursor, s') ∧
      (d.session state items).requests =
        .acquire :: ((d.pursue ⟨s', {}⟩ (requestsOf items)).made ++ final) ∧
      .rollback ∈ final ∧ prepares final = 0 ∧
      ((∃ stop, (d.pursue ⟨s', {}⟩ (requestsOf items)).stop = some stop ∧
          f.statementIndex = some stop.unit.index) ∨
        ((d.pursue ⟨s', {}⟩ (requestsOf items)).stop = none ∧ f.statementIndex = none ∧
          f.code = "commit_failed") ∨
        (f.statementIndex = none ∧ f.code = "rollback_failed")) := by
  unfold session at h ⊢
  cases ha : d .acquire state with
  | mk reply s' =>
    rw [ha] at h
    cases reply with
    | error e =>
      have he : (d .acquire state).1 = .error e := by rw [ha]
      exact .inl ⟨rfl, ⟨e, s', rfl⟩, blame_acquire hd he (Except.error.inj h)⟩
    | ok cursor =>
      right
      simp only at h ⊢
      have hphase : ∀ stop, (d.pursue ⟨s', {}⟩ (requestsOf items)).stop = some stop →
          stop.phase ≠ .closing := fun stop hs => phase_ne_closing hd hs
      refine ⟨cursor, s', (d.ending (d.pursue ⟨s', {}⟩ (requestsOf items))).requests ++ [.release],
        rfl, ?_⟩
      generalize d.pursue ⟨s', {}⟩ (requestsOf items) = c at h hphase ⊢
      have hreleases := hd.releases (d.ending c).state
      cases hr : d .release (d.ending c).state with
      | mk reply final =>
        rw [hr] at h hreleases
        cases reply with
        | error e => exact absurd rfl (hreleases e)
        | ok _ =>
          -- the connection is taken back, so it is the ending that failed
          have hraised : (d.ending c).raised = some (.failure f) := by
            cases hraised : (d.ending c).raised with
            | none => simp [Ending.result, hraised, Except.map, Except.bind] at h
            | some e =>
              simp only [Ending.result, hraised, Except.map, Except.bind] at h
              rw [Except.error.inj h]
          obtain ⟨hrollback, hprepares, hblame⟩ := blame_ending hphase hraised
          refine ⟨?_, ?_, ?_, hblame⟩
          · rw [List.append_assoc]
          · exact List.mem_append_left _ hrollback
          · rw [prepares, List.countP_append, ← prepares, hprepares]
            rfl

end Responder

end SqlScript
