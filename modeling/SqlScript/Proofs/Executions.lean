import SqlScript.Proofs.Fitting
import SqlScript.Proofs.Sight

/-!
# What SQLite is asked to execute

A runner prepares, binds and executes statements; SQLite knows none of that and is asked to execute
texts with lists of values. For each statement these are its explanation with nulls, unless it asks
for one itself, and the statement with its batch. Up to the first fault a run asks for exactly
these, in order, and it commits only after the last.

* `Sqlite.planned`: the executions for statements with their batches.
* `Sqlite.Driver.after`: what a request does to the state of a driver.
* `Sqlite.Performs`: an action that does some executions in order, up to a fault.
* `Sqlite.performs_runUnits`: statements perform what is planned for them.
* `Sqlite.yields_settled`: a transaction commits only what was executed as planned.
* `Sqlite.Comes`: what a run on a pool comes to.
* `Sqlite.conducts_runScript`: **what a script asks to be executed.**
-/

namespace SqlScript.Sqlite

open SqlScript.Action
open SqlScript.Responder (scriptItems statementItems length_of_allocate)

/-! ## Executions -/

/-- Whether a request is to execute a text. -/
def Call.isExecution : Call → Bool
  | .execute .. => true
  | _ => false

/-- The executions among some requests. -/
def executions (calls : List Call) : List Call := calls.filter Call.isExecution

/-- A request of a statement on a connection: an execution there, or the closing of a cursor. -/
def Call.IsOfStatement (c : Nat) (call : Call) : Prop :=
  call = .closeCursor ∨ ∃ sql parameters, call = .execute c sql parameters

/-- How a statement is compiled on a connection: it is explained with as many nulls as it has
placeholders, unless its first seven letters ask for an explanation themselves. -/
def explanationFor (c : Nat) (unit : StatementUnit) : List Call :=
  if ((Text.trimLeft unit.sql.toList).take 7).map Text.capital = "EXPLAIN".toList then []
  else [.execute c ("EXPLAIN " ++ unit.sql) (List.replicate unit.placeholderCount .null)]

/-- **The executions for a statement**: its explanation, and the statement with its batch. -/
def plannedFor (c : Nat) (item : StatementUnit × Batch) : List Call :=
  explanationFor c item.1 ++ [.execute c item.1.sql item.2]

/-- **The executions for statements** with their batches, in order. -/
def planned (c : Nat) (items : List (StatementUnit × Batch)) : List Call :=
  items.flatMap (plannedFor c)

theorem executions_append (calls more : List Call) :
    executions (calls ++ more) = executions calls ++ executions more :=
  List.filter_append ..

variable {σ α β : Type}

/-- What a request does to the state of a driver. Closing a cursor is no business of the driver. -/
def Driver.after (d : Driver σ) (s : σ) : Call → σ
  | .closeCursor => s
  | call => (d.answer call s).2

/-- A pool after requests to its driver. -/
def Session.afterAll (d : Driver σ) (s : Session σ) (calls : List Call) : Session σ :=
  { s with driver := calls.foldl d.after s.driver }

theorem Session.afterAll_append (d : Driver σ) (s : Session σ) (calls more : List Call) :
    s.afterAll d (calls ++ more) = (s.afterAll d calls).afterAll d more := by
  unfold afterAll
  rw [List.foldl_append]

variable {d : Driver σ} {c : Nat} {plan more : List Call} {a : PoolAction σ α}
  {f : α → PoolAction σ β} {Q : α → Prop} {P : β → Prop} {w : World Call (Session σ)}

/-! ## Performing a plan -/

/-- **An action performs a plan** of executions on a connection: it makes requests of statements
there and no others, these do a start of the plan, and all of it if there is no fault. What it gives
then is as said. -/
def Performs (d : Driver σ) (c : Nat) (plan : List Call) (Q : α → Prop) (a : PoolAction σ α) :
    Prop :=
  ∀ w, ∃ calls r, Yields a w calls (w.outside.afterAll d calls) r ∧
    (∀ call ∈ calls, call.IsOfStatement c) ∧ executions calls <+: plan ∧
    ∀ x, r = .ok x → executions calls = plan ∧ Q x

namespace Performs

/-- An action without requests. -/
theorem quiet (h : ∀ w, ∃ r, Yields a w [] w.outside r ∧ ∀ x, r = .ok x → Q x) :
    Performs d c [] Q a := by
  intro w
  obtain ⟨r, hr, hQ⟩ := h w
  exact ⟨[], r, hr, by simp, List.nil_prefix, fun x hx => ⟨rfl, hQ x hx⟩⟩

theorem pure {x : α} (hx : Q x) : Performs d c [] Q (Pure.pure x) :=
  quiet fun w => ⟨.ok x, Yields.pure x w, fun _ h => Except.ok.inj h ▸ hx⟩

theorem say (level : LogLevel) (message : String) :
    Performs d c [] (fun _ => True) (World.say level message) :=
  quiet fun w => ⟨_, Yields.say level message w, fun _ _ => trivial⟩

theorem closeCursor (cursor : Cursor) :
    Performs d c [] (fun _ => True) (World.closeCursor .closeCursor cursor) := fun w =>
  ⟨[.closeCursor], _, Yields.closeCursor _ cursor w, by simp [Call.IsOfStatement],
    List.nil_prefix, fun _ _ => ⟨rfl, trivial⟩⟩

/-- An execution does what it is. -/
theorem execute (sql : String) (parameters : List Value) :
    Performs d c [.execute c sql parameters] (fun _ => True)
      (d.ask (.execute c sql parameters)) := fun w =>
  ⟨[.execute c sql parameters], _, ⟨rfl, rfl, rfl⟩, by simp [Call.IsOfStatement],
    List.prefix_rfl, fun _ _ => ⟨rfl, trivial⟩⟩

/-- **One action after another** performs one plan after the other. -/
theorem bind (ha : Performs d c plan Q a) (hf : ∀ x, Q x → Performs d c more P (f x)) :
    Performs d c (plan ++ more) P (a >>= f) := by
  intro w
  obtain ⟨calls, r, hyields, hcalls, hprefix, hok⟩ := ha w
  cases r with
  | error e =>
    exact ⟨calls, .error e, hyields.bind_error, hcalls, hprefix.trans (List.prefix_append ..),
      fun _ h => nomatch h⟩
  | ok x =>
    obtain ⟨hplan, hx⟩ := hok x rfl
    obtain ⟨calls', q, hyields', hcalls', hprefix', hok'⟩ := hf x hx (a w).2
    rw [hyields.outside, ← Session.afterAll_append] at hyields'
    refine ⟨calls ++ calls', q, hyields.bind_at hyields', ?_, ?_, fun y hy => ?_⟩
    · intro call hcall
      exact (List.mem_append.1 hcall).elim (hcalls call) (hcalls' call)
    · rw [executions_append, hplan]
      exact (List.prefix_append_right_inj plan).2 hprefix'
    · rw [executions_append, hplan, (hok' y hy).1]
      exact ⟨rfl, (hok' y hy).2⟩

/-- An action before one that makes no executions. -/
theorem bind_quiet (ha : Performs d c plan Q a) (hf : ∀ x, Q x → Performs d c [] P (f x)) :
    Performs d c plan P (a >>= f) := by
  have h := ha.bind hf
  rwa [List.append_nil] at h

theorem reporting (report : Fault → Failure) (ha : Performs d c plan Q a) :
    Performs d c plan Q (Action.reporting report a) := by
  intro w
  obtain ⟨calls, r, hyields, hcalls, hprefix, hok⟩ := ha w
  refine ⟨calls, _, hyields.reporting report, hcalls, hprefix, fun x hx => hok x ?_⟩
  cases r with
  | error e => cases hx
  | ok y => exact hx

/-- A clean-up that makes no executions. -/
theorem ensure {cleanup : PoolAction σ Unit} (ha : Performs d c plan Q a)
    (hc : Performs d c [] (fun _ => True) cleanup) :
    Performs d c plan Q (Action.ensure a cleanup) := by
  intro w
  obtain ⟨calls, r, hyields, hcalls, hprefix, hok⟩ := ha w
  obtain ⟨calls', p, hyields', hcalls', hnone, -⟩ := hc (a w).2
  have hnone := List.prefix_nil.1 hnone
  rw [hyields.outside, ← Session.afterAll_append] at hyields'
  have hexecutions : executions (calls ++ calls') = executions calls := by
    rw [executions_append, hnone, List.append_nil]
  refine ⟨calls ++ calls', _, hyields.ensure_at hyields', ?_, ?_, fun x hx => ?_⟩
  · intro call hcall
    exact (List.mem_append.1 hcall).elim (hcalls call) (hcalls' call)
  · rw [hexecutions]
    exact hprefix
  · rw [hexecutions]
    cases p with
    | error e => cases hx
    | ok _ => exact hok x hx

end Performs

/-! ## One statement -/

section Statements

variable {l : Lease} {unit : StatementUnit}

/-- A prepared statement is explained, unless it asks for that itself, and has no values yet. -/
theorem performs_prepare (l : Lease) (hunit : unit.placeholderCount = countPlaceholders unit.sql) :
    Performs d l.connection (explanationFor l.connection unit)
      (fun s => s.connection = l.connection ∧ s.sql = unit.sql ∧ s.bindings = [])
      ((backend d).prepare l unit.sql) := by
  have hcompile : Performs d l.connection (explanationFor l.connection unit) (fun _ => True)
      (Prepared.compile d l.connection unit.sql (countPlaceholders unit.sql)) := by
    have hasks : Prepared.asksExplanation unit.sql = true ↔
        ((Text.trimLeft unit.sql.toList).take 7).map Text.capital = "EXPLAIN".toList := by
      unfold Prepared.asksExplanation Text.spells
      rw [beq_iff_eq]
      rfl
    unfold Prepared.compile explanationFor
    by_cases hword : ((Text.trimLeft unit.sql.toList).take 7).map Text.capital = "EXPLAIN".toList
    · rw [if_pos (hasks.2 hword), if_pos hword]
      exact .pure trivial
    · rw [if_neg (mt hasks.1 hword), if_neg hword, hunit]
      exact (Performs.execute _ _).bind_quiet fun cursor _ => .closeCursor cursor
  exact hcompile.bind_quiet fun _ _ => .pure ⟨rfl, rfl, rfl⟩

/-- Binding asks for nothing, and leaves the values of a batch bound in order. -/
theorem performs_bindFrom (batch : Batch) (position : Int) (s : Prepared) :
    Performs d c [] (fun s' => s' = { s with bindings := s.bindings.bindFrom position batch })
      ((backend d).bindFrom position s batch) := by
  induction batch generalizing position s with
  | nil => exact .pure rfl
  | cons value batch ih =>
    have hbind : Performs d c []
        (fun s' => s' = { s with bindings := s.bindings.bind position value })
        ((backend d).bind s position value) := by
      refine .quiet fun w => ⟨_, Yields.ofExcept (s.bind position value) w, fun s' hs' => ?_⟩
      unfold Prepared.bind at hs'
      split at hs'
      · cases hs'
      · exact (Except.ok.inj hs').symm
    refine hbind.bind_quiet fun s' hs' => ?_
    subst hs'
    exact ih (position + 1) _

/-- A statement that was prepared is executed with its batch. -/
theorem performs_bindAndExecute (batch : Batch) {s : Prepared} (hs : s.bindings = []) :
    Performs d s.connection [.execute s.connection s.sql batch] (fun _ => True)
      ((backend d).bindAndExecute s batch) := by
  refine (performs_bindFrom batch 1 s).bind fun s' hs' => ?_
  have hvalues : s'.bindings.values = batch := by
    rw [hs', hs]
    exact Bindings.values_bindFrom_nil 1 batch
  have hexecute : (backend d).execute s' = d.ask (.execute s.connection s.sql batch) := by
    rw [← hvalues, hs']
    rfl
  rw [hexecute]
  exact .execute _ _

/-- Reading and closing a cursor asks for no executions. -/
theorem performs_collect (index : Int) (cursor : Cursor) :
    Performs d c [] (fun _ => True) ((backend d).collect index cursor) := by
  unfold Backend.collect
  split
  · exact (Performs.say _ _).bind_quiet fun _ _ => (Performs.closeCursor cursor).bind_quiet
      fun _ _ => .pure trivial
  · have hread : Performs d c [] (fun _ => True)
        (Action.reporting (Failure.materializationFailed (some index))
          (Action.ofExcept (Snapshot.read cursor))) :=
      .reporting _ (.quiet fun w => ⟨_, Yields.ofExcept _ w, fun _ _ => trivial⟩)
    have hsnapshot : Performs d c [] (fun _ => True)
        (Snapshot.materialize (backend d).closeCursor cursor (some index)) :=
      (hread.ensure (.closeCursor cursor)).bind_quiet fun _ _ => (Performs.say _ _).bind_quiet
        fun _ _ => .pure trivial
    exact hsnapshot.bind_quiet fun _ _ => .pure trivial

/-- **A statement performs what is planned for it.** -/
theorem performs_runUnit (l : Lease) (hunit : unit.placeholderCount = countPlaceholders unit.sql)
    (batch : Batch) :
    Performs d l.connection (plannedFor l.connection (unit, batch)) (fun _ => True)
      ((backend d).runUnit l unit batch) := by
  have hrun : Performs d l.connection (plannedFor l.connection (unit, batch)) (fun _ => True) (do
      let s ← Action.reporting (Failure.prepareFailed unit.index) ((backend d).prepare l unit.sql)
      let cursor ← Action.reporting (Failure.executionFailed unit.index)
        ((backend d).bindAndExecute s batch)
      (backend d).collect unit.index cursor) := by
    refine ((performs_prepare l hunit).reporting _).bind fun s hs => ?_
    obtain ⟨hconnection, hsql, hbindings⟩ := hs
    rw [← hconnection, ← hsql]
    exact ((performs_bindAndExecute batch hbindings).reporting _).bind_quiet fun cursor _ =>
      performs_collect unit.index cursor
  exact (Performs.say _ _).bind fun _ _ => hrun

/-- **Statements perform what is planned for them**, in order. -/
theorem performs_runUnits (l : Lease) {items : List (StatementUnit × Batch)}
    (hitems : ∀ item ∈ items, item.1.placeholderCount = countPlaceholders item.1.sql) :
    Performs d l.connection (planned l.connection items) (fun _ => True)
      ((backend d).runUnits l items) := by
  induction items with
  | nil => exact .pure trivial
  | cons item items ih =>
    have hitem := hitems item List.mem_cons_self
    have hrest := ih fun item h => hitems item (List.mem_cons_of_mem _ h)
    exact (performs_runUnit l hitem item.2).bind fun _ _ => hrest.bind_quiet fun _ _ =>
      .pure trivial

end Statements

/-! ## The transaction -/

/-- **How a transaction on a connection went**: what was asked for its statements, and how it
ended. It is rolled back, or the whole plan was executed and a commit was tried. -/
structure IsConducted (c : Nat) (plan asked ending : List Call) : Prop where
  there : ∀ call ∈ asked, call.IsOfStatement c
  inOrder : executions asked <+: plan
  ends : ending = [.rollback c] ∨
    executions asked = plan ∧ (ending = [.commit c] ∨ ending = [.commit c, .rollback c])

theorem yields_tell (call : Call) (hcall : call ≠ .closeCursor) (w : World Call (Session σ)) :
    Yields (d.tell call) w [call] (w.outside.afterAll d [call])
      ((d.answer call w.outside.driver).1.map fun _ => ()) := by
  have hask : Yields (d.ask call) w [call] (w.outside.afterAll d [call])
      (d.answer call w.outside.driver).1 := by
    refine ⟨rfl, rfl, ?_⟩
    cases call with
    | closeCursor => exact absurd rfl hcall
    | _ => rfl
  exact hask.bind_map

theorem yields_rollbackAfter (l : Lease) (e : Fault) (w : World Call (Session σ)) :
    ∃ r, Yields ((backend d).rollbackAfter l e) w [.rollback l.connection]
      (w.outside.afterAll d [.rollback l.connection]) r :=
  ⟨_, Yields.say_bind fun _ hw =>
    hw ▸ (yields_tell (.rollback l.connection) nofun _).reporting (Failure.rollbackFailed e)⟩

/-- Ending a transaction after its statements is a commit, and a rollback if that fails. -/
theorem yields_commitOrRollback (l : Lease) (w : World Call (Session σ)) :
    ∃ ending r, Yields ((backend d).commitOrRollback l) w ending (w.outside.afterAll d ending) r ∧
      (ending = [.commit l.connection] ∨
        ending = [.commit l.connection, .rollback l.connection]) := by
  have hcommit := (yields_tell (d := d) (.commit l.connection) nofun w).attempt
  unfold Backend.commitOrRollback
  cases hr : (d.answer (.commit l.connection) w.outside.driver).1 with
  | ok cursor =>
    rw [hr] at hcommit
    exact ⟨_, _, hcommit.bind_quiet (Yields.pure () _), .inl rfl⟩
  | error e =>
    rw [hr] at hcommit
    by_cases he : e.isOrdinary = true
    -- only an ordinary fault is followed by a rollback, and one of the two is raised
    · obtain ⟨r, hrollback⟩ := yields_rollbackAfter (d := d) l
        (.failure { Failure.commitFailed e with cause := none })
        (Action.attempt ((backend d).commit l) w).2
      rw [show ((backend d).commit l).attempt = (d.tell (.commit l.connection)).attempt from rfl,
        hcommit.outside, ← Session.afterAll_append] at hrollback
      have hthen : ∃ q, Yields (do
          (backend d).rollbackAfter l (.failure { Failure.commitFailed e with cause := none })
          throw (.failure (Failure.commitFailed e)))
          (Action.attempt (d.tell (.commit l.connection)) w).2 [.rollback l.connection]
          (w.outside.afterAll d ([.commit l.connection] ++ [.rollback l.connection]))
          (.error q : Except Fault Unit) := by
        cases r with
        | error e' => exact ⟨e', hrollback.bind_error⟩
        | ok _ => exact ⟨_, hrollback.bind_quiet (Yields.throw _ _)⟩
      obtain ⟨q, hthen⟩ := hthen
      refine ⟨_, .error q, hcommit.bind_at ?_, .inr rfl⟩
      simp only [Except.map, he, if_true]
      exact hthen
    · refine ⟨_, .error e, hcommit.bind_quiet ?_, .inl rfl⟩
      simp only [Except.map, he, Bool.false_eq_true, if_false]
      exact Yields.throw e _

/-- **A transaction on a lease**: its statements, and how it ends. -/
theorem yields_settled (l : Lease) {items : List (StatementUnit × Batch)}
    (hitems : ∀ item ∈ items, item.1.placeholderCount = countPlaceholders item.1.sql)
    (w : World Call (Session σ)) :
    ∃ asked ending r, Yields (do
        let result ← Action.onFault ((backend d).runUnits l items) ((backend d).rollbackAfter l)
        (backend d).commitOrRollback l
        return result) w (asked ++ ending) (w.outside.afterAll d (asked ++ ending)) r ∧
      IsConducted l.connection (planned l.connection items) asked ending := by
  obtain ⟨asked, r, hasked, hthere, hprefix, hok⟩ := performs_runUnits (d := d) l hitems w
  cases r with
  | error e =>
    obtain ⟨p, hrollback⟩ := yields_rollbackAfter (d := d) l e ((backend d).runUnits l items w).2
    rw [hasked.outside, ← Session.afterAll_append] at hrollback
    have hfault := hasked.onFault_error_at ((backend d).rollbackAfter l) hrollback
    refine ⟨asked, [.rollback l.connection], p.bind fun _ => .error e, ?_, hthere, hprefix,
      .inl rfl⟩
    cases p <;> exact hfault.bind_error
  | ok outcomes =>
    have hfine : Yields
        (Action.onFault ((backend d).runUnits l items) ((backend d).rollbackAfter l)) w asked
        (w.outside.afterAll d asked) (.ok outcomes) := hasked.onFault_ok
    obtain ⟨ending, q, hending, hshape⟩ := yields_commitOrRollback (d := d) l
      (Action.onFault ((backend d).runUnits l items) ((backend d).rollbackAfter l) w).2
    rw [hfine.outside, ← Session.afterAll_append] at hending
    refine ⟨asked, ending, _, hfine.bind_at (hending.bind_map (g := fun _ => outcomes)), hthere,
      hprefix, .inr ⟨(hok outcomes rfl).1, hshape⟩⟩

/-! ## Leases -/

/-- **Requests are made one after the other**, as far as they are allowed. -/
theorem simulates_trace (d : Driver σ) (allowed : Call → Prop) (before : List Call) :
    Driver.Simulates (Along fun w : World Call (Session σ) =>
      ∃ made, w.trace = before ++ made ∧ ∀ call ∈ made, allowed call) allowed d d where
  ask call hcall := simulates_along.2 fun _ ⟨made, htrace, hmade⟩ => by
    refine ⟨made ++ [call], ?_, fun other hother => ?_⟩
    · rw [← List.append_assoc, ← htrace]
      rfl
    · rcases List.mem_append.1 hother with hother | hother
      · exact hmade other hother
      · rw [List.mem_singleton.1 hother]
        exact hcall
  say _ _ := simulates_along.2 fun _ h => h
  pool := simulates_along.2 fun _ h => h
  updatePool _ := simulates_along.2 fun _ h => h
  nextConnection := simulates_along.2 fun _ h => h
  makeParents _ := simulates_along.2 fun _ h => h
  isInTransaction _ := simulates_along.2 fun _ h => h

/-- What an action asks for that simulates itself along its requests. -/
theorem exists_made {allowed : Call → Prop}
    (ha : ∀ before : List Call, Action.Simulates (Along fun w : World Call (Session σ) =>
      ∃ made, w.trace = before ++ made ∧ ∀ call ∈ made, allowed call) a a)
    (w : World Call (Session σ)) :
    ∃ made, (a w).2.trace = w.trace ++ made ∧ ∀ call ∈ made, allowed call :=
  simulates_along.1 (ha w.trace) w ⟨[], by simp⟩

/-- Whether a request is no commit. -/
def Call.IsNoCommit (call : Call) : Prop := ∀ c, call ≠ .commit c

theorem Call.IsOfStatement.isNoCommit {c : Nat} {call : Call} (h : call.IsOfStatement c) :
    call.IsNoCommit := by
  rcases h with rfl | ⟨_, _, rfl⟩ <;> exact fun _ => nofun

/-- A guarded action that came to an end did so before anything was guarded. -/
theorem of_guarded_ok {database : String} {connection : Option Nat} {x : α}
    {w' : World Call (Session σ)}
    (h : Pool.guarded d database connection a w = (.ok x, w')) : a w = (.ok x, w') := by
  obtain ⟨r, u, hattempt, h⟩ := of_bind_ok h
  have ha := of_attempt_ok hattempt
  cases r with
  | ok y =>
    obtain ⟨hy, rfl⟩ := Prod.mk.inj h
    rw [ha, hy]
  | error e =>
    obtain ⟨_, u', -, h⟩ := of_bind_ok h
    cases congrArg Prod.fst h

/-- **A lease begins with a transaction**: that is the last request made for it, and nothing was
committed before. -/
theorem trace_acquire {l : Lease} {w₁ : World Call (Session σ)}
    (h : Pool.acquire d w = (.ok l, w₁)) :
    ∃ front, w₁.trace = w.trace ++ (front ++ [.execute l.connection Pool.beginText []]) ∧
      ∀ call ∈ front, call.IsNoCommit := by
  have htake := fun before => (simulates_trace d Call.IsNoCommit before).takeSlot.bind fun _ =>
    (simulates_trace d Call.IsNoCommit before).takeConnection (fun _ _ => nofun)
      (fun _ _ _ _ => nofun) fun _ _ _ _ => nofun
  obtain ⟨_, u₁, hslot, h⟩ := of_bind_ok h
  obtain ⟨c, u₂, hconnection, h⟩ := of_bind_ok h
  obtain ⟨p, u₃, hpool, h⟩ := of_bind_ok h
  obtain rfl : u₂ = u₃ := congrArg Prod.snd hpool
  obtain ⟨_, u₄, hguarded, h⟩ := of_bind_ok h
  obtain ⟨cursor, u₅, hbegin, hdone⟩ := of_bind_ok (of_guarded_ok hguarded)
  obtain rfl : u₅ = u₄ := congrArg Prod.snd hdone
  have hc : l.connection = c := congrArg (fun l => Lease.connection l)
    (Except.ok.inj (congrArg Prod.fst h)).symm
  have hlast : w₁.trace = u₅.trace := (congrArg (fun x => x.2.trace) h).symm
  have hasked : u₅.trace = u₂.trace ++ [.execute c Pool.beginText []] :=
    (congrArg (fun x => x.2.trace) hbegin).symm
  obtain ⟨front, hfront, hnone⟩ := exists_made htake w
  rw [Action.bind_of_ok hslot, hconnection] at hfront
  exact ⟨front, by rw [hlast, hasked, hfront, hc, List.append_assoc], hnone⟩

/-! ## Runs -/

section Runs

variable {items : List (StatementUnit × Batch)}
  (hitems : ∀ item ∈ items, item.1.placeholderCount = countPlaceholders item.1.sql)

/-- A lease is acquired in the same way wherever the outside is the same. -/
theorem yields_acquire {r : Except Fault Lease} {w₁ : World Call (Session σ)}
    (hacquire : Pool.acquire d { outside := w.outside } = (r, w₁)) :
    Yields (backend d).acquire w w₁.trace w₁.outside r := by
  have hthere : Yields (Pool.acquire d) { outside := w.outside } w₁.trace w₁.outside r :=
    ⟨by rw [hacquire], by rw [hacquire]; rfl, by rw [hacquire]⟩
  exact (SeesOutside.yields (fun w₀ w₀' => (seesOutside_backend d w₀ w₀').acquire)) hthere rfl

/-- Without a lease a transaction asks for no more than was asked for the lease. -/
theorem yields_transaction_of_error {e : Fault} {w₁ : World Call (Session σ)}
    (hacquire : Pool.acquire d { outside := w.outside } = (.error e, w₁)) :
    Yields ((backend d).transaction fun l => (backend d).runUnits l items) w w₁.trace w₁.outside
      (.error (Backend.reportAcquire e)) := by
  have hhere := yields_acquire hacquire
  exact (hhere.attempt.bind_quiet (Yields.throw (Backend.reportAcquire e) _)).bind_error

include hitems

/-- **A transaction of a pool**: what was asked for the lease, for the statements and their end, and
for giving the lease back. -/
theorem yields_transaction_of_ok {l : Lease} {w₁ : World Call (Session σ)}
    (hacquire : Pool.acquire d { outside := w.outside } = (.ok l, w₁)) :
    ∃ asked ending r, IsConducted l.connection (planned l.connection items) asked ending ∧
      let returned := (Pool.release d l { outside := w₁.outside.afterAll d (asked ++ ending) }).2
      Yields ((backend d).transaction fun l => (backend d).runUnits l items) w
        (w₁.trace ++ (asked ++ ending ++ returned.trace)) returned.outside r := by
  have hconnection : Yields (backend d).acquireConnection w w₁.trace w₁.outside (.ok l) :=
    (yields_acquire hacquire).attempt.bind_quiet (Yields.pure l _)
  obtain ⟨asked, ending, r, hsettled, hconducted⟩ := yields_settled (d := d) l hitems
    ((backend d).acquireConnection w).2
  rw [hconnection.outside] at hsettled
  let returned := Pool.release d l { outside := w₁.outside.afterAll d (asked ++ ending) }
  have hreturned : Yields ((backend d).release l)
      { outside := w₁.outside.afterAll d (asked ++ ending) } returned.2.trace returned.2.outside
      returned.1 := ⟨rfl, rfl, rfl⟩
  have hended := hsettled.ensure fun u hu =>
    SeesOutside.yields (fun w₀ w₀' => (seesOutside_backend d w₀ w₀').release l) hreturned hu
  exact ⟨asked, ending, _, hconducted, hconnection.bind_at hended⟩

end Runs

/-- **What a run on a pool comes to**: the requests for statements with their batches, and the pool
that they leave. Statements need a lease, which may be refused; with one they are asked for and
ended, and it is given back. -/
inductive Comes (d : Driver σ) (s : Session σ) (items : List (StatementUnit × Batch)) :
    List Call → Session σ → Prop where
  | idle (h : items = []) : Comes d s items [] s
  | refused {e : Fault} {w : World Call (Session σ)} (h : items ≠ [])
      (hacquire : Pool.acquire d { outside := s } = (.error e, w)) :
      Comes d s items w.trace w.outside
  | leased {l : Lease} {w returned : World Call (Session σ)} {asked ending : List Call}
      (h : items ≠ []) (hacquire : Pool.acquire d { outside := s } = (.ok l, w))
      (hconducted : IsConducted l.connection (planned l.connection items) asked ending)
      (hreturned :
        (Pool.release d l { outside := w.outside.afterAll d (asked ++ ending) }).2 = returned) :
      Comes d s items (w.trace ++ (asked ++ ending ++ returned.trace)) returned.outside

/-- The runner on a pool over a driver. -/
def runner (d : Driver σ) (loader : Loader) (strict : Bool) :
    Runner Call (Session σ) Lease Prepared := ⟨backend d, loader, strict⟩

theorem placeholderCount_ofText (index : Nat) (sql : String) :
    (StatementUnit.ofText index sql).placeholderCount =
      countPlaceholders (StatementUnit.ofText index sql).sql := rfl

theorem comes_executeUnits (loader : Loader) (strict : Bool) {units : List StatementUnit}
    {batches : List Batch} (hlength : batches.length = units.length)
    (hunits : ∀ unit ∈ units, unit.placeholderCount = countPlaceholders unit.sql)
    (w : World Call (Session σ)) :
    ∃ calls s r, Comes d w.outside (units.zip batches) calls s ∧
      Yields ((runner d loader strict).executeUnits units batches) w calls s r := by
  by_cases hnone : units = []
  · subst hnone
    obtain rfl := List.length_eq_zero_iff.1 hlength
    exact ⟨[], w.outside, _, .idle rfl, (runner d loader strict).executeUnits_nil w⟩
  have hsome : units.zip batches ≠ [] := by
    rw [Ne, ← List.length_eq_zero_iff, List.length_zip, hlength, Nat.min_self,
      List.length_eq_zero_iff]
    exact hnone
  have hitems : ∀ item ∈ units.zip batches, item.1.placeholderCount =
      countPlaceholders item.1.sql := fun item hitem => hunits _ (List.of_mem_zip hitem).1
  -- whether there is a lease is up to the pool alone, not to the clock or the log
  cases hacquire : Pool.acquire d { outside := w.outside } with
  | mk r w₁ =>
    cases r with
    | error e =>
      have h : Yields ((backend d).transaction fun l => (backend d).runUnits l (units.zip batches))
          w.tick w₁.trace w₁.outside _ := yields_transaction_of_error hacquire
      exact ⟨_, _, _, .refused hsome hacquire,
        (runner d loader strict).yields_executeUnits_of hlength hnone h⟩
    | ok l =>
      obtain ⟨asked, ending, r, hconducted, h⟩ := yields_transaction_of_ok hitems (w := w.tick)
        hacquire
      exact ⟨_, _, _, .leased hsome hacquire hconducted rfl,
        (runner d loader strict).yields_executeUnits_of hlength hnone h⟩

/-- **A script comes to its statements** with the batches that are dealt out to them. -/
theorem comes_runScript (loader : Loader) (strict : Bool) (script : String)
    (parameters : List Value) (w : World Call (Session σ)) :
    ∃ calls s r, Comes d w.outside (scriptItems script parameters strict) calls s ∧
      Yields ((runner d loader strict).runScript script parameters) w calls s r := by
  have hdeal := (runner d loader strict).yields_allocateBatches (parseScript script) parameters w
  unfold scriptItems
  cases hbatches : (allocate (parseScript script) parameters strict).map (·.1) with
  | error f =>
    rw [show (runner d loader strict).strictParameters = strict from rfl, hbatches] at hdeal
    exact ⟨[], w.outside, _, .idle List.zip_nil_right, hdeal.bind_error⟩
  | ok batches =>
    rw [show (runner d loader strict).strictParameters = strict from rfl, hbatches] at hdeal
    obtain ⟨calls, s, r, hcomes, hrun⟩ := comes_executeUnits (d := d) loader strict
      (length_of_allocate hbatches) (fun _ => placeholderCount_of_mem_parseScript)
      ((runner d loader strict).allocateBatches (parseScript script) parameters w).2
    rw [hdeal.outside] at hcomes
    exact ⟨calls, s, r, hcomes, hdeal.bind_at hrun⟩

/-- **A single statement comes to itself** with all parameters. -/
theorem comes_runStatement (loader : Loader) (strict : Bool) (text : String)
    (parameters : List Value) (w : World Call (Session σ)) :
    ∃ calls s r, Comes d w.outside (statementItems text parameters) calls s ∧
      Yields ((runner d loader strict).runStatement text parameters) w calls s r := by
  unfold statementItems Runner.runStatement
  by_cases htext : split text = []
  · rw [if_pos htext, if_pos htext]
    exact ⟨[], w.outside, _, .idle rfl, Yields.say_bind fun u hu => hu ▸ Yields.pure none u⟩
  · rw [if_neg htext, if_neg htext]
    have hunits : ∀ unit ∈ [parseStatement text],
        unit.placeholderCount = countPlaceholders unit.sql := by
      intro unit hunit
      rw [List.mem_singleton.1 hunit]
      exact placeholderCount_ofText ..
    have hlength : [parameters].length = [parseStatement text].length := rfl
    obtain ⟨calls, s, r, hcomes, hrun⟩ :=
      comes_executeUnits (d := d) loader strict hlength hunits w
    exact ⟨calls, s, _, hcomes, hrun.bind_map⟩

/-! ## Scripts -/

/-- A batch has at most one value for each placeholder of its statement. -/
theorem length_le_of_mem_dealt {units : List StatementUnit} {parameters : List Value}
    {item : StatementUnit × Batch} (h : item ∈ dealt units parameters) :
    item.2.length ≤ item.1.placeholderCount := by
  induction units generalizing parameters with
  | nil => cases h
  | cons unit units ih =>
    have hdealt : dealt (unit :: units) parameters =
        (unit, parameters.take unit.placeholderCount) ::
          dealt units (parameters.drop unit.placeholderCount) := rfl
    rw [hdealt] at h
    rcases List.mem_cons.1 h with rfl | h
    · exact List.length_take_le ..
    · exact ih h

/-- The batches are slices of the parameters, one after the other. -/
theorem flatten_dealt_prefix (units : List StatementUnit) (parameters : List Value) :
    ((dealt units parameters).map (·.2)).flatten <+: parameters := by
  have hbatches : (dealt units parameters).map (·.2) =
      (deal (placeholderCounts units) parameters).1 := by
    refine List.map_snd_zip (Nat.le_of_eq ?_)
    rw [length_deal, placeholderCounts, List.length_map]
  rw [hbatches]
  exact ⟨_, flatten_deal (placeholderCounts units) parameters⟩

/-- The statements of a script with their batches, unless the parameters are refused. -/
theorem scriptItems_eq (script : String) (parameters : List Value) (strict : Bool) :
    scriptItems script parameters strict =
      if strict = true ∧ (placeholderCounts (parseScript script)).sum < parameters.length then []
      else dealt (parseScript script) parameters := by
  have hcases := allocate_cases (parseScript script) parameters strict
  unfold scriptItems
  split at hcases
  · rename_i hrefused
    obtain ⟨left, taken, hallocate⟩ := hcases
    rw [if_pos hrefused, hallocate]
    exact List.zip_nil_right
  · rename_i hfine
    obtain ⟨batches, hallocate, hitems⟩ := hcases
    rw [if_neg hfine, hallocate, ← hitems]
    rfl

/-- **What a run asks for on its connection**, after it was acquired with the requests `front`. -/
structure Conducts (c : Nat) (plan front asked ending : List Call) : Prop where
  /-- Between the beginning of the transaction and its end there are requests of statements on the
  connection, and no others. -/
  there : ∀ call ∈ asked, call.IsOfStatement c
  /-- The executions among them are a start of the plan. -/
  inOrder : executions asked <+: plan
  /-- Then the runner commits or rolls back. -/
  ends : ending.head? = some (.commit c) ∨ ending.head? = some (.rollback c)
  /-- If there is a commit, the plan was executed as a whole. -/
  whole : ∀ c', Call.commit c' ∈ front ++ asked ++ ending → executions asked = plan

/-- What a transaction asks for, between a lease that was acquired and given back without a
commit. -/
theorem IsConducted.conducts {plan asked ending front given : List Call}
    (h : IsConducted c plan asked ending) (hfront : ∀ call ∈ front, call.IsNoCommit)
    (hgiven : ∀ call ∈ given, call.IsNoCommit) : Conducts c plan front asked (ending ++ given) where
  there := h.there
  inOrder := h.inOrder
  ends := by
    rcases h.ends with hends | ⟨-, hends | hends⟩
    · exact .inr (by rw [hends]; rfl)
    · exact .inl (by rw [hends]; rfl)
    · exact .inl (by rw [hends]; rfl)
  whole := by
    intro c' hcommit
    rcases h.ends with hends | ⟨hwhole, -⟩
    · -- neither the lease nor the statements nor the rollback commit
      have hasked : ∀ call ∈ asked, call.IsNoCommit := fun call hcall =>
        (h.there call hcall).isNoCommit
      have hending : ∀ call ∈ ending ++ given, call.IsNoCommit := by
        rw [hends]
        exact List.forall_mem_cons.2 ⟨fun _ => nofun, hgiven⟩
      have hnone := List.forall_mem_append.2 ⟨List.forall_mem_append.2 ⟨hfront, hasked⟩, hending⟩
      exact absurd rfl (hnone _ hcommit c')
    · exact hwhole

/-- Without statements nothing is asked for. -/
theorem Comes.eq_nil {s s' : Session σ} {calls : List Call} (h : Comes d s [] calls s') :
    calls = [] := by
  cases h with
  | idle _ => rfl
  | refused h _ => exact absurd rfl h
  | leased h _ _ _ => exact absurd rfl h

/-- With statements a lease is asked for, and what follows is conducted on it. -/
theorem Comes.conducts {items : List (StatementUnit × Batch)} {s s' : Session σ} {calls : List Call}
    (h : Comes d s items calls s') (hitems : items ≠ []) (hw : w.outside = s) :
    match Pool.acquire d w with
    | (.error _, w₁) => w.trace ++ calls = w₁.trace
    | (.ok l, w₁) => ∃ front asked ending,
      w₁.trace = w.trace ++ (front ++ [.execute l.connection Pool.beginText []]) ∧
      w.trace ++ calls = w₁.trace ++ (asked ++ ending) ∧
      Conducts l.connection (planned l.connection items) front asked ending := by
  subst hw
  cases h with
  | idle h => exact absurd h hitems
  | refused _ hacquire =>
    have hhere : Yields (Pool.acquire d) w _ _ _ := yields_acquire hacquire
    rw [hhere.eq]
    exact hhere.trace.symm
  | @leased l w' returned asked ending _ hacquire hconducted hreturned =>
    have hhere : Yields (Pool.acquire d) w _ _ _ := yields_acquire hacquire
    obtain ⟨front, hfront, hnone⟩ := trace_acquire hhere.eq
    obtain ⟨given, hgiven, hnever⟩ := exists_made (fun before =>
      (simulates_trace d Call.IsNoCommit before).release (fun _ _ => nofun) (fun _ _ => nofun) l)
      { outside := w'.outside.afterAll d (asked ++ ending) }
    rw [hreturned] at hgiven
    have hgiven : returned.trace = given := hgiven
    rw [hhere.eq]
    refine ⟨front, asked, ending ++ given, hfront, ?_, hconducted.conducts hnone hnever⟩
    rw [hhere.trace, hgiven]
    simp only [List.append_assoc]

/-- **What a script asks to be executed.** Its statements get slices of the parameters, none longer
than it has placeholders. If there is a statement and the parameters are not refused, a connection
is acquired; on it a start of what is planned for the statements is executed, and all of it if there
is a commit. -/
theorem conducts_runScript (d : Driver σ) (loader : Loader) (strict : Bool) (script : String)
    (parameters : List Value) (w : World Call (Session σ)) :
    let units := parseScript script
    let items := dealt units parameters
    let after := ((runner d loader strict).runScript script parameters w).2
    (items.map (·.1) = units ∧ (items.map (·.2)).flatten <+: parameters ∧
      ∀ item ∈ items, item.2.length ≤ item.1.placeholderCount) ∧
    if units = [] ∨ strict = true ∧ (placeholderCounts units).sum < parameters.length then
      after.trace = w.trace
    else match Pool.acquire d w with
      | (.error _, w₁) => after.trace = w₁.trace
      | (.ok l, w₁) => ∃ front asked ending,
        w₁.trace = w.trace ++ (front ++ [.execute l.connection Pool.beginText []]) ∧
        after.trace = w₁.trace ++ (asked ++ ending) ∧
        Conducts l.connection (planned l.connection items) front asked ending := by
  intro units items after
  have hslices : items.map (·.1) = units ∧ (items.map (·.2)).flatten <+: parameters ∧
      ∀ item ∈ items, item.2.length ≤ item.1.placeholderCount :=
    ⟨map_fst_dealt units parameters, flatten_dealt_prefix units parameters,
      fun _ hitem => length_le_of_mem_dealt hitem⟩
  obtain ⟨calls, s, r, hcomes, hrun⟩ := comes_runScript (d := d) loader strict script parameters w
  have hafter : after.trace = w.trace ++ calls := hrun.trace
  refine ⟨hslices, ?_⟩
  split
  · rename_i hquiet
    rw [hafter]
    rcases hquiet with hnone | hrefused
    · have hunits : parseScript script = [] := hnone
      rw [scriptItems, hunits, List.zip_nil_left] at hcomes
      rw [hcomes.eq_nil, List.append_nil]
    · rw [scriptItems_eq, if_pos hrefused] at hcomes
      rw [hcomes.eq_nil, List.append_nil]
  · rename_i hloud
    obtain ⟨hsome, hfine⟩ := not_or.1 hloud
    have hitems : items ≠ [] := by
      intro hnone
      have hfst := hslices.1
      rw [hnone] at hfst
      exact hsome hfst.symm
    rw [scriptItems_eq, if_neg hfine] at hcomes
    rw [hafter]
    exact hcomes.conducts hitems rfl

end SqlScript.Sqlite
