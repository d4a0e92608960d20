import SqlScript.Proofs.Executions
import SqlScript.Proofs.PoolStep

/-!
# Runs that come to their end

What a run asked of SQLite that raised nothing, told with the answers: each statement was compiled,
executed with its batch, and its rows were read and its cursor was closed without a fault; then the
transaction was committed, once. Only giving the connection back can still roll back, and only what
the commit left open.

* `Sqlite.Driver.Ran`: statements that ran on a connection.
* `Sqlite.Driver.Ran.executions`: they are executed as planned.
* `Sqlite.of_runUnits_ok`: what running statements without a fault asked for.
* `Sqlite.Commits`: a transaction that was committed.
* `Sqlite.commits_of_transaction_ok`: **a transaction that raises nothing was committed.**
* `Sqlite.settles_of_executeUnits_ok`: what statements that raise nothing ask for.
-/

namespace SqlScript

namespace Action

variable {ω α : Type} {a : Action ω α} {w w' : ω} {x : α}

/-- An action with a clean-up that came to an end, and so did the clean-up. -/
theorem cleanup_of_ensure_ok {cleanup : Action ω Unit} (h : ensure a cleanup w = (.ok x, w')) :
    ∃ w₁, a w = (.ok x, w₁) ∧ cleanup w₁ = (.ok (), w') := by
  obtain ⟨w₁, ha⟩ := of_ensure_ok h
  refine ⟨w₁, ha, ?_⟩
  unfold ensure at h
  rw [ha] at h
  simp only at h
  cases hc : cleanup w₁ with
  | mk p w₂ =>
    rw [hc] at h
    cases p with
    | error e => cases h
    | ok _ => rw [(Prod.mk.inj h).2]

/-- An action with a clean-up that raises nothing. -/
theorem ensure_of_ok {cleanup : Action ω Unit} {r : Except Fault α} {w₁ : ω} (ha : a w = (r, w₁))
    (hc : cleanup w₁ = (.ok (), w')) : ensure a cleanup w = (r, w') := by
  unfold ensure
  rw [ha]
  simp only [hc]

/-- An action whose faults are reported came to an end without one. -/
theorem of_reporting_ok {report : Fault → Failure} (h : reporting report a w = (.ok x, w')) :
    a w = (.ok x, w') := by
  unfold reporting at h
  cases ha : a w with
  | mk r w₁ =>
    rw [ha] at h
    cases r with
    | error e => cases h
    | ok y => exact h

end Action

namespace Sqlite

open SqlScript.Action

variable {σ α β : Type}

/-! ## Statements that ran -/

/-- **A statement that was compiled** on a connection: explained without a fault, unless it asks for
an explanation itself. -/
inductive Driver.Compiled (d : Driver σ) (c : Nat) (unit : StatementUnit) (s : σ) :
    List Call → σ → Prop
  | itself : explanationFor c unit = [] → Compiled d c unit s [] s
  | explained {call : Call} {cursor : Cursor} {s' : σ} : explanationFor c unit = [call] →
      d.answer call s = (.ok cursor, s') → cursor.closeFault = none →
      Compiled d c unit s [call, .closeCursor] s'

/-- **Statements that ran** on a connection, in order, and the state that they left: each was
compiled and executed with its batch, and its cursor has no flaw. -/
inductive Driver.Ran (d : Driver σ) (c : Nat) :
    σ → List (StatementUnit × Batch) → List Call → σ → Prop
  | nil (s : σ) : Ran d c s [] [] s
  | cons {unit : StatementUnit} {batch : Batch} {items : List (StatementUnit × Batch)}
      {compiling calls : List Call} {cursor : Cursor} {s s₁ s₂ s₃ : σ} :
      d.Compiled c unit s compiling s₁ →
      d.answer (.execute c unit.sql batch) s₁ = (.ok cursor, s₂) → cursor.flaw? = none →
      Ran d c s₂ items calls s₃ →
      Ran d c s ((unit, batch) :: items)
        (compiling ++ .execute c unit.sql batch :: .closeCursor :: calls) s₃

variable {d : Driver σ} {c : Nat} {unit : StatementUnit} {s s' : σ} {calls : List Call}

theorem Driver.Compiled.executions (h : d.Compiled c unit s calls s') :
    executions calls = explanationFor c unit := by
  cases h with
  | itself h => exact h.symm
  | explained h _ _ =>
    rw [h]
    unfold explanationFor at h
    split at h
    · cases h
    · rw [← (List.cons.inj h).1]
      rfl

/-- **Statements that ran were executed as planned.** -/
theorem Driver.Ran.executions {items : List (StatementUnit × Batch)}
    (h : d.Ran c s items calls s') : executions calls = planned c items := by
  induction h with
  | nil => rfl
  | @cons unit batch items compiling calls cursor s s₁ s₂ s₃ hcompiled hanswer hflaw hran ih =>
    have hhere : Sqlite.executions (.execute c unit.sql batch :: .closeCursor :: calls) =
        .execute c unit.sql batch :: Sqlite.executions calls := rfl
    rw [executions_append, hcompiled.executions, hhere, ih]
    simp [planned, plannedFor]

/-! ## Steps -/

/-- **A world after requests** of which nothing but the driver took notice. -/
structure Leads (w : World Call (Session σ)) (calls : List Call) (s : σ)
    (w' : World Call (Session σ)) : Prop where
  trace : w'.trace = w.trace ++ calls
  outside : w'.outside = { w.outside with driver := s }

namespace Leads

variable {w w₁ w₂ : World Call (Session σ)} {more : List Call}

theorem refl (w : World Call (Session σ)) : Leads w [] w.outside.driver w :=
  ⟨(List.append_nil _).symm, rfl⟩

theorem driver (h : Leads w calls s w₁) : w₁.outside.driver = s := by rw [h.outside]

theorem trans (h : Leads w calls s w₁) (h' : Leads w₁ more s' w₂) :
    Leads w (calls ++ more) s' w₂ where
  trace := by rw [h'.trace, h.trace, List.append_assoc]
  outside := by rw [h'.outside, h.outside]

end Leads

section Steps

variable {w w' : World Call (Session σ)}

/-- A request that was answered without a fault. -/
theorem of_ask_ok {call : Call} {cursor : Cursor} (h : d.ask call w = (.ok cursor, w')) :
    ∃ s', d.answer call w.outside.driver = (.ok cursor, s') ∧ Leads w [call] s' w' := by
  obtain ⟨hanswer, rfl⟩ := Prod.mk.inj h
  exact ⟨(d.answer call w.outside.driver).2, Prod.ext hanswer rfl, rfl, rfl⟩

/-- A request whose answer does not matter, but was no fault. -/
theorem of_tell_ok {call : Call} {x : Unit} (h : d.tell call w = (.ok x, w')) :
    ∃ cursor s', d.answer call w.outside.driver = (.ok cursor, s') ∧ Leads w [call] s' w' := by
  obtain ⟨cursor, w₁, hask, hdone⟩ := of_bind_ok h
  obtain rfl : w₁ = w' := congrArg Prod.snd hdone
  exact ⟨cursor, of_ask_ok hask⟩

theorem of_closeCursor_ok {cursor : Cursor} {x : Unit}
    (h : World.closeCursor Call.closeCursor cursor w = (.ok x, w')) :
    cursor.closeFault = none ∧ Leads w [.closeCursor] w.outside.driver w' := by
  unfold World.closeCursor at h
  cases hf : cursor.closeFault with
  | some e =>
    rw [hf] at h
    cases congrArg Prod.fst h
  | none =>
    rw [hf] at h
    rw [← (Prod.mk.inj h).2]
    exact ⟨rfl, rfl, rfl⟩

theorem of_say_ok {level : LogLevel} {message : String} {x : Unit}
    (h : (World.say level message : PoolAction σ Unit) w = (.ok x, w')) :
    Leads w [] w.outside.driver w' := by
  obtain ⟨-, rfl⟩ := Prod.mk.inj h
  exact ⟨(List.append_nil _).symm, rfl⟩

/-- A statement that was prepared was compiled, and has no values yet. -/
theorem of_prepare_ok (hunit : unit.placeholderCount = countPlaceholders unit.sql) {l : Lease}
    {p : Prepared} (h : (backend d).prepare l unit.sql w = (.ok p, w')) :
    p.connection = l.connection ∧ p.sql = unit.sql ∧ p.bindings = [] ∧
      ∃ calls s', d.Compiled l.connection unit w.outside.driver calls s' ∧ Leads w calls s' w' := by
  obtain ⟨_, w₁, hcompile, hdone⟩ := of_bind_ok h
  obtain rfl : w₁ = w' := congrArg Prod.snd hdone
  obtain rfl := Except.ok.inj (congrArg Prod.fst hdone)
  refine ⟨rfl, rfl, rfl, ?_⟩
  have hasks : Prepared.asksExplanation unit.sql = true ↔
      ((Text.trimLeft unit.sql.toList).take 7).map Text.capital = "EXPLAIN".toList := by
    unfold Prepared.asksExplanation Text.spells
    rw [beq_iff_eq]
    rfl
  unfold Prepared.compile at hcompile
  split at hcompile
  · rename_i hword
    obtain rfl : w = w₁ := congrArg Prod.snd hcompile
    exact ⟨[], w.outside.driver, .itself (if_pos (hasks.1 hword)), .refl w⟩
  · rename_i hword
    obtain ⟨cursor, w₂, hask, hclose⟩ := of_bind_ok hcompile
    obtain ⟨s', hanswer, hasked⟩ := of_ask_ok hask
    obtain ⟨hfault, hclosed⟩ := of_closeCursor_ok hclose
    rw [hasked.driver] at hclosed
    have hplan : explanationFor l.connection unit = [.execute l.connection
        (Prepared.explanation unit.sql)
        (List.replicate (countPlaceholders unit.sql) .null)] := by
      rw [← hunit]
      exact if_neg (mt hasks.2 hword)
    exact ⟨_, s', .explained hplan hanswer hfault, hasked.trans hclosed⟩

/-- Values are bound without a request. -/
theorem of_bindFrom_ok {batch : Batch} {position : Int} {p p' : Prepared}
    (h : (backend d).bindFrom position p batch w = (.ok p', w')) :
    p' = { p with bindings := p.bindings.bindFrom position batch } ∧ w' = w := by
  induction batch generalizing position p with
  | nil =>
    obtain ⟨hp, hw⟩ := Prod.mk.inj h
    exact ⟨(Except.ok.inj hp).symm, hw.symm⟩
  | cons value batch ih =>
    obtain ⟨p₁, w₁, hbind, hrest⟩ := of_bind_ok h
    obtain ⟨hp, rfl⟩ := Prod.mk.inj hbind
    unfold Prepared.bind at hp
    split at hp
    · cases hp
    · obtain rfl := Except.ok.inj hp
      exact ih hrest

/-- A statement that was executed with a batch. -/
theorem of_bindAndExecute_ok {batch : Batch} {p : Prepared} {cursor : Cursor}
    (hp : p.bindings = []) (h : (backend d).bindAndExecute p batch w = (.ok cursor, w')) :
    ∃ s', d.answer (.execute p.connection p.sql batch) w.outside.driver = (.ok cursor, s') ∧
      Leads w [.execute p.connection p.sql batch] s' w' := by
  obtain ⟨p', w₁, hbind, hexecute⟩ := of_bind_ok h
  obtain ⟨rfl, rfl⟩ := of_bindFrom_ok hbind
  have hvalues : (p.bindings.bindFrom 1 batch).values = batch := by
    rw [hp]
    exact Bindings.values_bindFrom_nil 1 batch
  obtain ⟨s', hanswer, hasked⟩ := of_ask_ok hexecute
  rw [hvalues] at hanswer hasked
  exact ⟨s', hanswer, hasked⟩

/-- A cursor that was read and closed without a fault has no flaw. -/
theorem of_collect_ok {index : Int} {cursor : Cursor} {outcome : Outcome}
    (h : (backend d).collect index cursor w = (.ok outcome, w')) :
    cursor.flaw? = none ∧ Leads w [.closeCursor] w.outside.driver w' := by
  unfold Backend.collect at h
  unfold Cursor.flaw?
  split at h
  · rename_i hcolumns
    obtain ⟨_, w₁, hsay, h⟩ := of_bind_ok h
    obtain ⟨_, w₂, hclose, hdone⟩ := of_bind_ok h
    obtain rfl : w₂ = w' := congrArg Prod.snd hdone
    obtain ⟨hfault, hclosed⟩ := of_closeCursor_ok hclose
    have hsaid := of_say_ok hsay
    rw [hsaid.driver] at hclosed
    rw [hfault, if_pos hcolumns]
    exact ⟨rfl, hsaid.trans hclosed⟩
  · rename_i hcolumns
    obtain ⟨snapshot, w₁, hmaterialize, hdone⟩ := of_bind_ok h
    obtain rfl : w₁ = w' := congrArg Prod.snd hdone
    obtain ⟨rows, w₂, hensure, hnote⟩ := of_bind_ok hmaterialize
    obtain ⟨w₃, hreporting, hclose⟩ := cleanup_of_ensure_ok hensure
    obtain ⟨hread, rfl⟩ := Prod.mk.inj (of_reporting_ok hreporting)
    obtain ⟨hfault, hclosed⟩ := of_closeCursor_ok hclose
    obtain ⟨_, w₄, hsay, hnoted⟩ := of_bind_ok hnote
    obtain rfl : w₄ = w₁ := congrArg Prod.snd hnoted
    have hsaid := of_say_ok hsay
    rw [hclosed.driver] at hsaid
    rw [hfault, if_neg hcolumns, hread]
    exact ⟨rfl, by simpa using hclosed.trans hsaid⟩

/-! ## Runs -/

variable {l : Lease} {batch : Batch} {items : List (StatementUnit × Batch)}

/-- **One statement that ran.** -/
theorem of_runUnit_ok (hunit : unit.placeholderCount = countPlaceholders unit.sql)
    {outcome : Outcome} (h : (backend d).runUnit l unit batch w = (.ok outcome, w')) :
    ∃ compiling cursor s₁ s₂, d.Compiled l.connection unit w.outside.driver compiling s₁ ∧
      d.answer (.execute l.connection unit.sql batch) s₁ = (.ok cursor, s₂) ∧
      cursor.flaw? = none ∧
      Leads w (compiling ++ [.execute l.connection unit.sql batch, .closeCursor]) s₂ w' := by
  obtain ⟨_, w₁, hsay, h⟩ := of_bind_ok h
  obtain ⟨p, w₂, hprepare, h⟩ := of_bind_ok h
  obtain ⟨cursor, w₃, hexecute, hcollect⟩ := of_bind_ok h
  have hsaid := of_say_ok hsay
  obtain ⟨hconnection, hsql, hbindings, compiling, s₁, hcompiled, hprepared⟩ :=
    of_prepare_ok hunit (of_reporting_ok hprepare)
  obtain ⟨s₂, hanswer, hexecuted⟩ := of_bindAndExecute_ok hbindings (of_reporting_ok hexecute)
  obtain ⟨hflaw, hclosed⟩ := of_collect_ok hcollect
  rw [hconnection, hsql, hprepared.driver] at hanswer
  rw [hconnection, hsql] at hexecuted
  rw [hsaid.driver] at hcompiled
  rw [hexecuted.driver] at hclosed
  exact ⟨compiling, cursor, s₁, s₂, hcompiled, hanswer, hflaw,
    by simpa using (hsaid.trans hprepared).trans (hexecuted.trans hclosed)⟩

/-- **Statements in order that raised nothing ran.** -/
theorem of_runUnits_ok
    (hitems : ∀ item ∈ items, item.1.placeholderCount = countPlaceholders item.1.sql)
    {outcomes : List Outcome} (h : (backend d).runUnits l items w = (.ok outcomes, w')) :
    ∃ calls s', d.Ran l.connection w.outside.driver items calls s' ∧ Leads w calls s' w' := by
  induction items generalizing w outcomes with
  | nil =>
    obtain ⟨-, rfl⟩ := Prod.mk.inj h
    exact ⟨[], _, .nil _, .refl w⟩
  | cons item items ih =>
    obtain ⟨unit, batch⟩ := item
    obtain ⟨outcome, w₁, hunit, h⟩ := of_bind_ok h
    obtain ⟨rest, w₂, hrest, hdone⟩ := of_bind_ok h
    obtain ⟨-, rfl⟩ := Prod.mk.inj hdone
    obtain ⟨compiling, cursor, s₁, s₂, hcompiled, hanswer, hflaw, hran⟩ :=
      of_runUnit_ok (hitems _ List.mem_cons_self) hunit
    obtain ⟨calls, s', hrest, hmore⟩ := ih (fun item h => hitems item (List.mem_cons_of_mem _ h))
      hrest
    rw [hran.driver] at hrest
    exact ⟨_, s', .cons hcompiled hanswer hflaw hrest, by simpa using hran.trans hmore⟩

end Steps

/-! ## Committing -/

/-- A request that ends a transaction. -/
def Call.Ends (call : Call) : Prop := (∃ c, call = .commit c) ∨ ∃ c, call = .rollback c

/-- **A transaction that was committed** on a pool, with all that it asked for: a connection on
which it began, its statements, one commit, and what the pool asked for when it took the connection
back. The only rollback there can be is that of the pool, if the commit left a transaction open. -/
inductive Commits (d : Driver σ) (s : Session σ) (items : List (StatementUnit × Batch)) :
    List Call → Prop
  | intro {l : Lease} {w w₁ : World Call (Session σ)} {front asked given : List Call} {s₂ s₃ : σ}
      {reply : Cursor} : w.outside = s → Pool.acquire d w = (.ok l, w₁) →
      w₁.trace = w.trace ++ (front ++ [.execute l.connection Pool.beginText []]) →
      (∀ call ∈ front, ¬ call.Ends) → d.Ran l.connection w₁.outside.driver items asked s₂ →
      d.answer (.commit l.connection) s₂ = (.ok reply, s₃) →
      (∀ call ∈ given, call.Ends →
        (∃ c, call = .rollback c) ∧ d.inTransaction s₃ l.connection = true) →
      Commits d s items (front ++ .execute l.connection Pool.beginText [] ::
        (asked ++ .commit l.connection :: given))

/-- A request to commit. -/
def Call.isCommit : Call → Bool
  | .commit _ => true
  | _ => false

theorem Call.isCommit_eq_false {call : Call} (h : ¬ call.Ends) : call.isCommit = false := by
  cases call with
  | commit c => exact absurd (.inl ⟨c, rfl⟩) h
  | _ => rfl

/-- Statements that ran ended no transaction. -/
theorem Driver.Ran.not_ends {items : List (StatementUnit × Batch)} (h : d.Ran c s items calls s') :
    ∀ call ∈ calls, ¬ call.Ends := by
  induction h with
  | nil => simp
  | @cons unit batch items compiling calls cursor s s₁ s₂ s₃ hcompiled _ _ _ ih =>
    have hcompiling : ∀ call ∈ compiling, ¬ call.Ends := by
      cases hcompiled with
      | itself _ => simp
      | explained hplan _ _ =>
        unfold explanationFor at hplan
        split at hplan
        · cases hplan
        · rw [← (List.cons.inj hplan).1]
          simp [Call.Ends]
    intro call hcall
    rcases List.mem_append.1 hcall with hcall | hcall
    · exact hcompiling call hcall
    · rcases List.mem_cons.1 hcall with rfl | hcall
      · simp [Call.Ends]
      · rcases List.mem_cons.1 hcall with rfl | hcall
        · simp [Call.Ends]
        · exact ih call hcall

/-- **A transaction is committed once.** -/
theorem Commits.once {s : Session σ} {items : List (StatementUnit × Batch)}
    (h : Commits d s items calls) : calls.countP Call.isCommit = 1 := by
  cases h with
  | @intro l w w₁ front asked given s₂ s₃ reply _ _ _ hfront hran _ hgiven =>
    have hnone : ∀ {some : List Call}, (∀ call ∈ some, ¬ call.Ends) →
        some.countP Call.isCommit = 0 := fun h =>
      List.countP_eq_zero.2 fun call hcall => by simp [Call.isCommit_eq_false (h call hcall)]
    have hlast : given.countP Call.isCommit = 0 := by
      refine List.countP_eq_zero.2 fun call hcall hcommit => ?_
      cases call with
      | commit c =>
        obtain ⟨⟨c', hc'⟩, -⟩ := hgiven _ hcall (.inl ⟨c, rfl⟩)
        cases hc'
      | _ => cases hcommit
    rw [List.countP_append, hnone hfront, List.countP_cons, List.countP_append,
      hnone hran.not_ends, List.countP_cons, hlast]
    rfl

/-- What is asked for after a committed transaction, if it ends none. -/
theorem Commits.append {s : Session σ} {items : List (StatementUnit × Batch)} {more : List Call}
    (h : Commits d s items calls) (hmore : ∀ call ∈ more, ¬ call.Ends) :
    Commits d s items (calls ++ more) := by
  cases h with
  | @intro l w w₁ front asked given s₂ s₃ reply hw hacquire htrace hfront hran hanswer hgiven =>
    have hall : ∀ call ∈ given ++ more, call.Ends →
        (∃ c, call = .rollback c) ∧ d.inTransaction s₃ l.connection = true := by
      intro call hcall hends
      rcases List.mem_append.1 hcall with hcall | hcall
      · exact hgiven call hcall hends
      · exact absurd hends (hmore call hcall)
    simpa using Commits.intro hw hacquire htrace hfront hran hanswer hall

section Transactions

variable {l : Lease} {w w' : World Call (Session σ)} {items : List (StatementUnit × Batch)}

/-- **A lease that was acquired** begins with a transaction, and none was ended before. -/
theorem of_acquire_ok (h : Pool.acquire d w = (.ok l, w')) :
    ∃ front, w'.trace = w.trace ++ (front ++ [.execute l.connection Pool.beginText []]) ∧
      ∀ call ∈ front, ¬ call.Ends := by
  have hexecute : ∀ c sql parameters, ¬ (Call.execute c sql parameters).Ends := by simp [Call.Ends]
  obtain ⟨made, hmade, hallowed⟩ := exists_made (fun before =>
    (simulates_trace d (fun call => ¬ call.Ends) before).acquire (by simp [Call.Ends]) hexecute
      (by simp [Call.Ends])) w
  rw [h] at hmade
  obtain ⟨front, hfront, -⟩ := trace_acquire h
  obtain rfl := List.append_cancel_left (hmade.symm.trans hfront)
  exact ⟨front, hfront, fun call hcall => hallowed call (List.mem_append_left _ hcall)⟩

/-- A commit that raised nothing was answered. -/
theorem of_commitOrRollback_ok {x : Unit} (h : (backend d).commitOrRollback l w = (.ok x, w')) :
    ∃ reply s', d.answer (.commit l.connection) w.outside.driver = (.ok reply, s') ∧
      Leads w [.commit l.connection] s' w' := by
  obtain ⟨r, w₁, hattempt, h⟩ := of_bind_ok h
  have hcommit := of_attempt_ok hattempt
  cases r with
  | ok _ =>
    obtain ⟨-, rfl⟩ := Prod.mk.inj h
    exact of_tell_ok hcommit
  | error e =>
    -- whatever is done about a fault of committing raises one
    simp only at h
    split at h
    · obtain ⟨_, w₂, -, h⟩ := of_bind_ok h
      cases congrArg Prod.fst h
    · cases congrArg Prod.fst h

/-- A connection outside a transaction is taken back without a rollback. -/
theorem release_of_not_inTransaction
    (hopen : d.inTransaction w.outside.driver l.connection = false)
    (hl : l ∈ w.outside.pool.leases) :
    Pool.release d l w = Action.ensure (Pool.store d l.connection) Pool.freeSlot
      { w with outside := { w.outside with
        pool := { w.outside.pool with leases := w.outside.pool.leases.erase l } } } := by
  let u : World Call (Session σ) := { w with outside := { w.outside with
    pool := { w.outside.pool with leases := w.outside.pool.leases.erase l } } }
  have hrelease : Pool.release d l w =
      Action.ensure (Pool.takeBack d l.connection) Pool.freeSlot u := by
    show (if _ then _ else _ : PoolAction σ Unit) w = _
    rw [if_pos hl]
    rfl
  have hreset : Pool.reset d l.connection u = (.ok (), u) := by
    show (if d.inTransaction w.outside.driver l.connection = true then _ else _ :
      PoolAction σ Unit) u = _
    rw [hopen, if_neg Bool.false_ne_true]
    rfl
  have hback : Pool.takeBack d l.connection u = Pool.store d l.connection u :=
    bind_of_ok (attempt_of_apply hreset)
  rw [hrelease]
  unfold Action.ensure
  rw [hback]

/-- A connection that is taken back is rolled back only if a transaction is open on it. -/
theorem of_release_ok (h : Pool.release d l w = (.ok (), w')) :
    ∃ given, w'.trace = w.trace ++ given ∧ ∀ call ∈ given, call.Ends →
      (∃ c, call = .rollback c) ∧ d.inTransaction w.outside.driver l.connection = true := by
  have hclose : ∀ c, ¬ (Call.close c).Ends := by simp [Call.Ends]
  cases hopen : d.inTransaction w.outside.driver l.connection with
  | true =>
    -- the only request of a release that ends a transaction is a rollback
    obtain ⟨given, hgiven, hallowed⟩ := exists_made (fun before =>
      (simulates_trace d (fun call => call.Ends → ∃ c, call = .rollback c) before).release
        (fun c hc => absurd hc (hclose c)) (fun c _ => ⟨c, rfl⟩) l) w
    rw [h] at hgiven
    exact ⟨given, hgiven, fun call hcall hends => ⟨hallowed call hcall hends, rfl⟩⟩
  | false =>
    have hl : l ∈ w.outside.pool.leases := by
      by_contra hl
      rw [Pool.release_of_not_mem hl] at h
      cases congrArg Prod.fst h
    have hstore : ∀ before, Action.Simulates (Along fun w : World Call (Session σ) =>
        ∃ made, w.trace = before ++ made ∧ ∀ call ∈ made, ¬ call.Ends)
        (Action.ensure (Pool.store d l.connection) Pool.freeSlot)
        (Action.ensure (Pool.store d l.connection) Pool.freeSlot) := by
      intro before
      have hd := simulates_trace d (fun call => ¬ call.Ends) before
      refine Action.Simulates.ensure (hd.pool.bind fun p => ?_) hd.freeSlot
      split
      · exact hd.tell (hclose _)
      · exact hd.updatePool _
    obtain ⟨given, hgiven, hallowed⟩ := exists_made hstore { w with outside := { w.outside with
      pool := { w.outside.pool with leases := w.outside.pool.leases.erase l } } }
    rw [← release_of_not_inTransaction hopen hl, h] at hgiven
    exact ⟨given, hgiven, fun call hcall hends => absurd hends (hallowed call hcall)⟩

/-- A connection that was acquired is a lease of the pool. -/
theorem of_acquireConnection_ok (h : (backend d).acquireConnection w = (.ok l, w')) :
    Pool.acquire d w = (.ok l, w') := by
  obtain ⟨r, u, hattempt, hgiven⟩ := of_bind_ok h
  cases r with
  | error e => cases congrArg Prod.fst hgiven
  | ok l' =>
    obtain ⟨hl, rfl⟩ := Prod.mk.inj hgiven
    rw [← Except.ok.inj hl]
    exact of_attempt_ok hattempt

/-- **A transaction that raises nothing was committed.** -/
theorem commits_of_transaction_ok
    (hitems : ∀ item ∈ items, item.1.placeholderCount = countPlaceholders item.1.sql)
    {outcomes : List Outcome}
    (h : (backend d).transaction (fun l => (backend d).runUnits l items) w = (.ok outcomes, w')) :
    ∃ calls, w'.trace = w.trace ++ calls ∧ Commits d w.outside items calls := by
  obtain ⟨l, w₁, hconnection, h⟩ := of_bind_ok h
  obtain ⟨w₄, hsettled, hrelease⟩ := cleanup_of_ensure_ok h
  obtain ⟨_, w₂, hran, hsettled⟩ := of_bind_ok hsettled
  obtain ⟨_, w₃, hcommit, hdone⟩ := of_bind_ok hsettled
  obtain ⟨-, rfl⟩ := Prod.mk.inj hdone
  have hacquire := of_acquireConnection_ok hconnection
  obtain ⟨front, hfront, hbefore⟩ := of_acquire_ok hacquire
  obtain ⟨asked, s₂, hasked, hled⟩ := of_runUnits_ok hitems (of_onFault_ok hran)
  obtain ⟨reply, s₃, hanswer, hcommitted⟩ := of_commitOrRollback_ok hcommit
  obtain ⟨given, hgiven, hafter⟩ := of_release_ok hrelease
  rw [hled.driver] at hanswer
  rw [hcommitted.driver] at hafter
  refine ⟨_, ?_, .intro rfl hacquire hfront hbefore hasked hanswer hafter⟩
  rw [hgiven, hcommitted.trace, hled.trace, hfront]
  simp

/-- **What was asked for where nothing went wrong**, and what it left: nothing for no statement, and
else a transaction that was committed. -/
def Settles (d : Driver σ) (items : List (StatementUnit × Batch)) (s : Session σ)
    (calls : List Call) (s' : Session σ) : Prop :=
  if items = [] then calls = [] ∧ s' = s else Commits d s items calls

/-- **Statements that are run without a fault** are committed, if there are any. -/
theorem settles_of_executeUnits_ok {loader : Loader} {strict : Bool} {units : List StatementUnit}
    {batches : List Batch}
    (hunits : ∀ unit ∈ units, unit.placeholderCount = countPlaceholders unit.sql)
    {outcomes : List Outcome}
    (h : (runner d loader strict).executeUnits units batches w = (.ok outcomes, w')) :
    ∃ calls, w'.trace = w.trace ++ calls ∧
      Settles d (units.zip batches) w.outside calls w'.outside := by
  unfold Runner.executeUnits at h
  split at h
  · cases congrArg Prod.fst h
  · rename_i hlength
    have hlength := Decidable.not_not.1 hlength
    unfold Settles
    split at h
    · rename_i hnone
      obtain rfl := List.length_eq_zero_iff.1 hnone
      obtain ⟨_, w₁, hsay, hdone⟩ := of_bind_ok h
      obtain ⟨-, rfl⟩ := Prod.mk.inj hdone
      exact ⟨[], (of_say_ok hsay).trace, (if_pos List.zip_nil_left).symm ▸
        ⟨rfl, (of_say_ok hsay).outside⟩⟩
    · rename_i hsome
      obtain ⟨start, w₁, hstart, h⟩ := of_bind_ok h
      obtain ⟨-, rfl⟩ := Prod.mk.inj hstart
      obtain ⟨_, w₂, htransaction, h⟩ := of_bind_ok h
      obtain ⟨finish, w₃, hfinish, h⟩ := of_bind_ok h
      obtain ⟨-, rfl⟩ := Prod.mk.inj hfinish
      obtain ⟨elapsed, w₄, helapsed, h⟩ := of_bind_ok h
      obtain ⟨-, rfl⟩ := Prod.mk.inj helapsed
      obtain ⟨_, w₅, hsay, hdone⟩ := of_bind_ok h
      obtain ⟨-, rfl⟩ := Prod.mk.inj hdone
      -- reading the clock and logging ask for nothing, so the transaction made all requests
      obtain ⟨calls, htrace, hcommits⟩ := commits_of_transaction_ok
        (fun item hitem => hunits _ (List.of_mem_zip hitem).1) htransaction
      have hitems : units.zip batches ≠ [] := by
        rw [Ne, ← List.length_eq_zero_iff, List.length_zip, hlength, Nat.min_self]
        exact hsome
      refine ⟨calls, ?_, by rwa [if_neg hitems]⟩
      rw [(of_say_ok hsay).trace, List.append_nil]
      exact htrace

end Transactions

end Sqlite

end SqlScript
