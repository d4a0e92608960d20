import SqlScript.Runner

/-!
# Simulations

Two actions on two worlds simulate each other if they have the same result from worlds that are
related, and leave related worlds. Every way in which the runner puts actions together keeps this.
So runs on two backends simulate each other if the operations of the backends do.

* `Action.Simulates`: the notion.
* `Action.simulates_along`: what an action keeps of a world is a simulation of itself.
* `Backend.Simulates`: backends whose operations for a run simulate each other.
* `Backend.simulates_transaction`: then their **transactions simulate each other**.
* `Runner.simulates_runScript`, `Runner.simulates_runStatement`: so do runs.
-/

namespace SqlScript

namespace Action

variable {ω ω' α β : Type} {S : ω → ω' → Prop}

/-- **Two actions simulate each other**, as far as the worlds are related. -/
def Simulates (S : ω → ω' → Prop) (a : Action ω α) (a' : Action ω' α) : Prop :=
  ∀ w w', S w w' → (a w).1 = (a' w').1 ∧ S (a w).2 (a' w').2

namespace Simulates

variable {a : Action ω α} {a' : Action ω' α}

theorem pure (x : α) : Simulates S (Pure.pure x) (Pure.pure x) := fun _ _ h => ⟨rfl, h⟩

theorem throw (e : Fault) :
    Simulates S (MonadExcept.throw e : Action ω α) (MonadExcept.throw e) := fun _ _ h => ⟨rfl, h⟩

theorem ofExcept (r : Except Fault α) : Simulates S (Action.ofExcept r) (Action.ofExcept r) :=
  fun _ _ h => ⟨rfl, h⟩

/-- What comes after two actions needs to simulate each other for each result. -/
theorem bind {f : α → Action ω β} {f' : α → Action ω' β} (ha : Simulates S a a')
    (hf : ∀ x, Simulates S (f x) (f' x)) : Simulates S (a >>= f) (a' >>= f') := by
  intro w w' h
  obtain ⟨hresult, hworld⟩ := ha w w' h
  rw [bind_apply, bind_apply]
  rcases hw : a w with ⟨r, u⟩
  rcases hw' : a' w' with ⟨r', u'⟩
  rw [hw, hw'] at hresult hworld
  obtain rfl : r = r' := hresult
  cases r with
  | error e => exact ⟨rfl, hworld⟩
  | ok x => exact hf x u u' hworld

theorem attempt (ha : Simulates S a a') : Simulates S (Action.attempt a) (Action.attempt a') :=
  fun w w' h => ⟨congrArg Except.ok (ha w w' h).1, (ha w w' h).2⟩

theorem reporting (report : Fault → Failure) (ha : Simulates S a a') :
    Simulates S (Action.reporting report a) (Action.reporting report a') := by
  intro w w' h
  obtain ⟨hresult, hworld⟩ := ha w w' h
  unfold Action.reporting
  rcases hw : a w with ⟨r, u⟩
  rcases hw' : a' w' with ⟨r', u'⟩
  rw [hw, hw'] at hresult hworld
  obtain rfl : r = r' := hresult
  cases r <;> exact ⟨rfl, hworld⟩

theorem ensure {cleanup : Action ω Unit} {cleanup' : Action ω' Unit} (ha : Simulates S a a')
    (hc : Simulates S cleanup cleanup') :
    Simulates S (Action.ensure a cleanup) (Action.ensure a' cleanup') := by
  intro w w' h
  obtain ⟨hresult, hworld⟩ := ha w w' h
  unfold Action.ensure
  rcases hw : a w with ⟨r, u⟩
  rcases hw' : a' w' with ⟨r', u'⟩
  rw [hw, hw'] at hresult hworld
  obtain rfl : r = r' := hresult
  obtain ⟨hclean, hafter⟩ := hc u u' hworld
  simp only
  rcases hu : cleanup u with ⟨p, v⟩
  rcases hu' : cleanup' u' with ⟨p', v'⟩
  rw [hu, hu'] at hclean hafter
  obtain rfl : p = p' := hclean
  cases p <;> exact ⟨rfl, hafter⟩

theorem onFault {handler : Fault → Action ω Unit} {handler' : Fault → Action ω' Unit}
    (ha : Simulates S a a') (hh : ∀ e, Simulates S (handler e) (handler' e)) :
    Simulates S (Action.onFault a handler) (Action.onFault a' handler') := by
  intro w w' h
  obtain ⟨hresult, hworld⟩ := ha w w' h
  unfold Action.onFault
  rcases hw : a w with ⟨r, u⟩
  rcases hw' : a' w' with ⟨r', u'⟩
  rw [hw, hw'] at hresult hworld
  obtain rfl : r = r' := hresult
  cases r with
  | ok x => exact ⟨rfl, hworld⟩
  | error e =>
    obtain ⟨hhandle, hafter⟩ := hh e u u' hworld
    simp only
    rcases hu : handler e u with ⟨p, v⟩
    rcases hu' : handler' e u' with ⟨p', v'⟩
    rw [hu, hu'] at hhandle hafter
    obtain rfl : p = p' := hhandle
    cases p <;> exact ⟨rfl, hafter⟩

end Simulates

/-! ## What an action keeps -/

/-- A world beside itself, of which something is known. -/
def Along (I : ω → Prop) (w w' : ω) : Prop := w = w' ∧ I w

/-- **What an action keeps of a world** is a simulation of itself. -/
theorem simulates_along {I : ω → Prop} {a : Action ω α} :
    Simulates (Along I) a a ↔ ∀ w, I w → I (a w).2 := by
  constructor
  · intro h w hw
    exact (h w w ⟨rfl, hw⟩).2.2
  · rintro h w _ ⟨rfl, hw⟩
    exact ⟨rfl, rfl, h w hw⟩

end Action

namespace Backend

open SqlScript.Action

variable {κ κ' τ τ' Conn Stmt : Type} {b : Backend κ τ Conn Stmt} {b' : Backend κ' τ' Conn Stmt}
  {S : World κ τ → World κ' τ' → Prop}

/-- **Backends that simulate each other**: each operation for a run does, and so does writing to the
log. -/
structure Simulates (S : World κ τ → World κ' τ' → Prop) (b : Backend κ τ Conn Stmt)
    (b' : Backend κ' τ' Conn Stmt) : Prop where
  acquire : Action.Simulates S b.acquire b'.acquire
  release : ∀ c, Action.Simulates S (b.release c) (b'.release c)
  prepare : ∀ c sql, Action.Simulates S (b.prepare c sql) (b'.prepare c sql)
  bind : ∀ s position value,
    Action.Simulates S (b.bind s position value) (b'.bind s position value)
  execute : ∀ s, Action.Simulates S (b.execute s) (b'.execute s)
  closeCursor : ∀ cursor, Action.Simulates S (b.closeCursor cursor) (b'.closeCursor cursor)
  commit : ∀ c, Action.Simulates S (b.commit c) (b'.commit c)
  rollback : ∀ c, Action.Simulates S (b.rollback c) (b'.rollback c)
  say : ∀ level message, Action.Simulates S (World.say level message) (World.say level message)

variable (h : b.Simulates S b')

include h

/-! ## One statement -/

theorem simulates_bindFrom (batch : Batch) (position : Int) (s : Stmt) :
    Action.Simulates S (b.bindFrom position s batch) (b'.bindFrom position s batch) := by
  induction batch generalizing position s with
  | nil => exact .pure s
  | cons value batch ih => exact (h.bind s position value).bind fun s => ih (position + 1) s

theorem simulates_collect (index : Int) (cursor : Cursor) :
    Action.Simulates S (b.collect index cursor) (b'.collect index cursor) := by
  unfold collect
  split
  · exact (h.say _ _).bind fun _ => (h.closeCursor cursor).bind fun _ => .pure none
  · have hread : Action.Simulates S
        (Action.reporting (Failure.materializationFailed (some index))
          (Action.ofExcept (Snapshot.read cursor)))
        (Action.reporting (Failure.materializationFailed (some index))
          (Action.ofExcept (Snapshot.read cursor))) := (Simulates.ofExcept _).reporting _
    have hsnapshot : Action.Simulates S (Snapshot.materialize b.closeCursor cursor (some index))
        (Snapshot.materialize b'.closeCursor cursor (some index)) :=
      (hread.ensure (h.closeCursor cursor)).bind fun snapshot => (h.say _ _).bind fun _ =>
        .pure snapshot
    exact hsnapshot.bind fun snapshot => .pure (some snapshot)

theorem simulates_runUnit (c : Conn) (unit : StatementUnit) (batch : Batch) :
    Action.Simulates S (b.runUnit c unit batch) (b'.runUnit c unit batch) := by
  have hexecute (s : Stmt) :
      Action.Simulates S (b.bindAndExecute s batch) (b'.bindAndExecute s batch) :=
    (simulates_bindFrom h batch 1 s).bind h.execute
  exact (h.say _ _).bind fun _ => ((h.prepare c unit.sql).reporting _).bind fun s =>
    ((hexecute s).reporting _).bind fun cursor => simulates_collect h unit.index cursor

theorem simulates_runUnits (c : Conn) (items : List (StatementUnit × Batch)) :
    Action.Simulates S (b.runUnits c items) (b'.runUnits c items) := by
  induction items with
  | nil => exact .pure []
  | cons item items ih =>
    exact (simulates_runUnit h c item.1 item.2).bind fun outcome => ih.bind fun outcomes =>
      .pure (outcome :: outcomes)

/-! ## The transaction -/

theorem simulates_rollbackAfter (c : Conn) (e : Fault) :
    Action.Simulates S (b.rollbackAfter c e) (b'.rollbackAfter c e) :=
  (h.say _ _).bind fun _ => (h.rollback c).reporting _

theorem simulates_commitOrRollback (c : Conn) :
    Action.Simulates S (b.commitOrRollback c) (b'.commitOrRollback c) := by
  refine (h.commit c).attempt.bind fun r => ?_
  cases r with
  | ok _ => exact .pure ()
  | error e =>
    simp only
    split
    · exact (simulates_rollbackAfter h c _).bind fun _ => .throw _
    · exact .throw e

theorem simulates_acquireConnection :
    Action.Simulates S b.acquireConnection b'.acquireConnection := by
  refine h.acquire.attempt.bind fun r => ?_
  cases r with
  | ok c => exact .pure c
  | error e => exact .throw (reportAcquire e)

/-- **Transactions on backends that simulate each other** do so too. -/
theorem simulates_transaction (items : List (StatementUnit × Batch)) :
    Action.Simulates S (b.transaction fun c => b.runUnits c items)
      (b'.transaction fun c => b'.runUnits c items) := by
  refine (simulates_acquireConnection h).bind fun c => Simulates.ensure ?_ (h.release c)
  exact ((simulates_runUnits h c items).onFault (simulates_rollbackAfter h c)).bind fun outcomes =>
    (simulates_commitOrRollback h c).bind fun _ => .pure outcomes

end Backend

namespace Runner

open SqlScript.Action

variable {κ κ' τ τ' Conn Stmt : Type} {r : Runner κ τ Conn Stmt} {r' : Runner κ' τ' Conn Stmt}
  {S : World κ τ → World κ' τ' → Prop}
  (hsay : ∀ level message, Action.Simulates S (World.say level message) (World.say level message))

include hsay

/-- Runs simulate each other if their transactions do, and if reading the clock does. -/
theorem simulates_executeUnits
    (hclock : Action.Simulates S World.readClock World.readClock)
    (htransaction : ∀ items,
      Action.Simulates S (r.backend.transaction fun c => r.backend.runUnits c items)
        (r'.backend.transaction fun c => r'.backend.runUnits c items))
    (units : List StatementUnit) (batches : List Batch) :
    Action.Simulates S (r.executeUnits units batches) (r'.executeUnits units batches) := by
  unfold executeUnits
  simp only
  split
  · exact .throw _
  · split
    · exact (hsay _ _).bind fun _ => .pure []
    · exact hclock.bind fun start => (htransaction _).bind fun outcomes =>
        hclock.bind fun finish => (Simulates.ofExcept _).bind fun elapsed =>
          (hsay _ _).bind fun _ => .pure outcomes

/-- Dealing out parameters is the same for runners with the same rule. -/
theorem simulates_allocateBatches (hstrict : r.strictParameters = r'.strictParameters)
    (units : List StatementUnit) (parameters : List Value) :
    Action.Simulates S (r.allocateBatches units parameters)
      (r'.allocateBatches units parameters) := by
  unfold allocateBatches
  rw [hstrict]
  cases allocate units parameters r'.strictParameters with
  | error f => exact .throw _
  | ok dealt =>
    obtain ⟨batches, warning⟩ := dealt
    cases warning with
    | none => exact .pure _
    | some warning => exact (hsay _ _).bind fun _ => .pure _

/-- **Runs of scripts simulate each other** if runs of their statements do. -/
theorem simulates_runScript (hstrict : r.strictParameters = r'.strictParameters)
    (hexecute : ∀ units batches,
      Action.Simulates S (r.executeUnits units batches) (r'.executeUnits units batches))
    (script : String) (parameters : List Value) :
    Action.Simulates S (r.runScript script parameters) (r'.runScript script parameters) :=
  (simulates_allocateBatches hsay hstrict _ parameters).bind fun batches => hexecute _ batches

/-- **So do runs of single statements.** -/
theorem simulates_runStatement
    (hexecute : ∀ units batches,
      Action.Simulates S (r.executeUnits units batches) (r'.executeUnits units batches))
    (text : String) (parameters : List Value) :
    Action.Simulates S (r.runStatement text parameters) (r'.runStatement text parameters) := by
  unfold runStatement
  split
  · exact (hsay _ _).bind fun _ => .pure none
  · exact (hexecute _ _).bind fun outcomes => .pure (outcomes.headD none)

end Runner

end SqlScript
