import SqlScript.Proofs.Course

/-!
# Statements and their courses

What the runner does for statements is the course of their requests: it makes those requests in
order, up to the first that fails, and reports the failure.

* `Bindings.values_bindFrom_nil`: values bound in order are executed in order.
* `Responder.yields_runUnit`: one statement.
* `Responder.yields_runUnits`: statements in order.
-/

namespace SqlScript

namespace Bindings

/-- Binds values to the positions from `position` on. -/
def bindFrom (b : Bindings) (position : Int) : List Value → Bindings
  | [] => b
  | value :: values => (b.bind position value).bindFrom (position + 1) values

theorem bind_of_lt {b : Bindings} {position : Int} (h : ∀ p ∈ b.positions, p < position)
    (value : Value) : b.bind position value = b ++ [(position, value)] := by
  induction b with
  | nil => rfl
  | cons e rest ih =>
    obtain ⟨p, v⟩ := e
    have hp : p < position := h p (by simp [positions])
    rw [bind, if_neg (by omega), if_neg (by omega), ih]
    · rfl
    · intro q hq
      exact h q (by simp only [positions, List.map_cons, List.mem_cons]; exact .inr hq)

/-- Values bound in order, behind all others, stand in that order. -/
theorem values_bindFrom {b : Bindings} {position : Int} (h : ∀ p ∈ b.positions, p < position)
    (values : List Value) : (b.bindFrom position values).values = b.values ++ values := by
  -- every position that is bound stays below the next one
  induction values generalizing b position with
  | nil => simp [bindFrom]
  | cons value values ih =>
    rw [bindFrom, bind_of_lt h, ih]
    · simp [Bindings.values]
    · intro p hp
      simp only [positions, List.map_append, List.mem_append, List.map_cons, List.map_nil,
        List.mem_singleton] at hp
      rcases hp with hp | hp
      · have := h p hp; omega
      · omega

theorem values_bindFrom_nil (position : Int) (values : List Value) :
    (bindFrom [] position values).values = values :=
  values_bindFrom (b := []) (fun _ hp => nomatch hp) values

end Bindings

namespace Responder

open SqlScript.Action

variable {σ : Type} {d : Responder σ}

/-! ## Requests of the backend -/

theorem yields_ask (request : Request) (w : World Request σ) :
    Yields (d.ask request) w [request] (d request w.outside).2 (d request w.outside).1 :=
  ⟨rfl, rfl, rfl⟩

theorem yields_tell (request : Request) (w : World Request σ) :
    Yields (d.tell request) w [request] (d request w.outside).2
      ((d request w.outside).1.map fun _ => ()) :=
  (yields_ask request w).bind_map

theorem yields_prepare (sql : String) (w : World Request σ) :
    Yields (d.backend.prepare () sql) w [.prepare sql] (d (.prepare sql) w.outside).2
      ((d (.prepare sql) w.outside).1.map fun _ => { sql }) := by
  have h := (yields_tell (d := d) (.prepare sql) w).bind_map (g := fun _ => Prepared.mk sql [])
  cases hr : (d (.prepare sql) w.outside).1 <;> rw [hr] at h <;> exact h

theorem yields_bind (s : Prepared) (position : Int) (value : Value) (w : World Request σ) :
    Yields (d.backend.bind s position value) w [.bind s.sql position value]
      (d (.bind s.sql position value) w.outside).2
      ((d (.bind s.sql position value) w.outside).1.map fun _ =>
        { s with bindings := s.bindings.bind position value }) := by
  have h := (yields_tell (d := d) (.bind s.sql position value) w).bind_map
    (g := fun _ => { s with bindings := s.bindings.bind position value })
  cases hr : (d (.bind s.sql position value) w.outside).1 <;> rw [hr] at h <;> exact h

theorem yields_execute (s : Prepared) (w : World Request σ) :
    Yields (d.backend.execute s) w [.execute s.sql s.bindings.values]
      (d (.execute s.sql s.bindings.values) w.outside).2
      (d (.execute s.sql s.bindings.values) w.outside).1 :=
  yields_ask _ w

theorem yields_closeCursor (cursor : Cursor) (w : World Request σ) :
    Yields (d.backend.closeCursor cursor) w [.closeCursor] w.outside
      (match cursor.closeFault with
        | none => .ok ()
        | some e => .error e) :=
  Yields.closeCursor Request.closeCursor cursor w

/-! ## One statement -/

/-- The result of an action that took a course, `x` if it came to the end. -/
def Course.result {α : Type} (c : Course σ) (x : α) : Except Fault α :=
  match c.stop with
  | none => .ok x
  | some stop => .error stop.fault

/-- What the runner makes of a course, `x` if it came to the end. -/
def Course.report {α : Type} (c : Course σ) (x : α) : Except Fault α :=
  match c.stop with
  | none => .ok x
  | some stop => .error stop.reported

/-- The requests that bind a batch to the positions from `position` on. -/
def bindRequests (unit : StatementUnit) (position : Int) (batch : Batch) :
    List (StatementUnit × Request) :=
  batch.mapIdx fun i value => (unit, .bind unit.sql (position + i) value)

theorem bindRequests_cons (unit : StatementUnit) (position : Int) (value : Value) (batch : Batch) :
    bindRequests unit position (value :: batch) =
      (unit, .bind unit.sql position value) :: bindRequests unit (position + 1) batch := by
  unfold bindRequests
  rw [List.mapIdx_cons]
  congr 1
  · simp
  · congr 1
    funext i value
    congr 2
    push_cast
    omega

/-- The requests that bind a batch and execute. -/
def executeRequests (unit : StatementUnit) (batch : Batch) : List (StatementUnit × Request) :=
  bindRequests unit 1 batch ++ [(unit, .execute unit.sql batch)]

/-- Binding a batch takes the course of its requests. -/
theorem yields_bindFrom (unit : StatementUnit) (batch : Batch) (position : Int)
    (bindings : Bindings) (cursor : Cursor) (w : World Request σ) :
    let c := d.pursue ⟨w.outside, cursor⟩ (bindRequests unit position batch)
    Yields (d.backend.bindFrom position { sql := unit.sql, bindings } batch) w c.made
      c.standing.state
      (c.result { sql := unit.sql, bindings := bindings.bindFrom position batch }) := by
  induction batch generalizing position bindings cursor w with
  | nil => exact Yields.pure _ w
  | cons value batch ih =>
    -- the course does not see the cursor before it executes, so any will do
    have hb := yields_bind (d := d) ⟨unit.sql, bindings⟩ position value w
    rw [bindRequests_cons, pursue, Backend.bindFrom]
    cases hd : d (.bind unit.sql position value) w.outside with
    | mk reply state =>
      simp only [hd] at hb
      cases reply with
      | error e =>
        simp only [meet, hd]
        exact hb.bind_error
      | ok cursor =>
        simp only [meet, hd]
        refine hb.bind fun w' hw' => ?_
        have hih := ih (position + 1) (bindings.bind position value) cursor w'
        rw [hw'] at hih
        exact hih

/-- Binding a batch and executing takes the course of its requests. -/
theorem yields_bindAndExecute (unit : StatementUnit) (batch : Batch) (cursor : Cursor)
    (w : World Request σ) :
    let c := d.pursue ⟨w.outside, cursor⟩ (executeRequests unit batch)
    Yields (d.backend.bindAndExecute { sql := unit.sql } batch) w c.made c.standing.state
      (c.result c.standing.cursor) := by
  have hb := yields_bindFrom (d := d) unit batch 1 [] cursor w
  rw [executeRequests, pursue_append]
  generalize d.pursue ⟨w.outside, cursor⟩ (bindRequests unit 1 batch) = c at hb
  obtain ⟨made, stop, standing⟩ := c
  cases stop with
  | some stop => exact hb.bind_error
  | none =>
    refine hb.bind fun w' hw' => ?_
    have he := yields_execute (d := d) ⟨unit.sql, Bindings.bindFrom [] 1 batch⟩ w'
    simp only [Bindings.values_bindFrom_nil, hw'] at he
    simp only [Course.andThen, pursue, meet]
    cases hd : d (.execute unit.sql batch) standing.state with
    | mk reply state =>
      rw [hd] at he
      cases reply <;> exact he

/-- Reading a cursor closes it, whether reading fails or not. -/
theorem yields_materialize (cursor : Cursor) (index : Option Int) (w : World Request σ) :
    Yields (Snapshot.materialize d.backend.closeCursor cursor index) w [.closeCursor] w.outside
      ((match cursor.closeFault with
        | none => .ok ()
        | some e => .error e : Except Fault Unit).bind fun _ =>
          (Snapshot.read cursor).mapError
            (Fault.reportedAs (Failure.materializationFailed index))) := by
  have hread := (Yields.ofExcept (Snapshot.read cursor) w).reporting
    (Failure.materializationFailed index)
  have hclose := hread.ensure fun w' (hw' : w'.outside = w.outside) =>
    hw' ▸ yields_closeCursor (d := d) cursor w'
  unfold Snapshot.materialize
  -- what closing and reading give together, or which of the two failed, does not matter here
  revert hclose
  generalize Except.bind _ _ = r
  intro hclose
  cases r with
  | error e => exact hclose.bind_error
  | ok snapshot =>
    exact hclose.bind_quiet (Yields.say_bind fun w' hw' => hw' ▸ Yields.pure snapshot w')

/-- Collecting what a cursor gives is closing it, with its flaw. -/
theorem yields_collect (unit : StatementUnit) (cursor : Cursor) (w : World Request σ) :
    Yields (d.backend.collect unit.index cursor) w [.closeCursor] w.outside
      (match cursor.flaw? with
        | none => .ok cursor.outcome
        | some (phase, e) => .error (Stop.reported ⟨unit, phase, e⟩)) := by
  unfold Backend.collect Cursor.flaw? Cursor.outcome
  by_cases hc : cursor.columns.isNone
  · -- without a row set there is nothing to read
    simp only [hc, if_true]
    refine Yields.say_bind fun w' hw' => ?_
    have h := (yields_closeCursor (d := d) cursor w').bind_map (g := fun _ => (none : Outcome))
    rw [hw'] at h
    cases hf : cursor.closeFault <;> rw [hf] at h <;> exact h
  · simp only [hc, if_false, Bool.false_eq_true]
    have h := (yields_materialize (d := d) cursor (some unit.index) w).bind_map
      (g := (some : Snapshot → Outcome))
    cases hf : cursor.closeFault with
    | some e => rw [hf] at h; exact h
    | none =>
      rw [hf] at h
      cases hr : Snapshot.read cursor <;> rw [hr] at h <;> exact h

/-- The requests of a statement, one part after the other. -/
theorem requests_map (unit : StatementUnit) (batch : Batch) :
    (unit.requests batch).map (unit, ·) = (unit, .prepare unit.sql) ::
      (executeRequests unit batch ++ [(unit, .closeCursor)]) := by
  have hbind : (batch.mapIdx fun i value => Request.bind unit.sql (1 + i) value).map (unit, ·) =
      bindRequests unit 1 batch := by
    refine List.ext_getElem? fun i => ?_
    rw [bindRequests, List.getElem?_map, List.getElem?_mapIdx, List.getElem?_mapIdx,
      Option.map_map]
    rfl
  rw [StatementUnit.requests, List.cons_append, List.map_cons, List.map_append, hbind,
    executeRequests, List.append_assoc]
  rfl

/-- A course whose requests can fail in one phase only, all for one statement, stops there. -/
theorem stop_pursue {plan : List (StatementUnit × Request)} {unit : StatementUnit} {phase : Phase}
    (hplan : ∀ x ∈ plan, x.1 = unit ∧
      ∀ s : Standing σ, ∀ p, (d.meet s x.2).1 = some p → p.1 = phase)
    {s : Standing σ} {stop : Stop} (h : (d.pursue s plan).stop = some stop) :
    stop.unit = unit ∧ stop.phase = phase := by
  induction plan generalizing s with
  | nil => simp [pursue] at h
  | cons x plan ih =>
    obtain ⟨hx, hphase⟩ := hplan x List.mem_cons_self
    rw [pursue] at h
    split at h
    · rename_i p e s' hm
      have hp := hphase s (p, e) (by rw [hm])
      obtain rfl := Option.some.inj h
      exact ⟨hx, hp⟩
    · exact ih (fun y hy => hplan y (List.mem_cons_of_mem _ hy)) h

/-- Binding and executing stop in the phase of executing. -/
theorem stop_executeRequests {unit : StatementUnit} {batch : Batch} {s : Standing σ} {stop : Stop}
    (h : (d.pursue s (executeRequests unit batch)).stop = some stop) :
    stop.unit = unit ∧ stop.phase = .executing := by
  refine stop_pursue (fun x hx => ?_) h
  rw [executeRequests, bindRequests, List.mem_append, List.mem_singleton, List.mem_mapIdx] at hx
  rcases hx with ⟨i, hi, rfl⟩ | rfl <;>
  · refine ⟨rfl, fun s p hp => ?_⟩
    simp only [meet] at hp
    split at hp
    · cases hp
    · obtain rfl := Option.some.inj hp
      rfl

/-- **One statement takes the course of its requests.** -/
theorem yields_runUnit (unit : StatementUnit) (batch : Batch) (cursor : Cursor)
    (w : World Request σ) :
    let c := d.pursue ⟨w.outside, cursor⟩ ((unit.requests batch).map (unit, ·))
    Yields (d.backend.runUnit () unit batch) w c.made c.standing.state
      (c.report c.standing.cursor.outcome) := by
  unfold Backend.runUnit
  refine Yields.say_bind fun w₁ hw₁ => ?_
  have hp := (yields_prepare (d := d) unit.sql w₁).reporting (Failure.prepareFailed unit.index)
  rw [requests_map, pursue]
  rw [hw₁] at hp
  cases hd : d (.prepare unit.sql) w.outside with
  | mk reply state =>
    rw [hd] at hp
    simp only [meet, hd]
    cases reply with
    | error e => exact hp.bind_error
    | ok cursor =>
      refine hp.bind fun w₂ hw₂ => ?_
      have hb := (yields_bindAndExecute (d := d) unit batch cursor w₂).reporting
        (Failure.executionFailed unit.index)
      have hphase := fun stop =>
        @stop_executeRequests σ d unit batch ⟨state, cursor⟩ stop
      simp only [pursue_append]
      simp only [hw₂] at hb
      generalize d.pursue ⟨state, cursor⟩ (executeRequests unit batch) = c at hb hphase ⊢
      obtain ⟨made, stop, standing⟩ := c
      cases stop with
      | some stop =>
        -- the phase decides how the fault is reported
        obtain ⟨hunit, hphase⟩ := hphase stop rfl
        have hreported : stop.reported =
            stop.fault.reportedAs (Failure.executionFailed unit.index) := by
          unfold Stop.reported
          rw [hphase, hunit]
        simp only [Course.andThen, Course.report, hreported]
        exact hb.bind_error
      | none =>
        -- what is left of the course is closing the cursor that executing gave
        refine hb.bind fun w₃ hw₃ => ?_
        have hc := yields_collect (d := d) unit standing.cursor w₃
        simp only [hw₃] at hc
        simp only [Course.andThen, pursue, meet]
        cases hf : standing.cursor.flaw? <;> rw [hf] at hc <;> exact hc

/-! ## Statements in order -/

/-- The requests for statements begin with those for the first one. -/
theorem requestsOf_cons (unit : StatementUnit) (batch : Batch)
    (items : List (StatementUnit × Batch)) :
    requestsOf ((unit, batch) :: items) =
      (unit.requests batch).map (unit, ·) ++ requestsOf items := rfl

/-- What statements give that are run in order on a database without a fault. -/
def outcomes (d : Responder σ) (s : Standing σ) : List (StatementUnit × Batch) → List Outcome
  | [] => []
  | (unit, batch) :: items =>
    let c := d.pursue s ((unit.requests batch).map (unit, ·))
    c.standing.cursor.outcome :: d.outcomes c.standing items

/-- **Statements in order take the course of their requests.** -/
theorem yields_runUnits (items : List (StatementUnit × Batch)) (cursor : Cursor)
    (w : World Request σ) :
    let s : Standing σ := ⟨w.outside, cursor⟩
    let c := d.pursue s (requestsOf items)
    Yields (d.backend.runUnits () items) w c.made c.standing.state
      (c.report (d.outcomes s items)) := by
  induction items generalizing cursor w with
  | nil => exact Yields.pure _ w
  | cons item items ih =>
    obtain ⟨unit, batch⟩ := item
    have hu := yields_runUnit (d := d) unit batch cursor w
    simp only [requestsOf_cons, pursue_append, Backend.runUnits, outcomes]
    generalize d.pursue ⟨w.outside, cursor⟩ ((unit.requests batch).map (unit, ·)) = c at hu ⊢
    obtain ⟨made, stop, standing⟩ := c
    cases stop with
    | some stop => exact hu.bind_error
    | none =>
      -- the other statements meet the database, and the cursor, that the first one left
      refine hu.bind fun w₁ hw₁ => ?_
      have hrest := (ih standing.cursor w₁).bind_map (g := (standing.cursor.outcome :: ·))
      rw [hw₁] at hrest
      simp only [Course.andThen, Course.report] at hrest ⊢
      cases hs : (d.pursue standing (requestsOf items)).stop <;> rw [hs] at hrest <;> exact hrest

end Responder

end SqlScript
