import SqlScript.Backend

/-!
# What an action comes to

An action on the world of a run has a result, makes requests, and leaves what lies outside in some
state. The log, the clock and the printed text are left aside: nothing that is asked of a database
depends on them.

* `Action.Yields`: result, requests and state of an action.
* `Yields.bind`, `Yields.bind_error`: one action after another.
* `Yields.reporting`, `Yields.ensure`, `Yields.onFault`: the handling of faults.
-/

namespace SqlScript

/-- An ordinary fault as the failure that reports it; an interrupt as it is. -/
def Fault.reportedAs (report : Fault → Failure) (e : Fault) : Fault :=
  if e.isOrdinary then .failure (report e) else e

namespace Action

variable {κ τ α β : Type}

/-- An action after another that came to an end, in two parts. -/
theorem of_bind_ok {ω : Type} {a : Action ω α} {f : α → Action ω β} {w w' : ω} {y : β}
    (h : (a >>= f) w = (.ok y, w')) : ∃ x w₁, a w = (.ok x, w₁) ∧ f x w₁ = (.ok y, w') := by
  rw [bind_apply] at h
  cases ha : a w with
  | mk r w₁ =>
    rw [ha] at h
    cases r with
    | error e => cases h
    | ok x => exact ⟨x, w₁, rfl, h⟩

/-- The outcome of an action as a value. -/
theorem attempt_of_apply {ω : Type} {a : Action ω α} {w w' : ω} {r : Except Fault α}
    (h : a w = (r, w')) : attempt a w = (.ok r, w') := by
  unfold attempt
  rw [h]

/-- The outcome of an action as a value, read back. -/
theorem of_attempt_ok {ω : Type} {a : Action ω α} {w w' : ω} {r : Except Fault α}
    (h : attempt a w = (.ok r, w')) : a w = (r, w') := by
  unfold attempt at h
  cases ha : a w with
  | mk r' w₁ =>
    rw [ha] at h
    obtain ⟨hr, hw⟩ := Prod.mk.inj h
    rw [Except.ok.inj hr, hw]

/-- An action with a clean-up came to an end before the clean-up did. -/
theorem of_ensure_ok {ω : Type} {a : Action ω α} {cleanup : Action ω Unit} {w w' : ω} {x : α}
    (h : ensure a cleanup w = (.ok x, w')) : ∃ w₁, a w = (.ok x, w₁) := by
  unfold ensure at h
  cases ha : a w with
  | mk r w₁ =>
    rw [ha] at h
    simp only at h
    cases hc : cleanup w₁ with
    | mk p w₂ =>
      rw [hc] at h
      cases p with
      | error e => cases h
      | ok _ => exact ⟨w₁, by rw [← (Prod.mk.inj h).1]⟩

/-- A handler of faults was not needed by an action that came to an end. -/
theorem of_onFault_ok {ω : Type} {a : Action ω α} {handler : Fault → Action ω Unit} {w w' : ω}
    {x : α} (h : onFault a handler w = (.ok x, w')) : a w = (.ok x, w') := by
  unfold onFault at h
  cases ha : a w with
  | mk r w₁ =>
    rw [ha] at h
    cases r with
    | ok y => exact h
    | error e =>
      simp only at h
      cases hh : handler e w₁ with
      | mk p w₂ =>
        rw [hh] at h
        cases p <;> cases h

/-- **What an action comes to**: from the world `w` it makes the requests `made`, leaves the outside
in `state`, and has the result `r`. -/
structure Yields (a : Action (World κ τ) α) (w : World κ τ) (made : List κ) (state : τ)
    (r : Except Fault α) : Prop where
  result : (a w).1 = r
  trace : (a w).2.trace = w.trace ++ made
  outside : (a w).2.outside = state

namespace Yields

variable {a : Action (World κ τ) α} {f : α → Action (World κ τ) β} {w : World κ τ}
  {made more : List κ} {state final : τ} {r : Except Fault α} {q : Except Fault β} {x : α}
  {e : Fault}

theorem of_eq {w' : World κ τ} (h : a w = (r, w')) (ht : w'.trace = w.trace ++ made)
    (ho : w'.outside = state) : Yields a w made state r :=
  ⟨by rw [h], by rw [h]; exact ht, by rw [h]; exact ho⟩

theorem eq (h : Yields a w made state r) : a w = (r, (a w).2) := Prod.ext h.result rfl

/-- An action comes to one thing only. -/
theorem unique {made' : List κ} {state' : τ} {r' : Except Fault α} (h : Yields a w made state r)
    (h' : Yields a w made' state' r') : made' = made ∧ state' = state ∧ r' = r :=
  ⟨List.append_cancel_left (h'.trace.symm.trans h.trace), h'.outside.symm.trans h.outside,
    h'.result.symm.trans h.result⟩

theorem pure (x : α) (w : World κ τ) :
    Yields (Pure.pure x : Action (World κ τ) α) w [] w.outside (.ok x) :=
  ⟨rfl, (List.append_nil _).symm, rfl⟩

theorem throw (e : Fault) (w : World κ τ) :
    Yields (MonadExcept.throw e : Action (World κ τ) α) w [] w.outside (.error e) :=
  ⟨rfl, (List.append_nil _).symm, rfl⟩

theorem ofExcept (r : Except Fault α) (w : World κ τ) :
    Yields (Action.ofExcept r) w [] w.outside r :=
  ⟨rfl, (List.append_nil _).symm, rfl⟩

theorem say (level : LogLevel) (message : String) (w : World κ τ) :
    Yields (World.say level message) w [] w.outside (.ok ()) :=
  ⟨rfl, (List.append_nil _).symm, rfl⟩

/-- Closing a cursor raises what the cursor says. -/
theorem closeCursor (call : κ) (cursor : Cursor) (w : World κ τ) :
    Yields (World.closeCursor call cursor) w [call] w.outside
      (match cursor.closeFault with
        | none => .ok ()
        | some e => .error e) := by
  unfold World.closeCursor
  cases cursor.closeFault <;> exact ⟨rfl, rfl, rfl⟩

theorem readClock (w : World κ τ) : Yields World.readClock w [] w.outside (.ok w.now) :=
  ⟨rfl, (List.append_nil _).symm, rfl⟩

/-- **One action after another**: the requests of both, in order. -/
theorem bind_at (ha : Yields a w made state (.ok x)) (hf : Yields (f x) (a w).2 more final q) :
    Yields (a >>= f) w (made ++ more) final q := by
  refine of_eq ((Action.bind_of_ok ha.eq).trans hf.eq) ?_ hf.outside
  rw [hf.trace, ha.trace, List.append_assoc]

/-- One action after another, where only what lies outside matters to the second. -/
theorem bind (ha : Yields a w made state (.ok x))
    (hf : ∀ w', w'.outside = state → Yields (f x) w' more final q) :
    Yields (a >>= f) w (made ++ more) final q :=
  ha.bind_at (hf (a w).2 ha.outside)

/-- An action after which nothing is asked. -/
theorem bind_quiet (ha : Yields a w made state (.ok x))
    (hf : Yields (f x) (a w).2 [] (a w).2.outside q) : Yields (a >>= f) w made state q := by
  have hfa := ha.bind_at hf
  rw [List.append_nil, ha.outside] at hfa
  exact hfa

/-- After a fault nothing else is done. -/
theorem bind_error (ha : Yields a w made state (.error e)) :
    Yields (a >>= f) w made state (.error e) :=
  of_eq (Action.bind_of_error ha.eq) ha.trace ha.outside

/-- An action that only changes the result of another. -/
theorem bind_map {g : α → β} (ha : Yields a w made state r) :
    Yields (a >>= fun x => Pure.pure (g x)) w made state (r.map g) := by
  cases r with
  | error e => exact bind_error ha
  | ok x => exact of_eq ((Action.bind_of_ok ha.eq).trans rfl) ha.trace ha.outside

/-- An action before which only the log is written. -/
theorem say_bind {level : LogLevel} {message : String} {b : Action (World κ τ) α}
    (hb : ∀ w', w'.outside = w.outside → Yields b w' made state r) :
    Yields (World.say level message >>= fun _ => b) w made state r :=
  bind (say level message w) hb

theorem reporting (report : Fault → Failure) (ha : Yields a w made state r) :
    Yields (Action.reporting report a) w made state (r.mapError (Fault.reportedAs report)) := by
  refine of_eq ?_ ha.trace ha.outside
  unfold Action.reporting
  rw [ha.eq]
  cases r <;> rfl

theorem attempt (ha : Yields a w made state r) :
    Yields (Action.attempt a) w made state (.ok r) := by
  refine of_eq ?_ ha.trace ha.outside
  unfold Action.attempt
  rw [ha.eq]

/-- **A clean-up** makes its requests last; what it raises counts. -/
theorem ensure_at {cleanup : Action (World κ τ) Unit} {p : Except Fault Unit}
    (ha : Yields a w made state r) (hca : Yields cleanup (a w).2 more final p) :
    Yields (Action.ensure a cleanup) w (made ++ more) final (p.bind fun _ => r) := by
  refine of_eq ?_ ?_ hca.outside
  · unfold Action.ensure
    rw [ha.eq]
    simp only
    rw [hca.eq]
    cases p <;> rfl
  · rw [hca.trace, ha.trace, List.append_assoc]

/-- A clean-up to which only what lies outside matters. -/
theorem ensure {cleanup : Action (World κ τ) Unit} {p : Except Fault Unit}
    (ha : Yields a w made state r)
    (hc : ∀ w', w'.outside = state → Yields cleanup w' more final p) :
    Yields (Action.ensure a cleanup) w (made ++ more) final (p.bind fun _ => r) :=
  ha.ensure_at (hc (a w).2 ha.outside)

theorem onFault_ok {handler : Fault → Action (World κ τ) Unit}
    (ha : Yields a w made state (.ok x)) :
    Yields (Action.onFault a handler) w made state (.ok x) := by
  refine of_eq ?_ ha.trace ha.outside
  unfold Action.onFault
  rw [ha.eq]

/-- **What is done with a fault** makes its requests last; what it raises counts. -/
theorem onFault_error_at (handler : Fault → Action (World κ τ) Unit) {p : Except Fault Unit}
    (ha : Yields a w made state (.error e)) (hca : Yields (handler e) (a w).2 more final p) :
    Yields (Action.onFault a handler) w (made ++ more) final (p.bind fun _ => .error e) := by
  refine of_eq ?_ ?_ hca.outside
  · unfold Action.onFault
    rw [ha.eq]
    simp only
    rw [hca.eq]
    cases p <;> rfl
  · rw [hca.trace, ha.trace, List.append_assoc]

/-- What is done with a fault, if only what lies outside matters to it. -/
theorem onFault_error (handler : Fault → Action (World κ τ) Unit) {p : Except Fault Unit}
    (ha : Yields a w made state (.error e))
    (hc : ∀ w', w'.outside = state → Yields (handler e) w' more final p) :
    Yields (Action.onFault a handler) w (made ++ more) final (p.bind fun _ => .error e) :=
  ha.onFault_error_at handler (hc (a w).2 ha.outside)

end Yields

end Action

end SqlScript
