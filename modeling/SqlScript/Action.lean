import SqlScript.Fault

/-!
# Actions

A computation that reads and changes a world and may raise a fault. The world that a faulty
action leaves is kept: what was asked of a database stays asked.

* `Action`: the type, with its sequencing and handling of faults.
* `Action.ensure`: a clean-up that runs whatever happens.
* `Action.onFault`: what is done before a fault goes on.
* `Action.attempt`: the outcome of an action, faults included.
* `Action.reporting`: an ordinary fault reported as a failure.
-/

namespace SqlScript

/-- **An action** on a world `ω`. -/
def Action (ω α : Type) : Type := ω → Except Fault α × ω

namespace Action

variable {ω α β : Type}

/-- Does `f` with the result of an action, unless it raised a fault. -/
protected def bind (a : Action ω α) (f : α → Action ω β) : Action ω β := fun w =>
  match a w with
  | (.ok x, w) => f x w
  | (.error e, w) => (.error e, w)

/-- Does `handler` with the fault that an action raised, if it did. -/
protected def tryCatch (a : Action ω α) (handler : Fault → Action ω α) : Action ω α := fun w =>
  match a w with
  | (.ok x, w) => (.ok x, w)
  | (.error e, w) => handler e w

instance : Monad (Action ω) where
  pure x := fun w => (.ok x, w)
  bind := Action.bind

instance : MonadExceptOf Fault (Action ω) where
  throw e := fun w => (.error e, w)
  tryCatch := Action.tryCatch

/-- Does what follows from a result that is known already. -/
def ofExcept (r : Except Fault α) : Action ω α := fun w => (r, w)

/-- The world as it is. -/
def world : Action ω ω := fun w => (.ok w, w)

/-- Changes the world. -/
def update (f : ω → ω) : Action ω Unit := fun w => (.ok (), f w)

/-- **A clean-up that runs whatever happens**, after the action. A fault of the clean-up takes the
place of the action's outcome. -/
def ensure (a : Action ω α) (cleanup : Action ω Unit) : Action ω α := fun w =>
  match a w with
  | (r, w) => match cleanup w with
    | (.ok (), w) => (r, w)
    | (.error e, w) => (.error e, w)

/-- What is done with a fault before it goes on. A fault of the handler takes its place. -/
def onFault (a : Action ω α) (handler : Fault → Action ω Unit) : Action ω α := fun w =>
  match a w with
  | (.ok x, w) => (.ok x, w)
  | (.error e, w) => match handler e w with
    | (.ok (), w) => (.error e, w)
    | (.error e', w) => (.error e', w)

/-- The outcome of an action as a value: nothing is raised. -/
def attempt (a : Action ω α) : Action ω (Except Fault α) := fun w =>
  match a w with
  | (r, w) => (.ok r, w)

/-- **An ordinary fault reported as a failure**; an interrupt goes on as it is. -/
def reporting (report : Fault → Failure) (a : Action ω α) : Action ω α := fun w =>
  match a w with
  | (.ok x, w) => (.ok x, w)
  | (.error e, w) => (.error (if e.isOrdinary then .failure (report e) else e), w)

/-! ## What the combinators do to a world -/

@[simp] theorem pure_apply (x : α) (w : ω) : (pure x : Action ω α) w = (.ok x, w) := rfl

@[simp] theorem throw_apply (e : Fault) (w : ω) : (throw e : Action ω α) w = (.error e, w) := rfl

theorem bind_apply (a : Action ω α) (f : α → Action ω β) (w : ω) :
    (a >>= f) w = match a w with
      | (.ok x, w) => f x w
      | (.error e, w) => (.error e, w) := rfl

theorem bind_of_ok {a : Action ω α} {f : α → Action ω β} {w w' : ω} {x : α}
    (h : a w = (.ok x, w')) : (a >>= f) w = f x w' := by rw [bind_apply, h]

theorem bind_of_error {a : Action ω α} {f : α → Action ω β} {w w' : ω} {e : Fault}
    (h : a w = (.error e, w')) : (a >>= f) w = (.error e, w') := by rw [bind_apply, h]

@[simp] theorem world_apply (w : ω) : (world : Action ω ω) w = (.ok w, w) := rfl

@[simp] theorem update_apply (f : ω → ω) (w : ω) : update f w = (.ok (), f w) := rfl

theorem bind_pure_self (a : Action ω α) : Action.bind a (fun x => pure x) = a := by
  funext w
  unfold Action.bind
  split <;> simp_all

theorem bind_bind {γ : Type} (a : Action ω α) (f : α → Action ω β) (g : β → Action ω γ) :
    Action.bind (Action.bind a f) g = Action.bind a fun x => Action.bind (f x) g := by
  funext w
  unfold Action.bind
  cases a w with
  | mk r w => cases r <;> rfl

instance : LawfulMonad (Action ω) :=
  LawfulMonad.mk' _ bind_pure_self (fun _ _ => rfl) bind_bind

end Action

end SqlScript
