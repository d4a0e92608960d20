import SqlScript.Proofs.Simulation
import SqlScript.Proofs.Transaction

/-!
# A run and its clock

A run reads the clock before its transaction and after it. The transaction leaves the clock alone,
so both times are known when the run begins: they are the next two that the clock shows.

* `World.HasTime`: the two times of a run, between which there is a whole number of milliseconds.
* `World.AlwaysHasTime`: so it is between any two times.
* `Responder.result_executeUnits`: **the result of a run is that of its session**, if time can be
  told.
-/

namespace SqlScript

/-! ## The times of a run -/

/-- **Time can be told**: between the next two times that the clock shows there is a whole number of
milliseconds. So it is unless a time is no number, or the two are infinitely far apart. -/
def World.HasTime {κ τ : Type} (w : World κ τ) : Prop :=
  ∃ ms, elapsedMilliseconds w.now w.tick.now = .ok ms

instance {κ τ : Type} (w : World κ τ) : Decidable w.HasTime :=
  match h : elapsedMilliseconds w.now w.tick.now with
  | .ok ms => .isTrue ⟨ms, h⟩
  | .error _ => .isFalse fun ⟨_, hms⟩ => nomatch h.symm.trans hms

namespace World

variable {κ τ : Type} {w : World κ τ}

/-- **The times that the clock will show.** -/
def times (w : World κ τ) : List Float := w.clock.headD 0 :: w.clock.tail

/-- **Time can always be told**: between any two times that the clock will show there is a whole
number of milliseconds. -/
def AlwaysHasTime (w : World κ τ) : Prop :=
  ∀ start ∈ w.times, ∀ finish ∈ w.times, ∃ ms, elapsedMilliseconds start finish = .ok ms

theorem now_mem_times (w : World κ τ) : w.now ∈ w.times := List.mem_cons_self

theorem now_congr {w w' : World κ τ} (h : w.clock = w'.clock) : w.now = w'.now := by
  unfold now
  rw [h]

theorem times_congr {w w' : World κ τ} (h : w.clock = w'.clock) : w.times = w'.times := by
  unfold times
  rw [h]

theorem AlwaysHasTime.mono {w w' : World κ τ} (hw : w.AlwaysHasTime) (h : w'.times ⊆ w.times) :
    w'.AlwaysHasTime :=
  fun start hstart finish hfinish => hw start (h hstart) finish (h hfinish)

/-- A clock that was read shows no new times. -/
theorem times_tick_subset (w : World κ τ) : w.tick.times ⊆ w.times := by
  unfold times tick
  cases hc : w.clock with
  | nil => simp
  | cons t ts => cases ts <;> simp

end World

namespace Responder

open SqlScript.Action

variable {σ : Type} {d : Responder σ}

/-- Requests leave the clock alone. -/
theorem simulates_clock (d : Responder σ) (clock : List Float) :
    d.backend.Simulates (Along fun w => w.clock = clock) d.backend := by
  have hask (request : Request) :
      Action.Simulates (Along fun w : World Request σ => w.clock = clock)
        (d.ask request) (d.ask request) := simulates_along.2 fun _ hw => hw
  have htell (request : Request) :
      Action.Simulates (Along fun w : World Request σ => w.clock = clock) (d.tell request)
        (d.tell request) := (hask request).bind fun _ => .pure ()
  exact {
    acquire := htell .acquire
    release := fun _ => htell .release
    prepare := fun _ sql => (htell (.prepare sql)).bind fun _ => .pure _
    bind := fun s position value => (htell (.bind s.sql position value)).bind fun _ => .pure _
    execute := fun s => hask (.execute s.sql s.bindings.values)
    closeCursor := fun cursor => simulates_along.2 fun w hw => by
      show (World.closeCursor .closeCursor cursor w).2.clock = clock
      unfold World.closeCursor
      cases cursor.closeFault <;> exact hw
    commit := fun _ => htell .commit
    rollback := fun _ => htell .rollback
    say := fun _ _ => simulates_along.2 fun _ hw => hw }

/-- **The result of a run is that of its session**, if time can be told; only after a commit does
the run look at the clock again. -/
theorem result_executeUnits (loader : Loader) (strict : Bool) {units : List StatementUnit}
    {batches : List Batch} (hlength : batches.length = units.length) (hunits : units ≠ [])
    (w : World Request σ) :
    ((d.runner loader strict).executeUnits units batches w).1 =
      (d.session w.outside (units.zip batches)).result.bind fun outcomes =>
        (elapsedMilliseconds w.now w.tick.now).map fun _ => outcomes := by
  have hs : Yields _ w.tick _ _ _ := yields_session (d := d) (units.zip batches) w.tick
  have hclock := simulates_along.1 (Backend.simulates_transaction
    (simulates_clock d w.tick.clock) (units.zip batches)) w.tick rfl
  -- the transaction left the clock as it was, so the second time is the next one that it shows
  have hnow : World.now (d.backend.transaction
      (fun c => d.backend.runUnits c (units.zip batches)) w.tick).2 = w.tick.now := by
    unfold World.now
    rw [hclock]
  rw [← hnow]
  exact ((d.runner loader strict).yields_executeUnits_of hlength hunits hs).result

end Responder

end SqlScript
