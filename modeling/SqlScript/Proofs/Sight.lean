import SqlScript.Proofs.Clock
import SqlScript.Proofs.PoolSimulation

/-!
# What an action sees

The operations of a backend see what lies outside, and neither the log nor the clock nor the printed
text. So a transaction does the same from any two worlds with the same outside.

* `World.Alike`: worlds that went the same way from two others.
* `Action.SeesOutside`: an action that takes worlds with the same outside the same way.
* `SeesOutside.alike`, `SeesOutside.yields`: what it comes to in one world, it comes to in the
  other.
* `Responder.seesOutside_backend`, `Sqlite.seesOutside_backend`: **both backends see only what lies
  outside.**
-/

namespace SqlScript

open SqlScript.Action

variable {κ τ α : Type}

/-- **Worlds that went the same way** from two others: they have the same outside, the same requests
were made, and the clock was not read. -/
structure World.Alike (w₀ w₀' w w' : World κ τ) : Prop where
  outside : w.outside = w'.outside
  trace : ∃ made, w.trace = w₀.trace ++ made ∧ w'.trace = w₀'.trace ++ made
  clock : w.clock = w₀.clock
  clock' : w'.clock = w₀'.clock

namespace Action

/-- **An action sees only what lies outside** if it takes worlds with the same outside the same
way. -/
def SeesOutside (a : Action (World κ τ) α) : Prop :=
  ∀ w₀ w₀', Action.Simulates (World.Alike w₀ w₀') a a

/-- **An action does alike in two worlds** if it makes the same requests, leaves the same outside
and has the same result. -/
def DoesAlike (a : Action (World κ τ) α) (w w' : World κ τ) : Prop :=
  ∃ made state r, Yields a w made state r ∧ Yields a w' made state r

namespace SeesOutside

variable {a : Action (World κ τ) α} {w w' : World κ τ}

/-- An action whose requests, state and result are functions of what lies outside. -/
theorem of_forall (made : τ → List κ) (state : τ → τ) (r : τ → Except Fault α)
    (h : ∀ w, Yields a w (made w.outside) (state w.outside) (r w.outside))
    (hclock : ∀ w, (a w).2.clock = w.clock) : SeesOutside a := by
  intro w₀ w₀' w w' hw
  obtain ⟨before, htrace, htrace'⟩ := hw.trace
  have hyields := h w
  have hyields' := h w'
  rw [← hw.outside] at hyields'
  refine ⟨hyields.result.trans hyields'.result.symm, ?_⟩
  exact {
    outside := hyields.outside.trans hyields'.outside.symm
    trace := by
      refine ⟨before ++ made w.outside, ?_, ?_⟩
      · rw [hyields.trace, htrace, List.append_assoc]
      · rw [hyields'.trace, htrace', List.append_assoc]
    clock := (hclock w).trans hw.clock
    clock' := (hclock w').trans hw.clock' }

/-- The clock is left alone. -/
theorem clock (ha : SeesOutside a) (w : World κ τ) : (a w).2.clock = w.clock :=
  (ha w w w w ⟨rfl, ⟨[], by simp⟩, rfl, rfl⟩).2.clock

/-- **An action that sees only what lies outside does alike** wherever that is the same. -/
theorem alike (ha : SeesOutside a) (hsame : w.outside = w'.outside) : DoesAlike a w w' := by
  obtain ⟨hresult, hworld⟩ := ha w w' w w' ⟨hsame, ⟨[], by simp⟩, rfl, rfl⟩
  obtain ⟨made, htrace, htrace'⟩ := hworld.trace
  exact ⟨made, _, _, ⟨rfl, htrace, rfl⟩, ⟨hresult.symm, htrace', hworld.outside.symm⟩⟩

/-- What an action comes to in one world, it comes to in all with the same outside. -/
theorem yields (ha : SeesOutside a) {made : List κ} {state : τ} {r : Except Fault α}
    (h : Yields a w made state r) (hsame : w'.outside = w.outside) : Yields a w' made state r := by
  obtain ⟨made', state', r', h₁, h₁'⟩ := ha.alike hsame.symm
  obtain ⟨rfl, rfl, rfl⟩ := h.unique h₁
  exact h₁'

theorem say (level : LogLevel) (message : String) :
    SeesOutside (World.say level message : Action (World κ τ) Unit) :=
  of_forall (fun _ => []) id (fun _ => .ok ()) (Yields.say level message) fun _ => rfl

/-- Closing a cursor is up to the cursor. -/
theorem closeCursor (call : κ) (cursor : Cursor) :
    SeesOutside (World.closeCursor call cursor : Action (World κ τ) Unit) := by
  refine of_forall (fun _ => [call]) id (fun _ => _) (Yields.closeCursor call cursor) fun w => ?_
  unfold World.closeCursor
  cases cursor.closeFault <;> rfl

end SeesOutside

end Action

/-- **A backend sees only what lies outside** if each of its operations for a run does. -/
def Backend.SeesOutside {Conn Stmt : Type} (b : Backend κ τ Conn Stmt) : Prop :=
  ∀ w₀ w₀', b.Simulates (World.Alike w₀ w₀') b

/-- A transaction sees only what its backend sees. -/
theorem Backend.SeesOutside.transaction {Conn Stmt : Type} {b : Backend κ τ Conn Stmt}
    (hb : b.SeesOutside) (items : List (StatementUnit × Batch)) :
    Action.SeesOutside (b.transaction fun c => b.runUnits c items) :=
  fun w₀ w₀' => simulates_transaction (hb w₀ w₀') items

/-- **Requests to a database see only what lies outside.** -/
theorem Responder.seesOutside_backend {σ : Type} (d : Responder σ) : d.backend.SeesOutside := by
  intro w₀ w₀'
  have hask (request : Request) :
      Action.Simulates (World.Alike w₀ w₀') (d.ask request) (d.ask request) :=
    Action.SeesOutside.of_forall (fun _ => [request]) (fun s => (d request s).2)
      (fun s => (d request s).1) (Responder.yields_ask request) (fun _ => rfl) w₀ w₀'
  have htell (request : Request) :
      Action.Simulates (World.Alike w₀ w₀') (d.tell request) (d.tell request) :=
    (hask request).bind fun _ => .pure ()
  exact {
    acquire := htell .acquire
    release := fun _ => htell .release
    prepare := fun _ sql => (htell (.prepare sql)).bind fun _ => .pure _
    bind := fun s position value => (htell (.bind s.sql position value)).bind fun _ => .pure _
    execute := fun s => hask (.execute s.sql s.bindings.values)
    closeCursor := fun cursor => Action.SeesOutside.closeCursor Request.closeCursor cursor w₀ w₀'
    commit := fun _ => htell .commit
    rollback := fun _ => htell .rollback
    say := fun level message => Action.SeesOutside.say level message w₀ w₀' }

namespace Sqlite

variable {σ : Type}

/-- Requests to a driver see only what lies outside, and so does the state of a pool. -/
theorem simulates_alike (d : Driver σ) (w₀ w₀' : World Call (Session σ)) :
    Driver.Simulates (World.Alike w₀ w₀') (fun _ => True) d d := by
  have hquiet {β : Type} {a : PoolAction σ β} (state : Session σ → Session σ)
      (r : Session σ → Except Fault β) (h : ∀ w, Yields a w [] (state w.outside) (r w.outside))
      (hclock : ∀ w, (a w).2.clock = w.clock) : Action.Simulates (World.Alike w₀ w₀') a a :=
    Action.SeesOutside.of_forall (fun _ => []) state r h hclock w₀ w₀'
  exact {
    ask := fun call _ => Action.SeesOutside.of_forall (fun _ => [call])
      (fun s => { s with driver := (d.answer call s.driver).2 })
      (fun s => (d.answer call s.driver).1) (fun _ => ⟨rfl, rfl, rfl⟩) (fun _ => rfl) w₀ w₀'
    say := fun level message => Action.SeesOutside.say level message w₀ w₀'
    pool := hquiet id (fun s => .ok s.pool) (fun _ => ⟨rfl, (List.append_nil _).symm, rfl⟩)
      fun _ => rfl
    updatePool := fun f => hquiet (fun s => { s with pool := f s.pool }) (fun _ => .ok ())
      (fun _ => ⟨rfl, (List.append_nil _).symm, rfl⟩) fun _ => rfl
    nextConnection := hquiet (fun s => { s with connects := s.connects + 1 })
      (fun s => .ok (s.connects + 1)) (fun _ => ⟨rfl, (List.append_nil _).symm, rfl⟩) fun _ => rfl
    makeParents := fun database => hquiet
      (fun s => { s with driver := (d.makeDirectories (Path.ofString database).parent s.driver).2 })
      (fun s => (d.makeDirectories (Path.ofString database).parent s.driver).1)
      (fun _ => ⟨rfl, (List.append_nil _).symm, rfl⟩) fun _ => rfl
    isInTransaction := fun c => hquiet id (fun s => .ok (d.inTransaction s.driver c))
      (fun _ => ⟨rfl, (List.append_nil _).symm, rfl⟩) fun _ => rfl }

/-- **A pool of connections sees only what lies outside.** -/
theorem seesOutside_backend (d : Driver σ) : (backend d).SeesOutside := fun w₀ w₀' =>
  (simulates_alike d w₀ w₀').backend fun cursor =>
    Action.SeesOutside.closeCursor Call.closeCursor cursor w₀ w₀'

end Sqlite

end SqlScript
