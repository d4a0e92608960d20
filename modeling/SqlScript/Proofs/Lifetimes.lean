import SqlScript.Proofs.PoolAccounts
import SqlScript.Proofs.Whereabouts

/-!
# The lifetimes of connections

Callers acquire and release leases in any order, nest scoped leases, close the pool and ask
statements of its connections, and the driver raises what it likes. Once no lease is out, every
connection that was ever opened was closed exactly once, with two exceptions: a release may have
lost it, and it may still wait if no closing of the pool came to its end.

* `Sqlite.Composes`, `Sqlite.Composes.runAll`: what holds of single steps, and of two histories one
  after the other, holds of all histories.
* `Sqlite.Entry.lost`: the connection that a step lost.
* `Sqlite.Keeps`, `Sqlite.keeps_runAll`: what steps and histories keep of connections.
* `Sqlite.Operation.bare_runAll`: a history over the recorded driver is one over the driver.
* `Sqlite.AreAccountedFor`, `Sqlite.areAccountedFor_runAll`: **what became of all connections.**
* `Sqlite.not_closed_interrupted`: both exceptions occur.
-/

namespace SqlScript.Sqlite

open SqlScript.Action

variable {σ : Type} {d : Driver σ}

/-! ## Induction over histories -/

/-- **A property of histories** that no step has, every single step, and two histories one after the
other if each of them does. -/
structure Composes (d : Driver σ) (K : Books σ → List (Entry σ) → Books σ → Prop) : Prop where
  empty : ∀ b, K b [] b
  step : ∀ b deed, K b [b.enter d deed] (b.enter d deed).after
  append : ∀ {b b' b'' record more}, K b record b' → K b' more b'' → K b (record ++ more) b''

namespace Composes

variable {K : Books σ → List (Entry σ) → Books σ → Prop}

-- a scope is an operation with operations inside, so the two are by one recursion
mutual

theorem run (h : Composes d K) :
    ∀ (operation : Operation) (b : Books σ), K b (operation.run d b).1 (operation.run d b).2
  | .acquire, b => by
    rw [Operation.run]
    exact h.step b _
  | .release number, b => by
    rw [Operation.run]
    split
    · exact h.step b _
    · exact h.empty b
  | .scoped body, b => by
    rw [Operation.run]
    split
    · exact h.step b _
    · -- acquiring, the operations inside, releasing
      exact h.append (h.step b _) (h.append (h.runAll body _) (h.step _ _))
  | .close, b => by
    rw [Operation.run]
    exact h.step b _
  | .request call, b => by
    rw [Operation.run]
    exact h.step b _

/-- **Such a property holds of all histories.** -/
theorem runAll (h : Composes d K) : ∀ (operations : List Operation) (b : Books σ),
    K b (Operation.runAll d b operations).1 (Operation.runAll d b operations).2
  | [], b => by
    rw [Operation.runAll]
    exact h.empty b
  | operation :: operations, b => by
    rw [Operation.runAll]
    exact h.append (h.run operation b) (h.runAll operations _)

end

end Composes

/-! ## Histories over the recorded driver -/

/-- Books without the diary of the driver. -/
def Books.bare (b : Books (Diary σ)) : Books σ := ⟨Sqlite.bare b.world, b.given, b.returned⟩

/-- A step on record without the diary. -/
def Entry.bare (e : Entry (Diary σ)) : Entry σ := ⟨e.deed, e.fault, e.before.bare, e.after.bare⟩

/-- Actions that simulate each other have one outcome. -/
theorem Books.exists_of_simulates {α : Type} {a : PoolAction (Diary σ) α} {a' : PoolAction σ α}
    (h : Action.Simulates (fun w w' => Sqlite.bare w = w') a a') (b : Books (Diary σ)) :
    ∃ r w, a b.world = (r, w) ∧ a' b.bare.world = (r, Sqlite.bare w) := by
  obtain ⟨hresult, hworld⟩ := h b.world b.bare.world rfl
  exact ⟨_, _, rfl, Prod.ext hresult.symm hworld.symm⟩

/-- A step over the recorded driver is the step over the driver. -/
theorem Books.bare_enter (d : Driver σ) (b : Books (Diary σ)) (deed : Deed) :
    (b.enter d.recorded deed).bare = b.bare.enter d deed := by
  have hbackend := simulates_backend_recorded d
  have hrecorded := simulates_recorded d
  cases deed with
  | acquire =>
    obtain ⟨r, w, hw, hw'⟩ := b.exists_of_simulates hbackend.acquire
    rw [show (backend d.recorded).acquire = Pool.acquire d.recorded from rfl] at hw
    rw [show (backend d).acquire = Pool.acquire d from rfl] at hw'
    simp only [Books.enter, hw, hw']
    cases r <;> rfl
  | release l =>
    obtain ⟨r, w, hw, hw'⟩ := b.exists_of_simulates (hbackend.release l)
    rw [show (backend d.recorded).release l = Pool.release d.recorded l from rfl] at hw
    rw [show (backend d).release l = Pool.release d l from rfl] at hw'
    simp only [Books.enter, hw, hw']
    rfl
  | close =>
    obtain ⟨r, w, hw, hw'⟩ := b.exists_of_simulates (hrecorded.close fun _ => trivial)
    simp only [Books.enter, hw, hw']
    rfl
  | request call =>
    have htell : Action.Simulates _ (d.recorded.tell call) (d.tell call) := hrecorded.tell trivial
    obtain ⟨r, w, hw, hw'⟩ := b.exists_of_simulates htell
    simp only [Books.enter, hw, hw']
    rfl

mutual

/-- An operation over the recorded driver is the operation over the driver. -/
theorem Operation.bare_run (d : Driver σ) : ∀ (operation : Operation) (b : Books (Diary σ)),
    ((operation.run d.recorded b).1.map Entry.bare, (operation.run d.recorded b).2.bare) =
      operation.run d b.bare
  | .acquire, b => by
    rw [Operation.run, Operation.run, ← Books.bare_enter]
    rfl
  | .release number, b => by
    rw [Operation.run, Operation.run, show b.bare.given = b.given from rfl]
    split
    · rw [← Books.bare_enter]
      rfl
    · rfl
  | .scoped body, b => by
    -- both drivers give a lease or neither does, and with one the body and the release follow
    have henter := Books.bare_enter d b .acquire
    obtain ⟨r, w, hw, hw'⟩ := b.exists_of_simulates (simulates_backend_recorded d).acquire
    rw [show (backend d.recorded).acquire = Pool.acquire d.recorded from rfl] at hw
    rw [show (backend d).acquire = Pool.acquire d from rfl] at hw'
    rw [Operation.run, Operation.run, hw, hw', ← henter]
    cases r with
    | error e => rfl
    | ok l =>
      have hinner : (_, _) = Operation.runAll d (b.enter d.recorded .acquire).bare.after body :=
        Operation.bare_runAll d body (b.enter d.recorded .acquire).after
      have hlast := Books.bare_enter d
        (Operation.runAll d.recorded (b.enter d.recorded .acquire).after body).2 (.release l)
      simp only [← hinner, ← hlast, List.map_cons, List.map_append, List.map_nil]
      rfl
  | .close, b => by
    rw [Operation.run, Operation.run, ← Books.bare_enter]
    rfl
  | .request call, b => by
    rw [Operation.run, Operation.run, ← Books.bare_enter]
    rfl

/-- **A history over the recorded driver is the history over the driver**, with a diary. -/
theorem Operation.bare_runAll (d : Driver σ) :
    ∀ (operations : List Operation) (b : Books (Diary σ)),
      ((Operation.runAll d.recorded b operations).1.map Entry.bare,
        (Operation.runAll d.recorded b operations).2.bare) = Operation.runAll d b.bare operations
  | [], b => by
    rw [Operation.runAll, Operation.runAll]
    rfl
  | operation :: operations, b => by
    have hfirst := Operation.bare_run d operation b
    have hrest := Operation.bare_runAll d operations (operation.run d.recorded b).2
    rw [Operation.runAll, Operation.runAll, ← hfirst, ← hrest]
    simp only [List.map_append]

end

/-! ## Steps -/

theorem eq_ok_of_faultOf {r : Except Fault Unit} (h : faultOf r = none) : r = .ok () := by
  cases r with
  | ok _ => rfl
  | error e => cases h

/-- The notes in the diary of the driver. -/
def Books.notes (b : Books (Diary σ)) : List Note := b.world.outside.driver.notes

/-- A pool that is closed and in which no connection waits. -/
def Books.IsDrained (b : Books σ) : Prop := b.pool.closed = true ∧ b.pool.idle = []

namespace Entry

/-- The notes that a step added to the diary. -/
def added (e : Entry (Diary σ)) : List Note := e.after.notes.drop e.before.notes.length

/-- **The connection that a step lost.** Only a release loses any. -/
def lost (e : Entry (Diary σ)) : List Nat :=
  match e.deed with
  | .release _ => lostBy e.added
  | _ => []

end Entry

/-- A step of callers who leave the opening and closing of connections to the pool. -/
def Deed.IsFair : Deed → Prop
  | .request call => call.IsNeutral
  | _ => True

/-- **What a history keeps of connections**, if some were lost before it. -/
structure Keeps (lost : List Nat) (b : Books (Diary σ)) (record : List (Entry (Diary σ)))
    (b' : Books (Diary σ)) : Prop where
  /-- Each connection stays in one place. -/
  accounts : b'.world.outside.Accounts (lost ++ record.flatMap Entry.lost) []
  /-- A step that loses one raises nothing that the database calls its own. -/
  faults : ∀ e ∈ record, e.lost ≠ [] → ∃ f, e.fault = some f ∧ f.isDatabaseError = false
  /-- A drained pool stays drained. -/
  drained : b.IsDrained → b'.IsDrained
  /-- A closing that comes to its end drains the pool. -/
  drains : ∀ e ∈ record, e.deed = .close → e.fault = none → b'.IsDrained

namespace Keeps

variable {b b' b'' : Books (Diary σ)} {lost : List Nat} {record more : List (Entry (Diary σ))}

theorem append (h : Keeps lost b record b')
    (h' : Keeps (lost ++ record.flatMap Entry.lost) b' more b'') :
    Keeps lost b (record ++ more) b'' where
  accounts := by
    rw [List.flatMap_append, ← List.append_assoc]
    exact h'.accounts
  faults e he := (List.mem_append.1 he).elim (h.faults e) (h'.faults e)
  drained := h'.drained ∘ h.drained
  drains e he hclose hfault := (List.mem_append.1 he).elim
    (fun he => h'.drained (h.drains e he hclose hfault)) fun he => h'.drains e he hclose hfault

theorem empty (h : b.world.outside.Accounts lost []) : Keeps lost b [] b where
  accounts := by
    rw [List.flatMap_nil, List.append_nil]
    exact h
  faults _ he := absurd he List.not_mem_nil
  drained := id
  drains _ he := absurd he List.not_mem_nil

/-- A step that loses no connection and closes no pool. -/
theorem single {e : Entry (Diary σ)} (hlost : e.lost = []) (hclose : e.deed ≠ .close)
    (haccounts : b'.world.outside.Accounts lost []) (hdrained : b.IsDrained → b'.IsDrained) :
    Keeps lost b [e] b' where
  accounts := by
    rw [List.flatMap_singleton, hlost, List.append_nil]
    exact haccounts
  faults e' he' hne := by
    obtain rfl := List.mem_singleton.1 he'
    exact absurd hlost hne
  drained := hdrained
  drains e' he' h := by
    obtain rfl := List.mem_singleton.1 he'
    exact absurd h hclose

end Keeps

variable {b : Books (Diary σ)} {lost : List Nat}

theorem lost_enter {deed : Deed} (hdeed : ∀ l, deed ≠ .release l) :
    (b.enter d.recorded deed).lost = [] := by
  unfold Entry.lost
  rw [(b.on_record d.recorded deed).1]
  cases deed with
  | release l => exact absurd rfl (hdeed l)
  | acquire | close | request => rfl

/-- A lease that is given out, or refused. -/
theorem keeps_acquire (h : b.world.outside.Accounts lost []) :
    Keeps lost b [b.enter d.recorded .acquire] (b.enter d.recorded .acquire).after := by
  have hworld : (b.enter d.recorded .acquire).after.world =
      (Pool.acquire d.recorded b.world).2 := by
    unfold Books.enter
    rcases Pool.acquire d.recorded b.world with ⟨r, w⟩
    cases r <;> rfl
  refine .single (lost_enter fun _ => nofun) ?_ ?_ fun hb => ?_
  · rw [(b.on_record d.recorded .acquire).1]
    nofun
  · rw [hworld]
    exact ensures_accounts_acquire h
  · -- a closed pool refuses
    unfold Books.IsDrained Books.pool
    rw [hworld, Pool.acquire_of_closed hb.1]
    exact hb

/-- A lease that is released, the first time or once more: the one step that may lose a
connection. -/
theorem keeps_release (h : b.world.outside.Accounts lost []) (l : Lease) :
    Keeps lost b [b.enter d.recorded (.release l)] (b.enter d.recorded (.release l)).after := by
  have hreturns : Returns lost b.world.outside (Pool.release d.recorded l b.world).1
      (Pool.release d.recorded l b.world).2.outside := ensures_returns_release h l
  obtain ⟨fresh, hnotes, haccounts, hfault⟩ := hreturns.accounts
  -- the notes that the release added are those that say what it lost
  have hlost : (b.enter d.recorded (.release l)).lost = lostBy fresh := by
    show lostBy ((Pool.release d.recorded l b.world).2.outside.driver.notes.drop _) = _
    rw [hnotes]
    exact congrArg lostBy List.drop_left
  exact {
    accounts := by
      rw [List.flatMap_singleton, hlost]
      exact haccounts
    faults := by
      intro e he hne
      obtain rfl := List.mem_singleton.1 he
      rw [hlost] at hne
      obtain ⟨f, hf, hother⟩ := hfault hne
      refine ⟨f, ?_, hother⟩
      show faultOf (Pool.release d.recorded l b.world).1 = some f
      rw [hf]
      rfl
    drained := fun hb => ⟨hreturns.closed.trans hb.1, (hreturns.idle hb.1).trans hb.2⟩
    drains := by
      intro e he hclose
      obtain rfl := List.mem_singleton.1 he
      cases hclose }

/-- A pool that is closed, perhaps not for the first time. -/
theorem keeps_close (h : b.world.outside.Accounts lost []) :
    Keeps lost b [b.enter d.recorded .close] (b.enter d.recorded .close).after := by
  have hlost : (b.enter d.recorded .close).lost = [] := lost_enter fun _ => nofun
  have hcloses := ensures_accounts_close (d := d) h
  unfold Ensures at hcloses
  obtain ⟨haccounts, hclosed, hidle⟩ := hcloses
  exact {
    accounts := by
      rw [List.flatMap_singleton, hlost, List.append_nil]
      exact haccounts
    faults := by
      intro e he hne
      obtain rfl := List.mem_singleton.1 he
      exact absurd hlost hne
    drained := fun hb => ⟨hclosed, hidle (.inr hb.2)⟩
    drains := by
      intro e he _ hfault
      obtain rfl := List.mem_singleton.1 he
      exact ⟨hclosed, hidle (.inl (eq_ok_of_faultOf hfault))⟩ }

theorem keeps_request (h : b.world.outside.Accounts lost []) {call : Call}
    (hcall : call.IsNeutral) :
    Keeps lost b [b.enter d.recorded (.request call)]
      (b.enter d.recorded (.request call)).after := by
  have htold : (d.recorded.tell call b.world).2.outside = b.world.outside.told d call :=
    ensures_told d call b.world
  refine .single (lost_enter fun _ => nofun) ?_ ?_ fun hb => ?_
  · rw [(b.on_record d.recorded (.request call)).1]
    nofun
  · show (d.recorded.tell call b.world).2.outside.Accounts lost []
    rw [htold]
    exact h.told hcall
  · show (d.recorded.tell call b.world).2.outside.pool.closed = true ∧
      (d.recorded.tell call b.world).2.outside.pool.idle = []
    rw [htold]
    exact hb

/-- **Each step keeps account of all connections.** -/
theorem keeps_enter (h : b.world.outside.Accounts lost []) {deed : Deed} (hfair : deed.IsFair) :
    Keeps lost b [b.enter d.recorded deed] (b.enter d.recorded deed).after := by
  cases deed with
  | acquire => exact keeps_acquire h
  | release l => exact keeps_release h l
  | close => exact keeps_close h
  | request call => exact keeps_request h hfair

/-- **Histories keep account of all connections**, if callers are fair. -/
theorem keeps_runAll (h : b.world.outside.Accounts lost []) {operations : List Operation}
    (hfair : ∀ e ∈ (Operation.runAll d.recorded b operations).1, e.deed.IsFair) :
    Keeps lost b (Operation.runAll d.recorded b operations).1
      (Operation.runAll d.recorded b operations).2 := by
  -- what was lost before is carried along, for the second of two histories starts with the first's
  have hcomposes : Composes d.recorded fun b record b' =>
      (∀ e ∈ record, e.deed.IsFair) → ∀ lost, b.world.outside.Accounts lost [] →
        Keeps lost b record b' := {
    empty := fun _ _ _ h => .empty h
    step := fun b deed hfair lost h => by
      have hdeed := hfair _ List.mem_cons_self
      rw [(b.on_record d.recorded deed).1] at hdeed
      exact keeps_enter h hdeed
    append := fun hfirst hrest hfair lost h => by
      obtain ⟨hfair₁, hfair₂⟩ := List.forall_mem_append.1 hfair
      have hkeeps := hfirst hfair₁ lost h
      exact hkeeps.append (hrest hfair₂ _ hkeeps.accounts) }
  exact hcomposes.runAll operations b hfair lost h

/-! ## What became of all connections -/

/-- A new pool has no connections to account for. -/
theorem Session.accounts_new {database : String} {size acquireTimeout busyTimeout : Amount}
    {p : Pool} (hp : (Pool.create database size acquireTimeout busyTimeout).1 = .ok p)
    (state : σ) : Session.Accounts [] [] (Session.new p state) := by
  obtain ⟨-, hidle, hleases, -⟩ := Pool.of_create hp
  have hnone : (Session.new p state).connections [] = [] := by
    show p.idle ++ p.leases.map (·.connection) = []
    rw [hidle, hleases]
    rfl
  refine ⟨fun c => ?_, List.nodup_nil, fun c hc => absurd hc List.not_mem_nil⟩
  rw [hnone]
  rfl

/-- **What became of all connections**, once no lease is out. -/
structure AreAccountedFor (record : List (Entry (Diary σ))) (b : Books (Diary σ)) : Prop where
  /-- Only connections that were opened are closed, -/
  opened : ∀ c ∈ closings b.notes, c ∈ opened b.notes
  /-- none of them twice, -/
  once : (closings b.notes).Nodup
  /-- and all of them but one that still waits or that a release lost. -/
  closed_iff : ∀ c ∈ Sqlite.opened b.notes,
    c ∈ closings b.notes ↔ c ∉ b.pool.idle ∧ ∀ e ∈ record, c ∉ e.lost
  /-- None waits if the pool was closed without a fault. -/
  drained : (∃ e ∈ record, e.deed = .close ∧ e.fault = none) → b.pool.idle = []
  /-- A release that lost one raised what the database does not call its own. -/
  faults : ∀ e ∈ record, e.lost ≠ [] → ∃ f, e.fault = some f ∧ f.isDatabaseError = false

theorem Keeps.areAccountedFor {b b' : Books (Diary σ)} {record : List (Entry (Diary σ))}
    (h : Keeps [] b record b') (hleases : b'.pool.leases = []) : AreAccountedFor record b' := by
  -- with no lease out there are three places left, and each opened connection is in one of them
  have haccounts := h.accounts
  rw [List.nil_append] at haccounts
  have hplaces (c : Nat) : (opened b'.notes).count c = b'.pool.idle.count c +
      (closings b'.notes).count c + (record.flatMap Entry.lost).count c := by
    have hconnections : b'.world.outside.connections [] = b'.pool.idle := by
      show b'.pool.idle ++ b'.pool.leases.map (·.connection) = _
      rw [hleases]
      exact List.append_nil _
    rw [← hconnections]
    exact haccounts.places c
  have honce := List.nodup_iff_count.1 haccounts.once
  exact {
    opened := fun c hc => by
      have hpos := List.count_pos_iff.2 hc
      have hcount := hplaces c
      exact List.count_pos_iff.1 (by omega)
    once := List.nodup_iff_count.2 fun c => by
      have hcount := hplaces c
      have hle : (opened b'.notes).count c ≤ 1 := honce c
      omega
    closed_iff := fun c hc => by
      have hcount := hplaces c
      have hpos := List.count_pos_iff.2 hc
      have hle : (opened b'.notes).count c ≤ 1 := honce c
      have hlost : (∀ e ∈ record, c ∉ e.lost) ↔ (record.flatMap Entry.lost).count c = 0 := by
        rw [List.count_eq_zero, List.mem_flatMap]
        simp only [not_exists, not_and]
      rw [hlost, ← List.count_eq_zero, ← List.count_pos_iff]
      omega
    drained := fun ⟨e, he, hclose, hfault⟩ => (h.drains e he hclose hfault).2
    faults := h.faults }

/-- **No connection is opened and forgotten.** Callers do anything with a new pool, over a driver
that keeps a diary and otherwise does what it does anyway. Once no lease is out, every connection
was closed exactly once, but for those that a release lost and those that no closing came to. -/
theorem areAccountedFor_runAll {database : String} {size acquireTimeout busyTimeout : Amount}
    {p : Pool} (hp : (Pool.create database size acquireTimeout busyTimeout).1 = .ok p)
    (d : Driver σ) (state : σ) (operations : List Operation) :
    let history := Operation.runAll d.recorded ⟨{ outside := .new p state }, [], []⟩ operations
    (history.1.map Entry.bare, history.2.bare) =
      Operation.runAll d ⟨{ outside := { pool := p, driver := state } }, [], []⟩ operations ∧
    ((∀ e ∈ history.1, e.deed.IsFair) → history.2.pool.leases = [] →
      AreAccountedFor history.1 history.2) := by
  intro history
  refine ⟨Operation.bare_runAll d operations _, fun hfair hleases => ?_⟩
  exact (keeps_runAll (Session.accounts_new hp state) hfair).areAccountedFor hleases

/-- A lease inside another on a pool of one connection, and a lease that is released after the pool
was closed. -/
theorem areAccountedFor_runAll_tracking :
    (Pool.create "a.db" (.whole 1) (.fractional 30) (.fractional 5)).1 = .ok (singlePool 30) ∧
    let history := Operation.runAll Driver.tracking.recorded
      ⟨{ outside := .new (singlePool 30) [] }, [], []⟩
      [.scoped [.request (.execute 1 "CREATE TABLE t (a)" []), .acquire], .acquire, .close,
        .release 1]
    (∀ e ∈ history.1, e.deed.IsFair) ∧ history.2.pool.leases = [] ∧
      opened history.2.notes = [1] ∧ AreAccountedFor history.1 history.2 := by
  have hcreate : (Pool.create "a.db" (.whole 1) (.fractional 30) (.fractional 5)).1 =
      .ok (singlePool 30) := rfl
  refine ⟨hcreate, ?_⟩
  intro history
  -- the acquire inside is refused: the one slot is the scope's
  have hdeeds : history.1.map Entry.deed = [.acquire,
      .request (.execute 1 "CREATE TABLE t (a)" []), .acquire, .release ⟨0, 1⟩, .acquire, .close,
      .release ⟨1, 1⟩] := rfl
  have hall : ∀ deed ∈ history.1.map Entry.deed, deed.IsFair := by
    rw [hdeeds]
    simp [Deed.IsFair, Call.IsNeutral]
  have hfair : ∀ e ∈ history.1, e.deed.IsFair := fun e he => hall _ (List.mem_map_of_mem he)
  have hleases : history.2.pool.leases = [] := rfl
  refine ⟨hfair, hleases, rfl, ?_⟩
  exact (areAccountedFor_runAll hcreate Driver.tracking [] _).2 hfair hleases

/-- A driver that raises one fault on some requests, and finds every connection inside a
transaction. -/
def Driver.raising (e : Fault) (fails : Call → Bool) : Driver Unit where
  answer call _ := (if fails call then .error e else .ok {}, ())
  makeDirectories _ _ := (.ok (), ())
  inTransaction _ _ := true

/-- Whether a request is a rollback. -/
def Call.isRollback : Call → Bool
  | .rollback _ => true
  | _ => false

/-- Whether a request is one to close a connection. -/
def Call.isClose : Call → Bool
  | .close _ => true
  | _ => false

/-- **Connections can be forgotten in two ways**: one whose rollback is interrupted is not closed,
and those behind one that cannot be closed are not either. In both cases the pool was closed and no
lease is out. -/
theorem not_closed_interrupted :
    let interrupted := Operation.runAll
      (Driver.raising (.of .interrupt "stop") Call.isRollback).recorded
      ⟨{ outside := .new (singlePool 30) () }, [], []⟩ [.acquire, .release 0, .close]
    let failing := Operation.runAll
      (Driver.raising (.of (.database .operational) "disk I/O error") Call.isClose).recorded
      ⟨{ outside := .new { singlePool 30 with size := .whole 2, free := some 2 } () }, [], []⟩
      [.acquire, .acquire, .release 0, .release 1, .close]
    (interrupted.2.pool.closed = true ∧ interrupted.2.pool.leases = [] ∧
      opened interrupted.2.notes = [1] ∧ closings interrupted.2.notes = []) ∧
    failing.2.pool.closed = true ∧ failing.2.pool.leases = [] ∧
      opened failing.2.notes = [1, 2] ∧ closings failing.2.notes = [2] :=
  ⟨⟨rfl, rfl, rfl, rfl⟩, rfl, rfl, rfl, rfl⟩

end SqlScript.Sqlite
