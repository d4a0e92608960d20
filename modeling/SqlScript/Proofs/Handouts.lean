import SqlScript.Proofs.PoolAccounts
import SqlScript.Proofs.Tidiness

/-!
# What a pool hands out

Callers acquire and release leases of a pool, close it, and use the leases that are out as they
like, and the driver raises what it likes. A connection that is handed out is still open, nobody
else has it, and the transaction that begins on it is its only one.

* `Sqlite.Use`: what a holder does with a lease.
* `Sqlite.Move`: what callers do with a pool.
* `Sqlite.ensures_move`: one move keeps a pool tidy.
* `Sqlite.tidy_runAll`: so do moves one after the other.
* `Sqlite.isClean_of_acquire`: **what is handed out is clean and exclusive.**
-/

namespace SqlScript.Sqlite

open SqlScript.Action

variable {σ : Type}

/-- **What a holder does with a lease.** Statements are values: any statement may be bound or
executed on the connection, whether it was prepared there or not. -/
inductive Use where
  | prepare (sql : String)
  | bind (s : Prepared) (position : Int) (value : Value)
  | execute (s : Prepared)
  | commit
  | rollback

/-- Does what a holder does with a lease. -/
def Use.run (d : Driver σ) (l : Lease) : Use → PoolAction σ Unit
  | prepare sql => do let _ ← (backend d).prepare l sql
  | bind s position value => do let _ ← (backend d).bind s position value
  | execute s => do let _ ← (backend d).execute { s with connection := l.connection }
  | commit => (backend d).commit l
  | rollback => (backend d).rollback l

/-- **What callers do with a pool.** -/
inductive Move where
  | acquire
  | release (l : Lease)
  | close
  /-- Uses a lease. One that is not out is not used. -/
  | use (l : Lease) (u : Use)

/-- Does what a caller does. -/
def Move.run (d : Driver σ) : Move → PoolAction σ Unit
  | acquire => do let _ ← Pool.acquire d
  | release l => Pool.release d l
  | close => Pool.close d
  | use l u => do
    let p ← pool
    if l ∈ p.leases then u.run d l else return ()

/-- Does what callers do, one move after the other, whatever each raises. -/
def Move.runAll (d : Driver σ) (w : World Call (Session σ)) (moves : List Move) :
    World Call (Session σ) := moves.foldl (fun w move => (move.run d w).2) w

variable {d : Driver σ} {w : World Call (Session (Diary σ))} {s : Session (Diary σ)} {l : Lease}

/-! ## Uses of a lease -/

/-- **A use of a lease** makes requests on its connection. -/
theorem Use.exists_calls (d : Driver σ) (l : Lease) (u : Use) (w : World Call (Session σ)) :
    ∃ calls r, Yields (u.run d l) w calls (w.outside.afterAll d calls) r ∧
      ∀ call ∈ calls, call.IsOfLease l.connection := by
  cases u with
  | prepare sql =>
    obtain ⟨calls, r, hprepare, hcalls, -⟩ :=
      performs_prepare (d := d) l (placeholderCount_ofText 0 sql) w
    exact ⟨calls, _, hprepare.bind_map, fun call hcall => .inl (hcalls call hcall)⟩
  | bind s position value =>
    have hbind : Yields ((backend d).bind s position value) w [] w.outside
        (s.bind position value) := Yields.ofExcept _ w
    exact ⟨[], _, hbind.bind_map, fun _ hcall => nomatch hcall⟩
  | execute s =>
    obtain ⟨calls, r, hexecute, hcalls, -⟩ :=
      Performs.execute (d := d) (c := l.connection) s.sql s.bindings.values w
    exact ⟨calls, _, hexecute.bind_map, fun call hcall => .inl (hcalls call hcall)⟩
  | commit =>
    refine ⟨_, _, yields_tell (.commit l.connection) nofun w, fun call hcall => ?_⟩
    exact .inr (.inl (List.mem_singleton.1 hcall))
  | rollback =>
    refine ⟨_, _, yields_tell (.rollback l.connection) nofun w, fun call hcall => ?_⟩
    exact .inr (.inr (List.mem_singleton.1 hcall))

/-! ## Moves -/

/-- Whether a request opens a connection. -/
def Call.IsConnect : Call → Prop
  | .connect .. => True
  | _ => False

/-- What a move adds to the diary: it opens a connection only to acquire one while none waits. -/
def Move.OpensOnly (move : Move) (before after : Session (Diary σ)) : Prop :=
  before.Adds after fun note =>
    note.call.IsConnect → move = .acquire ∧ before.pool.idle = []

theorem Session.Adds.mono {s' : Session (Diary σ)} {P Q : Note → Prop} (h : s.Adds s' P)
    (hPQ : ∀ note, P note → Q note) : s.Adds s' Q := by
  obtain ⟨fresh, hfresh, hP⟩ := h
  exact ⟨fresh, hfresh, fun note hnote => hPQ note (hP note hnote)⟩

/-- An acquisition opens a connection only if none waits. -/
theorem opensOnly_of_isOfAcquisition {call : Call} {idle : List Nat}
    (h : call.IsOfAcquisition idle) (hconnect : call.IsConnect) : idle = [] := by
  cases call with
  | connect c database timeout => exact h
  | _ => exact absurd hconnect id

/-- **One move keeps a pool tidy.** -/
theorem ensures_move (hd : d.KeepsTransactions) (h : Session.Tidy d [] w.outside) (move : Move) :
    Ensures (move.run d.recorded) w fun _ u =>
      Session.Tidy d [] u.outside ∧ move.OpensOnly w.outside u.outside := by
  cases move with
  | acquire =>
    refine (ensures_acquire hd h).bind (fun l u hu => ⟨hu.tidy, ?_⟩) fun e u hu => ⟨hu.tidy, ?_⟩
    · obtain ⟨fresh, hnotes, hcalls⟩ := hu.notes
      refine ⟨_, hnotes, fun note hnote hconnect => ⟨rfl, ?_⟩⟩
      rcases List.mem_append.1 hnote with hnote | hnote
      · exact opensOnly_of_isOfAcquisition (hcalls note hnote) hconnect
      · rw [List.mem_singleton.1 hnote] at hconnect
        exact absurd hconnect id
    · exact hu.adds.mono fun note hnote hconnect =>
        ⟨rfl, opensOnly_of_isOfAcquisition hnote hconnect⟩
  | release l =>
    refine (ensures_release hd h l).mono fun _ u hu => ⟨hu.tidy, hu.adds.mono ?_⟩
    rintro ⟨_, _, _⟩ (rfl | rfl) hconnect <;> exact absurd hconnect id
  | close =>
    refine (ensures_close hd h).mono fun _ u hu => ⟨hu.tidy, hu.adds.mono ?_⟩
    rintro ⟨_, _, _⟩ ⟨c, rfl⟩ hconnect
    exact absurd hconnect id
  | use l u =>
    refine .bind_of_ok (rfl : pool w = _) ?_
    split
    · -- nothing that is asked on a lease opens a connection
      rename_i hl
      obtain ⟨calls, r, hyields, hcalls⟩ := u.exists_calls d.recorded l w
      obtain ⟨fresh, hfresh, hmap⟩ := notes_afterAll d w.outside calls
      show Session.Tidy d [] (u.run d.recorded l w).2.outside ∧
        Move.OpensOnly (.use l u) w.outside (u.run d.recorded l w).2.outside
      rw [hyields.outside]
      refine ⟨h.afterAll hd hl hcalls, fresh, hfresh, fun note hnote hconnect => ?_⟩
      have hmem : note.call ∈ calls :=
        List.mem_of_mem_filter (hmap ▸ List.mem_map_of_mem hnote)
      rcases hcalls _ hmem with (hcall | ⟨_, _, hcall⟩) | hcall | hcall
      all_goals
        rw [hcall] at hconnect
        exact absurd hconnect id
    · exact ⟨h, .refl _⟩

/-- **Moves one after the other keep a pool tidy.** -/
theorem tidy_runAll (hd : d.KeepsTransactions) (h : Session.Tidy d [] w.outside)
    (moves : List Move) : Session.Tidy d [] (Move.runAll d.recorded w moves).outside := by
  induction moves generalizing w with
  | nil => exact h
  | cons move moves ih => exact ih (ensures_move hd h move).1

/-- Moves over the recorded driver are moves over the driver, with a diary. -/
theorem bare_runAll (d : Driver σ) (w : World Call (Session (Diary σ))) (moves : List Move) :
    bare (Move.runAll d.recorded w moves) = Move.runAll d (bare w) moves := by
  have hsim := simulates_recorded d
  have hbackend := simulates_backend_recorded d
  have hmove (move : Move) :
      Action.Simulates (fun w w' => bare w = w') (move.run d.recorded) (move.run d) := by
    cases move with
    | acquire => exact hbackend.acquire.bind fun _ => .pure ()
    | release l => exact hbackend.release l
    | close => exact hsim.close fun _ => trivial
    | use l u =>
      refine hsim.pool.bind fun p => ?_
      split
      · cases u with
        | prepare sql => exact (hbackend.prepare l sql).bind fun _ => .pure ()
        | bind s position value => exact (hbackend.bind s position value).bind fun _ => .pure ()
        | execute s => exact (hbackend.execute _).bind fun _ => .pure ()
        | commit => exact hbackend.commit l
        | rollback => exact hbackend.rollback l
      · exact .pure ()
  exact bare_foldl hmove moves w

/-! ## Clean leases -/

/-- **Connections that wait in order**: none twice, all open and outside a transaction. -/
structure WaitsClean (d : Driver σ) (s : Session (Diary σ)) : Prop where
  once : s.pool.idle.Nodup
  opened : ∀ c ∈ s.pool.idle, IsOpen s.driver.notes c
  outside : ∀ c ∈ s.pool.idle, d.inTransaction s.driver.state c = false

/-- **A clean lease** that was just handed out. -/
structure IsClean (before after : Session (Diary σ)) (l : Lease) : Prop where
  /-- It is out now, with those that were out before. -/
  leased : after.pool.leases = l :: before.pool.leases
  /-- None of them has its connection. -/
  exclusive : ∀ other ∈ before.pool.leases, other.connection ≠ l.connection
  /-- Its connection was opened and not closed since. -/
  opened : IsOpen after.driver.notes l.connection
  /-- It does not wait any more. -/
  taken : l.connection ∉ after.pool.idle
  /-- A transaction was begun on it, which it was outside of before, and that is the last request of
  all. -/
  begun : ∃ earlier, after.driver.notes =
    earlier ++ [⟨.execute l.connection Pool.beginText [], false, true⟩]

theorem Session.Tidy.waitsClean (h : Session.Tidy d [] s) : WaitsClean d s where
  once := (List.nodup_append.1 h.once).1
  opened c hc := (h.opened c (List.mem_append_left _ hc)).2
  outside := h.outside

/-- A lease that a tidy pool hands out is clean. -/
theorem HandsOut.isClean {before : Session (Diary σ)} (h : HandsOut d before l s) :
    IsClean before s l := by
  have hleases : s.pool.leases = l :: before.pool.leases := by
    rw [h.pool]
  have hl : l ∈ s.pool.leases := by
    rw [hleases]
    exact List.mem_cons_self
  have hdistinct : (s.pool.leases.map (·.connection)).Nodup := (List.nodup_append.1 h.tidy.once).2.1
  obtain ⟨fresh, hnotes, -⟩ := h.notes
  exact {
    leased := hleases
    exclusive := by
      intro other hother heq
      rw [hleases, List.map_cons, List.nodup_cons] at hdistinct
      exact hdistinct.1 (List.mem_map.2 ⟨other, hother, heq⟩)
    opened := (h.tidy.opened _ (List.mem_append_right _ (List.mem_map_of_mem hl))).2
    taken := h.tidy.not_mem_idle hl
    begun := ⟨_, hnotes.trans (List.append_assoc _ _ _).symm⟩ }

/-- **What a pool hands out is clean and exclusive.** A new pool is used in any way, over a driver
that keeps a diary and otherwise does what it does anyway. Then the connections that wait are in
order, a lease that is acquired next is clean, and the next move opens a connection only to acquire
one while none waits. -/
theorem isClean_of_acquire (hd : d.KeepsTransactions) {database : String}
    {size acquireTimeout busyTimeout : Amount} {p : Pool}
    (hp : (Pool.create database size acquireTimeout busyTimeout).1 = .ok p) (state : σ)
    (moves : List Move) :
    let w := Move.runAll d.recorded { outside := .new p state } moves
    bare w = Move.runAll d { outside := { pool := p, driver := state } } moves ∧
    WaitsClean d w.outside ∧
    (∀ l w', Pool.acquire d.recorded w = (.ok l, w') → IsClean w.outside w'.outside l) ∧
    ∀ move : Move, move.OpensOnly w.outside (move.run d.recorded w).2.outside := by
  intro w
  have htidy : Session.Tidy d [] w.outside := tidy_runAll hd (Session.tidy_new hp state) moves
  refine ⟨bare_runAll d _ moves, htidy.waitsClean, fun l w' hacquire => ?_, fun move => ?_⟩
  · have hands : HandsOut d w.outside l w'.outside := (ensures_acquire hd htidy).of_eq hacquire
    exact hands.isClean
  · exact (ensures_move hd htidy move).2

/-- A connection that was released inside its transaction is handed out clean again. -/
theorem isClean_of_acquire_tracking :
    Driver.tracking.KeepsTransactions ∧
    (Pool.create "a.db" (.whole 1) (.fractional 30) (.fractional 5)).1 = .ok (singlePool 30) ∧
    let w := Move.runAll Driver.tracking.recorded { outside := .new (singlePool 30) [] }
      [.acquire, .use ⟨0, 1⟩ (.execute ⟨1, "CREATE TABLE t (a)", 0, []⟩), .release ⟨0, 1⟩]
    WaitsClean Driver.tracking w.outside ∧ ∃ w',
      Pool.acquire Driver.tracking.recorded w = (.ok ⟨1, 1⟩, w') ∧
      IsClean w.outside w'.outside ⟨1, 1⟩ := by
  have hcreate : (Pool.create "a.db" (.whole 1) (.fractional 30) (.fractional 5)).1 =
      .ok (singlePool 30) := rfl
  refine ⟨Driver.keepsTransactions_tracking, hcreate, ?_⟩
  intro w
  obtain ⟨-, hwaits, hclean, -⟩ := isClean_of_acquire Driver.keepsTransactions_tracking hcreate []
    [.acquire, .use ⟨0, 1⟩ (.execute ⟨1, "CREATE TABLE t (a)", 0, []⟩), .release ⟨0, 1⟩]
  exact ⟨hwaits, _, rfl, hclean _ _ rfl⟩

end SqlScript.Sqlite
