import SqlScript.Proofs.Executions

/-!
# A diary of a driver

To say what happened when, a driver is made to keep a diary. Each request is noted with whether its
connection was inside a transaction just before, and whether it was answered without a fault. The
diary changes nothing else: whatever is done over the driver is done over the recorded one too.

* `Sqlite.Note`, `Sqlite.Diary`: the notes, and a state with them.
* `Sqlite.Driver.recorded`: a driver that keeps a diary.
* `Sqlite.simulates_recorded`, `Sqlite.bare_executeUnits`: **recording changes nothing.**
* `Sqlite.IsOpen`: a connection that was opened and not closed since.
* `Sqlite.Driver.KeepsTransactions`: what is assumed of a driver.
* `Sqlite.notes_afterAll`: the notes on requests that are made one after the other.
-/

namespace SqlScript.Sqlite

open SqlScript.Action

variable {σ α : Type} {d : Driver σ}

/-- The connection that a request is about. -/
def Call.connection? : Call → Option Nat
  | .connect connection _ _ => some connection
  | .execute connection _ _ => some connection
  | .commit connection => some connection
  | .rollback connection => some connection
  | .close connection => some connection
  | .closeCursor => none

/-- **A note** on a request. -/
structure Note where
  call : Call
  /-- Whether its connection was inside a transaction just before. -/
  inside : Bool
  /-- Whether it was answered without a fault. -/
  accepted : Bool

/-- **A state with a diary**, the oldest note first. -/
structure Diary (σ : Type) where
  state : σ
  notes : List Note := []

namespace Driver

/-- The note on a request. -/
def noteOf (d : Driver σ) (s : σ) (call : Call) : Note where
  call
  inside := (call.connection?.map (d.inTransaction s)).getD false
  accepted := (d.answer call s).1.toBool

/-- **A driver that keeps a diary**, and otherwise does what the driver does. -/
def recorded (d : Driver σ) : Driver (Diary σ) where
  answer call s :=
    ((d.answer call s.state).1,
      { state := (d.answer call s.state).2, notes := s.notes ++ [d.noteOf s.state call] })
  makeDirectories path s :=
    ((d.makeDirectories path s.state).1,
      { s with state := (d.makeDirectories path s.state).2 })
  inTransaction s := d.inTransaction s.state

end Driver

/-- A pool in which nothing happened yet, over a driver with an empty diary. -/
def Session.new (p : Pool) (state : σ) : Session (Diary σ) := { pool := p, driver := { state } }

/-! ## Recording changes nothing -/

/-- A pool over a driver without its diary. -/
def Session.bare (s : Session (Diary σ)) : Session σ where
  pool := s.pool
  connects := s.connects
  driver := s.driver.state

/-- A world without the diary of its driver. -/
def bare (w : World Call (Session (Diary σ))) : World Call (Session σ) where
  outside := w.outside.bare
  trace := w.trace
  log := w.log
  clock := w.clock
  printed := w.printed

/-- **Recording changes nothing**: requests to the recorded driver are requests to the driver. -/
theorem simulates_recorded (d : Driver σ) :
    Driver.Simulates (fun w w' => bare w = w') (fun _ => True) d.recorded d where
  ask _ _ := by
    rintro w _ rfl
    exact ⟨rfl, rfl⟩
  say _ _ := by
    rintro w _ rfl
    exact ⟨rfl, rfl⟩
  pool := by
    rintro w _ rfl
    exact ⟨rfl, rfl⟩
  updatePool _ := by
    rintro w _ rfl
    exact ⟨rfl, rfl⟩
  nextConnection := by
    rintro w _ rfl
    exact ⟨rfl, rfl⟩
  makeParents _ := by
    rintro w _ rfl
    exact ⟨rfl, rfl⟩
  isInTransaction _ := by
    rintro w _ rfl
    exact ⟨rfl, rfl⟩

/-- The backends of the pools simulate each other. -/
theorem simulates_backend_recorded (d : Driver σ) :
    (backend d.recorded).Simulates (fun w w' => bare w = w') (backend d) := by
  refine (simulates_recorded d).backend fun cursor => ?_
  rintro w _ rfl
  unfold World.closeCursor
  cases cursor.closeFault <;> exact ⟨rfl, rfl⟩

/-- **A run over the recorded driver is the run over the driver**, with a diary. -/
theorem bare_executeUnits (d : Driver σ) (loader : Loader) (strict : Bool)
    (units : List StatementUnit) (batches : List Batch) :
    Action.Simulates (fun w w' => bare w = w')
      ((runner d.recorded loader strict).executeUnits units batches)
      ((runner d loader strict).executeUnits units batches) := by
  refine Runner.simulates_executeUnits (simulates_recorded d).say ?_
    (Backend.simulates_transaction (simulates_backend_recorded d)) units batches
  rintro w _ rfl
  exact ⟨rfl, rfl⟩

/-- So are actions one after the other, whatever each raises. -/
theorem bare_foldl {β : Type} {run : β → PoolAction (Diary σ) Unit} {run' : β → PoolAction σ Unit}
    (hrun : ∀ x, Action.Simulates (fun w w' => bare w = w') (run x) (run' x)) (xs : List β)
    (w : World Call (Session (Diary σ))) :
    bare (xs.foldl (fun w x => (run x w).2) w) =
      xs.foldl (fun w x => (run' x w).2) (bare w) := by
  induction xs generalizing w with
  | nil => rfl
  | cons x xs ih =>
    have hstep := (hrun x w (bare w) rfl).2
    exact (ih _).trans (congrArg (fun w => xs.foldl (fun w x => (run' x w).2) w) hstep)

/-! ## Connections -/

/-- **A connection is open** by a diary if it was opened and nobody tried to close it since. -/
def IsOpen (notes : List Note) (c : Nat) : Prop :=
  ∃ earlier database timeout inside later,
    notes = earlier ++ ⟨.connect c database timeout, inside, true⟩ :: later ∧
      ∀ note ∈ later, note.call ≠ .close c

theorem IsOpen.append {notes more : List Note} {c : Nat} (h : IsOpen notes c)
    (hmore : ∀ note ∈ more, note.call ≠ .close c) : IsOpen (notes ++ more) c := by
  obtain ⟨earlier, database, timeout, inside, later, rfl, hlater⟩ := h
  refine ⟨earlier, database, timeout, inside, later ++ more, by simp, fun note hnote => ?_⟩
  exact (List.mem_append.1 hnote).elim (hlater note) (hmore note)

/-- What sets up a new connection. -/
def settingUp (inMemory : Bool) : List String :=
  if inMemory then ["PRAGMA foreign_keys=ON"]
  else ["PRAGMA journal_mode=WAL", "PRAGMA foreign_keys=ON"]

/-- Requests that are all answered without a fault, one after the other. -/
def Driver.AcceptsAll (d : Driver σ) (s : σ) : List Call → Prop
  | [] => True
  | call :: calls =>
    (∃ cursor, (d.answer call s).1 = .ok cursor) ∧ d.AcceptsAll (d.after s call) calls

/-- A state that some requests lead to which were all answered without a fault. -/
def Driver.Accepted (d : Driver σ) (calls : List Call) (s : σ) : Prop :=
  ∃ start, d.AcceptsAll start calls ∧ s = calls.foldl d.after start

theorem Driver.Accepted.concat {s : σ} {calls : List Call} {call : Call} {cursor : Cursor}
    (h : d.Accepted calls s) (hcall : (d.answer call s).1 = .ok cursor) :
    d.Accepted (calls ++ [call]) (d.after s call) := by
  obtain ⟨start, haccepts, rfl⟩ := h
  refine ⟨start, ?_, by rw [List.foldl_append, List.foldl_cons, List.foldl_nil]⟩
  induction calls generalizing start with
  | nil => exact ⟨⟨cursor, hcall⟩, trivial⟩
  | cons first calls ih => exact ⟨haccepts.1, ih _ haccepts.2 hcall⟩

/-- **What is assumed of a driver**: when a connection is inside a transaction. -/
structure Driver.KeepsTransactions (d : Driver σ) : Prop where
  /-- A new connection that was set up is not. -/
  opens : ∀ s c database timeout inMemory,
    d.Accepted (.connect c database timeout ::
      (settingUp inMemory).map fun sql => .execute c sql []) s → d.inTransaction s c = false
  /-- After a rollback without a fault it is not. -/
  rollsBack : ∀ s c cursor, (d.answer (.rollback c) s).1 = .ok cursor →
    d.inTransaction (d.answer (.rollback c) s).2 c = false
  /-- Requests about others change nothing about it, -/
  apart : ∀ s call c, call.connection? ≠ some c →
    d.inTransaction (d.answer call s).2 c = d.inTransaction s c
  /-- and making directories does not either. -/
  directories : ∀ s path c,
    d.inTransaction (d.makeDirectories path s).2 c = d.inTransaction s c

/-- **A driver that keeps account of transactions** in its state, and raises nothing. -/
def Driver.tracking : Driver (List Nat) where
  answer call inside := (.ok {}, match call with
    | .execute c sql _ => if sql = Pool.beginText then c :: inside else inside
    | .connect c _ _ => inside.filter (· ≠ c)
    | .commit c => inside.filter (· ≠ c)
    | .rollback c => inside.filter (· ≠ c)
    | .close c => inside.filter (· ≠ c)
    | .closeCursor => inside)
  makeDirectories _ inside := (.ok (), inside)
  inTransaction inside c := inside.contains c

theorem Driver.keepsTransactions_tracking : tracking.KeepsTransactions where
  opens s c database timeout inMemory := by
    rintro ⟨start, -, rfl⟩
    have hjournal : "PRAGMA journal_mode=WAL" ≠ Pool.beginText := by decide
    have hkeys : "PRAGMA foreign_keys=ON" ≠ Pool.beginText := by decide
    cases inMemory <;> simp [settingUp, Driver.after, tracking, hjournal, hkeys]
  rollsBack s c cursor _ := by simp [tracking]
  apart s call c hcall := by
    cases call with
    | execute c' sql _ =>
      have hne : c ≠ c' := fun h => hcall (congrArg some h.symm)
      simp only [tracking]
      split <;> simp [hne]
    | closeCursor => rfl
    | _ c' =>
      have hne : c ≠ c' := fun h => hcall (congrArg some h.symm)
      simp [tracking, hne]
  directories _ _ _ := rfl

/-! ## Notes on requests -/

/-- A pool after a request to its recorded driver. -/
def Session.told (d : Driver σ) (s : Session (Diary σ)) (call : Call) : Session (Diary σ) :=
  { s with driver := (d.recorded.answer call s.driver).2 }

/-- Whether a request is noted. The closing of a cursor is none to the driver. -/
def Call.isNoted (call : Call) : Bool := call.connection?.isSome

/-- Requests one after the other, the first of them apart. -/
theorem Session.afterAll_cons (d : Driver σ) (s : Session (Diary σ)) (call : Call)
    (calls : List Call) :
    s.afterAll d.recorded (call :: calls) =
      (if call.isNoted then s.told d call else s).afterAll d.recorded calls := by
  cases call <;> rfl

/-- **Requests are noted** in order. -/
theorem notes_afterAll (d : Driver σ) (s : Session (Diary σ)) (calls : List Call) :
    ∃ fresh, (s.afterAll d.recorded calls).driver.notes = s.driver.notes ++ fresh ∧
      fresh.map (·.call) = calls.filter Call.isNoted := by
  induction calls generalizing s with
  | nil => exact ⟨[], (List.append_nil _).symm, rfl⟩
  | cons call calls ih =>
    rw [Session.afterAll_cons]
    by_cases hcall : call.isNoted = true
    · rw [if_pos hcall, List.filter_cons_of_pos hcall]
      obtain ⟨fresh, hnotes, hcalls⟩ := ih (s.told d call)
      refine ⟨d.noteOf s.driver.state call :: fresh, hnotes.trans ?_, congrArg (call :: ·) hcalls⟩
      exact List.append_assoc s.driver.notes [_] fresh
    · rw [if_neg hcall, List.filter_cons_of_neg hcall]
      exact ih s

end SqlScript.Sqlite
