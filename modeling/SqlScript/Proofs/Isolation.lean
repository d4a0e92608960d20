import SqlScript.Proofs.Doubles
import SqlScript.Proofs.Handouts

/-!
# Runs after runs

Runners share a pool and run scripts and statements on it, one run after the other, and the driver
raises what it likes. Each run finds the pool as a new one: all slots are free. What it commits is
its own, since no run finds a transaction open that another one began.

* `Sqlite.Task`: a run.
* `Sqlite.Session.Rests`: a pool between runs; `Sqlite.Session.Lends`: a pool during a run.
* `Sqlite.Comes.rests`: one run, from rest to rest.
* `Sqlite.Comes.commitsOwn`: one run commits what it executed itself.
* `Sqlite.isolated_runAll`: **runs after runs are isolated.**
-/

namespace SqlScript.Sqlite

open SqlScript.Action
open SqlScript.Responder (scriptItems statementItems)

variable {σ : Type}

/-! ## Runs -/

/-- **A run** of a script or of a single statement, by a runner of its own. -/
inductive Task where
  | script (loader : Loader) (strict : Bool) (text : String) (parameters : List Value)
  | statement (loader : Loader) (strict : Bool) (text : String) (parameters : List Value)

namespace Task

/-- Does a run. -/
def run (d : Driver σ) : Task → PoolAction σ Unit
  | script loader strict text parameters => do
    let _ ← (runner d loader strict).runScript text parameters
  | statement loader strict text parameters => do
    let _ ← (runner d loader strict).runStatement text parameters

/-- The statements of a run with their batches. -/
def items : Task → List (StatementUnit × Batch)
  | script _ strict text parameters => scriptItems text parameters strict
  | statement _ _ text parameters => statementItems text parameters

/-- Does one run after the other, whatever each raises. -/
def runAll (d : Driver σ) (w : World Call (Session σ)) (tasks : List Task) :
    World Call (Session σ) := tasks.foldl (fun w task => (task.run d w).2) w

/-- A run comes to its statements. -/
theorem comes (d : Driver σ) (task : Task) (w : World Call (Session σ)) :
    ∃ calls s r, Comes d w.outside task.items calls s ∧ Yields (task.run d) w calls s r := by
  cases task with
  | script loader strict text parameters =>
    obtain ⟨calls, s, r, hcomes, hrun⟩ := comes_runScript (d := d) loader strict text parameters w
    exact ⟨calls, s, _, hcomes, hrun.bind_map⟩
  | statement loader strict text parameters =>
    obtain ⟨calls, s, r, hcomes, hrun⟩ :=
      comes_runStatement (d := d) loader strict text parameters w
    exact ⟨calls, s, _, hcomes, hrun.bind_map⟩

/-- Runs over the recorded driver are runs over the driver, with a diary. -/
theorem bare_runAll (d : Driver σ) (w : World Call (Session (Diary σ))) (tasks : List Task) :
    bare (runAll d.recorded w tasks) = runAll d (bare w) tasks := by
  have hsay := (simulates_recorded d).say
  have hrun (task : Task) :
      Action.Simulates (fun w w' => bare w = w') (task.run d.recorded) (task.run d) := by
    cases task with
    | script loader strict text parameters =>
      exact (Runner.simulates_runScript hsay rfl (bare_executeUnits d loader strict) text
        parameters).bind fun _ => .pure ()
    | statement loader strict text parameters =>
      exact (Runner.simulates_runStatement hsay (bare_executeUnits d loader strict) text
        parameters).bind fun _ => .pure ()
  exact bare_foldl hrun tasks w

end Task

/-! ## From rest to rest -/

/-- **A pool between runs**: it is open and tidy, nothing is leased, and all its slots are free.
They are `n`, or not counted. -/
structure Session.Rests (d : Driver σ) (n : Option Nat) (s : Session (Diary σ)) : Prop where
  tidy : Session.Tidy d [] s
  isOpen : s.pool.closed = false
  size : s.pool.size.units? = n
  leases : s.pool.leases = []
  slots : s.pool.free = n

/-- **A pool during a run**: it is open and tidy, and one lease is out, with its slot. -/
structure Session.Lends (d : Driver σ) (n : Option Nat) (l : Lease) (s : Session (Diary σ)) :
    Prop where
  tidy : Session.Tidy d [] s
  isOpen : s.pool.closed = false
  size : s.pool.size.units? = n
  leases : s.pool.leases = [l]
  slots : s.pool.free = n.map (· - 1)

variable {d : Driver σ} {n : Option Nat} {s s' : Session (Diary σ)} {l : Lease}
  {w : World Call (Session (Diary σ))} {items : List (StatementUnit × Batch)} {calls : List Call}

namespace Session

section Steps

variable (hd : d.KeepsTransactions) (hn : n ≠ some 0)

include hd hn

/-- The slots after an acquisition from rest. -/
theorem Rests.slots_acquire (h : s.Rests d n) :
    Ensures (Pool.acquire d.recorded) { outside := s } fun r u =>
      u.outside.pool.free = match r with
        | .ok _ => n.map (· - 1)
        | .error _ => n := by
  cases n with
  | none =>
    refine (ensures_acquire hd (w := { outside := s }) h.tidy).mono fun r u hu => ?_
    cases r with
    | ok l => exact HandsOut.uncounted hu h.slots
    | error e => exact Reaches.uncounted hu h.slots
  | some n =>
    -- a pool that counts its slots has one left, which a fault gives back
    obtain ⟨k, rfl⟩ := Nat.exists_eq_succ_of_ne_zero fun h0 => hn (h0 ▸ rfl)
    unfold Ensures
    rcases Pool.acquire_cases (d := d.recorded) (w := { outside := s }) h.isOpen h.slots h.size
        (Nat.lt_succ_self k) with ⟨l, w, hdo, -, hpool⟩ | ⟨f, w, hdo, hpool, -⟩
    · rw [hdo]
      show w.outside.pool.free = some k
      rw [hpool]
    · rw [hdo]
      show w.outside.pool.free = some (k + 1)
      rw [hpool]
      exact h.slots

/-- **An acquisition from rest** gives out the only lease, or leaves the pool at rest. -/
theorem Rests.acquire (h : s.Rests d n) :
    Ensures (Pool.acquire d.recorded) { outside := s } fun r u => match r with
      | .ok l => u.outside.Lends d n l ∧ HandsOut d s l u.outside
      | .error _ => u.outside.Rests d n ∧
        s.Adds u.outside fun note => note.call.IsOfAcquisition s.pool.idle := by
  have hacquire := ensures_acquire hd (w := { outside := s }) h.tidy
  have hslots := h.slots_acquire hd hn
  unfold Ensures at hacquire hslots ⊢
  cases hdo : Pool.acquire d.recorded { outside := s } with
  | mk r w =>
    rw [hdo] at hacquire hslots
    cases r with
    | ok l =>
      have hands : HandsOut d s l w.outside := hacquire
      refine ⟨⟨hands.tidy, ?_, ?_, ?_, hslots⟩, hands⟩ <;> rw [hands.pool]
      · exact h.isOpen
      · exact h.size
      · rw [h.leases]
    | error e =>
      have hreaches : Reaches d (Call.IsOfAcquisition s.pool.idle) s [] w.outside := hacquire
      refine ⟨⟨hreaches.tidy, ?_, ?_, ?_, hslots⟩, hreaches.adds⟩ <;> rw [hreaches.pool]
      · exact h.isOpen
      · exact h.size
      · exact h.leases

/-- The slots after a release during a run. -/
theorem Lends.slots_release (h : s.Lends d n l) :
    Ensures (Pool.release d.recorded l) { outside := s } fun _ u => u.outside.pool.free = n := by
  cases n with
  | none =>
    exact (ensures_release hd (w := { outside := s }) h.tidy l).mono fun _ u hu =>
      hu.uncounted h.slots
  | some n =>
    obtain ⟨k, rfl⟩ := Nat.exists_eq_succ_of_ne_zero fun h0 => hn (h0 ▸ rfl)
    have hl : l ∈ s.pool.leases := by
      rw [h.leases]
      exact List.mem_singleton_self l
    obtain ⟨r, idle, w, hdo, hpool, -⟩ := Pool.release_cases (d := d.recorded)
      (w := { outside := s }) hl h.slots h.size (Nat.lt_succ_self k)
    unfold Ensures
    rw [hdo]
    show w.outside.pool.free = some (k + 1)
    rw [hpool]
    rfl

/-- **A pool is at rest again** when its only lease is given back, whatever becomes of the
connection. -/
theorem Lends.rests (h : s.Lends d n l) :
    Ensures (Pool.release d.recorded l) { outside := s } fun _ u =>
      u.outside.Rests d n ∧ s.Adds u.outside fun note => note.call.IsOfReturn l.connection := by
  have hreaches : Reaches d _ _ [] (Pool.release d.recorded l { outside := s }).2.outside :=
    ensures_release hd (w := { outside := s }) h.tidy l
  refine ⟨⟨hreaches.tidy, ?_, ?_, ?_, h.slots_release hd hn⟩, hreaches.adds⟩ <;>
    rw [hreaches.pool]
  · exact h.isOpen
  · exact h.size
  · rw [h.leases]
    exact List.erase_cons_head l []

end Steps

/-- Requests on the connection that is out do not give it back. -/
theorem Lends.afterAll (hd : d.KeepsTransactions) (h : s.Lends d n l)
    (hcalls : ∀ call ∈ calls, call.IsOfLease l.connection) :
    (s.afterAll d.recorded calls).Lends d n l := by
  have hl : l ∈ s.pool.leases := by
    rw [h.leases]
    exact List.mem_singleton_self l
  exact ⟨h.tidy.afterAll hd hl hcalls, h.isOpen, h.size, h.leases, h.slots⟩

end Session

/-- What is asked for on a connection during a run is about its lease. -/
theorem IsConducted.isOfLease {c : Nat} {plan asked ending : List Call}
    (h : IsConducted c plan asked ending) : ∀ call ∈ asked ++ ending, call.IsOfLease c := by
  intro call hcall
  rcases List.mem_append.1 hcall with hcall | hcall
  · exact .inl (h.there call hcall)
  · rcases h.ends with hends | ⟨-, hends | hends⟩ <;> rw [hends] at hcall <;>
      simp only [List.mem_cons, List.not_mem_nil, or_false] at hcall
    · exact .inr (.inr hcall)
    · exact .inr (.inl hcall)
    · exact .inr hcall

/-- **From rest to rest.** -/
theorem Comes.rests (hd : d.KeepsTransactions) (hn : n ≠ some 0)
    (h : Comes d.recorded s items calls s') (hs : s.Rests d n) : s'.Rests d n := by
  cases h with
  | idle _ => exact hs
  | refused _ hacquire => exact ((hs.acquire hd hn).of_eq hacquire).1
  | leased _ hacquire hconducted hreturned =>
    rw [← hreturned]
    exact ((((hs.acquire hd hn).of_eq hacquire).1.afterAll hd hconducted.isOfLease).rests hd hn).1

/-! ## Commits -/

/-- **What is committed is one's own.** Before each commit in some notes a transaction was begun on
its connection, which was outside of one, and from then on what was planned on it was executed, and
nothing else happened. -/
def CommitsOwn (items : List (StatementUnit × Batch)) (fresh : List Note) : Prop :=
  ∀ c inside accepted earlier later, fresh = earlier ++ ⟨.commit c, inside, accepted⟩ :: later →
    ∃ front since, earlier = front ++ ⟨.execute c Pool.beginText [], false, true⟩ :: since ∧
      since.map (·.call) = planned c items

/-- Notes without commits. -/
theorem commitsOwn_of_isNoCommit {fresh : List Note}
    (h : ∀ note ∈ fresh, note.call.IsNoCommit) : CommitsOwn items fresh := by
  intro c inside accepted earlier later hfresh
  have hnote : (⟨.commit c, inside, accepted⟩ : Note) ∈ fresh := by
    rw [hfresh]
    exact List.mem_append_right _ List.mem_cons_self
  exact absurd rfl (h _ hnote c)

/-- Notes on requests without commits. -/
theorem isNoCommit_of_map {notes : List Note} {calls : List Call}
    (h : notes.map (·.call) = calls.filter Call.isNoted)
    (hcalls : ∀ call ∈ calls, call.IsNoCommit) : ∀ note ∈ notes, note.call.IsNoCommit :=
  fun _ hnote => hcalls _ (List.mem_of_mem_filter (h ▸ List.mem_map_of_mem hnote))

/-- **Notes with one commit**, after what was planned since a transaction began. -/
theorem commitsOwn_of_commit {c : Nat} {front since later : List Note} {note : Note}
    (hfront : ∀ note ∈ front, note.call.IsNoCommit) (hsince : ∀ note ∈ since, note.call.IsNoCommit)
    (hnote : note.call = .commit c) (hlater : ∀ note ∈ later, note.call.IsNoCommit)
    (hplanned : since.map (·.call) = planned c items) :
    CommitsOwn items (front ++ ⟨.execute c Pool.beginText [], false, true⟩ :: since ++
      note :: later) := by
  intro c' inside accepted earlier later' hsplit
  have hquiet : ∀ other ∈ front ++ ⟨.execute c Pool.beginText [], false, true⟩ :: since,
      other.call.IsNoCommit :=
    List.forall_mem_append.2 ⟨hfront, List.forall_mem_cons.2 ⟨fun _ => nofun, hsince⟩⟩
  -- there is no other commit, so this is the place where the notes are split
  obtain ⟨rfl, rfl, -⟩ := (List.append_cons_inj_of_notMem
    (fun hmem => hquiet _ hmem c' rfl) fun hmem => hlater _ hmem c' rfl).1 hsplit
  obtain rfl := Call.commit.inj hnote
  exact ⟨front, since, rfl, hplanned⟩

/-- The notes on requests of statements are on executions. -/
theorem filter_isNoted {c : Nat} {asked : List Call} (h : ∀ call ∈ asked, call.IsOfStatement c) :
    asked.filter Call.isNoted = executions asked := by
  refine List.filter_congr fun call hcall => ?_
  rcases h call hcall with rfl | ⟨_, _, rfl⟩ <;> rfl

/-- **The notes on a transaction**: it commits what was planned, or nothing. -/
theorem IsConducted.commitsOwn {c : Nat} {asked ending : List Call}
    {front since closing given : List Note} (h : IsConducted c (planned c items) asked ending)
    (hfront : ∀ note ∈ front, note.call.IsNoCommit)
    (hasked : since.map (·.call) = asked.filter Call.isNoted)
    (hended : closing.map (·.call) = ending.filter Call.isNoted)
    (hgiven : ∀ note ∈ given, note.call.IsNoCommit) :
    CommitsOwn items (front ++ ⟨.execute c Pool.beginText [], false, true⟩ :: since ++
      (closing ++ given)) := by
  have hsince : ∀ note ∈ since, note.call.IsNoCommit :=
    isNoCommit_of_map hasked fun call hcall => (h.there call hcall).isNoCommit
  rcases h.ends with hends | ⟨hwhole, hends⟩
  · -- a transaction that is rolled back commits nothing
    have hclosing : ∀ note ∈ closing, note.call.IsNoCommit := by
      refine isNoCommit_of_map hended fun call hcall => ?_
      rw [hends] at hcall
      rw [List.mem_singleton.1 hcall]
      exact fun _ => nofun
    have hbegun : ∀ note ∈ ⟨.execute c Pool.beginText [], false, true⟩ :: since,
        note.call.IsNoCommit := List.forall_mem_cons.2 ⟨fun _ => nofun, hsince⟩
    exact commitsOwn_of_isNoCommit (List.forall_mem_append.2
      ⟨List.forall_mem_append.2 ⟨hfront, hbegun⟩, List.forall_mem_append.2 ⟨hclosing, hgiven⟩⟩)
  · obtain ⟨more, hending, hmore⟩ : ∃ more, ending = .commit c :: more ∧
        ∀ call ∈ more, call.IsNoCommit := by
      rcases hends with hends | hends
      · exact ⟨[], hends, fun _ hcall => nomatch hcall⟩
      · refine ⟨[.rollback c], hends, fun call hcall => ?_⟩
        rw [List.mem_singleton.1 hcall]
        exact fun _ => nofun
    rw [hending, List.filter_cons_of_pos rfl] at hended
    obtain ⟨note, rest, rfl, hnote, hrest⟩ := List.map_eq_cons_iff.1 hended
    rw [filter_isNoted h.there] at hasked
    exact commitsOwn_of_commit hfront hsince hnote
      (List.forall_mem_append.2 ⟨isNoCommit_of_map hrest hmore, hgiven⟩) (hasked.trans hwhole)

theorem Call.IsOfAcquisition.isNoCommit {idle : List Nat} {call : Call}
    (h : call.IsOfAcquisition idle) : call.IsNoCommit := by
  intro c hc
  rw [hc] at h
  exact h

theorem Call.IsOfReturn.isNoCommit {c : Nat} {call : Call} (h : call.IsOfReturn c) :
    call.IsNoCommit := by
  rcases h with rfl | rfl <;> exact fun _ => nofun

/-- **A run commits its own.** -/
theorem Comes.commitsOwn (hd : d.KeepsTransactions) (hn : n ≠ some 0)
    (h : Comes d.recorded s items calls s') (hs : s.Rests d n) :
    ∃ fresh, s'.driver.notes = s.driver.notes ++ fresh ∧ CommitsOwn items fresh := by
  cases h with
  | idle _ => exact ⟨[], (List.append_nil _).symm, commitsOwn_of_isNoCommit (by simp)⟩
  | refused _ hacquire =>
    obtain ⟨fresh, hfresh, hcalls⟩ := ((hs.acquire hd hn).of_eq hacquire).2
    exact ⟨fresh, hfresh, commitsOwn_of_isNoCommit fun note hnote => (hcalls note hnote).isNoCommit⟩
  | @leased l w returned asked ending _ hacquire hconducted hreturned =>
    -- the notes on the lease, on the statements, on the end of the transaction and on the return
    obtain ⟨hlends, hands⟩ := (hs.acquire hd hn).of_eq hacquire
    obtain ⟨front, hfront, hacquired⟩ := hands.notes
    obtain ⟨since, hsince, hasked⟩ := notes_afterAll d w.outside asked
    obtain ⟨closing, hclosing, hended⟩ :=
      notes_afterAll d (w.outside.afterAll d.recorded asked) ending
    obtain ⟨given, hgiven, hback⟩ := ((hlends.afterAll hd hconducted.isOfLease).rests hd hn).2
    rw [hreturned, Session.afterAll_append, hclosing, hsince, hfront] at hgiven
    refine ⟨_, ?_, hconducted.commitsOwn (fun note hnote => (hacquired note hnote).isNoCommit)
      hasked hended fun note hnote => (hback note hnote).isNoCommit⟩
    rw [hgiven]
    simp only [List.append_assoc, List.cons_append, List.nil_append]

/-! ## Runs after runs -/

/-- An amount that is not below one has a unit. -/
theorem Amount.units?_ne_zero {a : Amount} (h : a.isBelowOne = false) : a.units? ≠ some 0 := by
  cases a with
  | flag b => cases b <;> simp_all [isBelowOne, units?]
  | whole n =>
    have hn : ¬ n < 1 := by simpa [isBelowOne] using h
    simp only [units?, ne_eq, Option.some.injEq]
    omega
  | fractional x =>
    have hx : ¬ x < 1 := by simpa [isBelowOne] using h
    simp only [units?]
    split
    · rename_i hwhole
      have hone := Number.one_le_truncate hx hwhole
      rw [ne_eq, Option.some.injEq]
      omega
    · nofun

/-- **A new pool has a slot.** -/
theorem Pool.units_of_create {database : String} {size acquireTimeout busyTimeout : Amount}
    {p : Pool} (hp : (Pool.create database size acquireTimeout busyTimeout).1 = .ok p) :
    p.size.units? ≠ some 0 := by
  unfold Pool.create at hp
  dsimp only at hp
  generalize (if database = memoryDatabase ∧ (!size.isOne) = true then Amount.whole 1 else size) =
    taken at hp
  cases hbelow : taken.isBelowOne with
  | true =>
    rw [hbelow, if_pos rfl] at hp
    cases hp
  | false =>
    rw [hbelow, if_neg Bool.false_ne_true] at hp
    cases hp
    exact Amount.units?_ne_zero hbelow

/-- **Runs after runs find the pool at rest**, and leave it so. -/
theorem rests_runAll (hd : d.KeepsTransactions) (hn : n ≠ some 0) (h : w.outside.Rests d n)
    (tasks : List Task) : (Task.runAll d.recorded w tasks).outside.Rests d n := by
  induction tasks generalizing w with
  | nil => exact h
  | cons task tasks ih =>
    obtain ⟨calls, s, r, hcomes, hrun⟩ := task.comes d.recorded w
    exact ih (hrun.outside ▸ hcomes.rests hd hn h)

/-- A pool at rest has a slot. -/
theorem Session.Rests.takeSlot (hn : n ≠ some 0) (h : w.outside.Rests d n) :
    (Pool.takeSlot w).1 = .ok () := by
  have hdo : Pool.takeSlot w = updatePool (fun p => { p with free := p.free.map (· - 1) }) w := by
    show (if _ then _ else if _ then _ else _ : PoolAction (Diary σ) Unit) w = _
    rw [if_neg (by simp [h.isOpen]), if_neg (h.slots ▸ hn)]
  rw [hdo]
  rfl

/-- **Runs after runs are isolated.** Runs share a new pool, over a driver that keeps a diary and
otherwise does what it does anyway. After them all slots are free, nothing is leased, and the next
run gets a slot at once, so it is not refused; and whatever it commits is its own. -/
theorem isolated_runAll (hd : d.KeepsTransactions) {database : String}
    {size acquireTimeout busyTimeout : Amount} {p : Pool}
    (hp : (Pool.create database size acquireTimeout busyTimeout).1 = .ok p)
    (state : σ) (tasks : List Task) :
    let w := Task.runAll d.recorded { outside := .new p state } tasks
    bare w = Task.runAll d { outside := { pool := p, driver := state } } tasks ∧
    w.outside.pool.free = p.size.units? ∧ w.outside.pool.leases = [] ∧
    (Pool.takeSlot w).1 = .ok () ∧
    ∀ task : Task, ∃ fresh,
      (task.run d.recorded w).2.outside.driver.notes = w.outside.driver.notes ++ fresh ∧
      CommitsOwn task.items fresh := by
  intro w
  have hsize := Pool.units_of_create hp
  obtain ⟨hfree, -, hleases, hopen⟩ := Pool.of_create hp
  have hnew : (Session.new p state).Rests d p.size.units? :=
    ⟨Session.tidy_new hp state, hopen, rfl, hleases, hfree⟩
  have hrests : w.outside.Rests d p.size.units? := rests_runAll hd hsize hnew tasks
  refine ⟨Task.bare_runAll d _ tasks, hrests.slots, hrests.leases, hrests.takeSlot hsize,
    fun task => ?_⟩
  obtain ⟨calls, s, r, hcomes, hrun⟩ := task.comes d.recorded w
  rw [hrun.outside]
  exact hcomes.commitsOwn hd hsize hrests

/-- Two runs on a pool of one connection. -/
theorem isolated_runAll_tracking :
    Driver.tracking.KeepsTransactions ∧
    (Pool.create "a.db" (.whole 1) (.fractional 30) (.fractional 5)).1 = .ok (singlePool 30) ∧
    let w := Task.runAll Driver.tracking.recorded { outside := .new (singlePool 30) [] }
      [.script {} false "CREATE TABLE t (a); INSERT INTO t VALUES (?)" [.int 1],
        .statement {} true "DELETE FROM t" []]
    w.outside.pool.free = some 1 ∧ w.outside.pool.leases = [] ∧ (Pool.takeSlot w).1 = .ok () ∧
    ∀ task : Task, ∃ fresh, (task.run Driver.tracking.recorded w).2.outside.driver.notes =
      w.outside.driver.notes ++ fresh ∧ CommitsOwn task.items fresh := by
  have hcreate : (Pool.create "a.db" (.whole 1) (.fractional 30) (.fractional 5)).1 =
      .ok (singlePool 30) := rfl
  refine ⟨Driver.keepsTransactions_tracking, hcreate, ?_⟩
  have hone : (singlePool 30).size.units? = some 1 := rfl
  have hruns := isolated_runAll Driver.keepsTransactions_tracking hcreate []
    [.script {} false "CREATE TABLE t (a); INSERT INTO t VALUES (?)" [.int 1],
      .statement {} true "DELETE FROM t" []]
  rw [hone] at hruns
  exact hruns.2

end SqlScript.Sqlite
