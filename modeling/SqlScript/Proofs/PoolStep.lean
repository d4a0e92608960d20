import SqlScript.Sqlite.Pool

/-!
# What the operations of a pool do to it

Each operation is told once, as the cases of its outcome with the pool that it leaves, and the
faults that it can raise. Slots are counted, so the pool has a whole size.

* `Sqlite.Driver.Raises`, `Sqlite.Driver.Does`: the driver's own faults and actions.
* `Sqlite.Pool.acquire_cases`, `release_cases`, `close_cases`: the operations.
-/

namespace SqlScript.Sqlite

open SqlScript.Action

variable {σ α β : Type} {d : Driver σ}

/-! ## Actions of the driver -/

namespace Driver

/-- What a driver can raise. -/
def Raises (d : Driver σ) (e : Fault) : Prop :=
  (∃ call s, (d.answer call s).1 = .error e) ∨ ∃ path s, (d.makeDirectories path s).1 = .error e

/-- **An action of the driver alone** leaves the pool as it is, and raises what the driver
raises. -/
structure Does (d : Driver σ) (a : PoolAction σ α) : Prop where
  pool : ∀ w, (a w).2.outside.pool = w.outside.pool
  raises : ∀ w e, (a w).1 = .error e → d.Raises e

namespace Does

theorem pure (x : α) : d.Does (Pure.pure x : PoolAction σ α) :=
  ⟨fun _ => rfl, fun _ _ h => by cases h⟩

theorem say (level : LogLevel) (message : String) :
    d.Does (World.say level message : PoolAction σ Unit) :=
  ⟨fun _ => rfl, fun _ _ h => by cases h⟩

theorem bind {a : PoolAction σ α} {f : α → PoolAction σ β} (ha : d.Does a)
    (hf : ∀ x, d.Does (f x)) : d.Does (a >>= f) := by
  refine ⟨fun w => ?_, fun w e he => ?_⟩
  · have hpool := ha.pool w
    rw [bind_apply]
    cases hw : a w with
    | mk r w₁ =>
      rw [hw] at hpool
      cases r with
      | error e => exact hpool
      | ok x => exact ((hf x).pool w₁).trans hpool
  · have hraises := ha.raises w
    rw [bind_apply] at he
    cases hw : a w with
    | mk r w₁ =>
      rw [hw] at he hraises
      cases r with
      | error e' =>
        obtain rfl := Except.error.inj he
        exact hraises e' rfl
      | ok x => exact (hf x).raises w₁ e he

theorem onFault {a : PoolAction σ α} {handler : Fault → PoolAction σ Unit} (ha : d.Does a)
    (hh : ∀ e, d.Does (handler e)) : d.Does (Action.onFault a handler) := by
  refine ⟨fun w => ?_, fun w e he => ?_⟩
  · have hpool := ha.pool w
    unfold Action.onFault
    cases hw : a w with
    | mk r w₁ =>
      rw [hw] at hpool
      cases r with
      | ok x => exact hpool
      | error e =>
        have hhandler := (hh e).pool w₁
        simp only
        split <;> simp_all
  · have hraises := ha.raises w
    unfold Action.onFault at he
    cases hw : a w with
    | mk r w₁ =>
      rw [hw] at he hraises
      cases r with
      | ok x => cases he
      | error e' =>
        have hhandler := (hh e').raises w₁
        simp only at he
        split at he
        · exact hraises e he
        · rename_i h
          obtain rfl := Except.error.inj he
          exact hhandler _ (by rw [h])

theorem ask (call : Call) : d.Does (d.ask call) :=
  ⟨fun _ => rfl, fun w _ h => .inl ⟨call, w.outside.driver, h⟩⟩

theorem tell (call : Call) : d.Does (d.tell call) :=
  (ask call).bind fun _ => pure ()

theorem makeParents (database : String) : d.Does (d.makeParents database) :=
  ⟨fun _ => rfl, fun w _ h => .inr ⟨_, w.outside.driver, h⟩⟩

theorem connect (database : String) (timeout : Amount) : d.Does (d.connect database timeout) := by
  have hnext : d.Does (nextConnection : PoolAction σ Nat) :=
    ⟨fun _ => rfl, fun _ _ h => by cases h⟩
  exact hnext.bind fun _ => (tell _).bind fun _ => pure _

theorem setUp (inMemory : Bool) (connection : Nat) : d.Does (d.setUp inMemory connection) := by
  unfold Driver.setUp
  cases inMemory with
  | true => exact tell _
  | false => exact (tell _).bind fun _ => tell _

theorem openConnection (p : Pool) : d.Does (d.openConnection p) := by
  have hopen (inMemory : Bool) : d.Does (do
      World.say .debug s!"Opening SQLite connection to {p.database}"
      let connection ← d.connect p.database p.busyTimeout
      Action.onFault (d.setUp inMemory connection) fun _ => d.tell (.close connection)
      return connection) :=
    (say _ _).bind fun _ => (connect _ _).bind fun _ =>
      ((setUp _ _).onFault fun _ => tell _).bind fun _ => pure _
  unfold Driver.openConnection
  cases p.inMemory with
  | true => exact hopen true
  | false => exact (makeParents _).bind fun _ => hopen false

theorem reset (connection : Nat) : d.Does (Pool.reset d connection) := by
  have hopen : d.Does (d.isInTransaction connection) :=
    ⟨fun _ => rfl, fun _ _ h => by cases h⟩
  refine hopen.bind fun x => ?_
  cases x with
  | true => exact tell _
  | false => exact pure ()

end Does

end Driver

/-! ## Slots -/

namespace Pool

variable {w w' : World Call (Session σ)} {p : Pool} {k n : Nat}

/-- **A new pool** has all its slots, and neither connections nor leases. -/
theorem of_create {database : String} {size acquireTimeout busyTimeout : Amount}
    (hp : (create database size acquireTimeout busyTimeout).1 = .ok p) :
    p.free = p.size.units? ∧ p.idle = [] ∧ p.leases = [] ∧ p.closed = false := by
  unfold create at hp
  extract_lets single note size' at hp
  split at hp
  · cases hp
  · obtain rfl := Except.ok.inj hp
    exact ⟨rfl, rfl, rfl, rfl⟩

/-- A slot is given back while some are out. -/
theorem freeSlot_of_lt (hfree : w.outside.pool.free = some k)
    (hsize : w.outside.pool.size.units? = some n) (hk : k < n) :
    ∃ w', freeSlot w = (.ok (), w') ∧
      w'.outside.pool = { w.outside.pool with free := some (k + 1) } := by
  have hne : ¬(w.outside.pool.free.isSome ∧ w.outside.pool.free = w.outside.pool.size.units?) := by
    rintro ⟨-, h⟩
    rw [hfree, hsize] at h
    have := Option.some.inj h
    omega
  have hdo : freeSlot w = updatePool (fun p => { p with free := p.free.map (· + 1) }) w := by
    show (if _ then _ else _ : PoolAction σ Unit) w = _
    rw [if_neg hne]
  refine ⟨_, hdo, ?_⟩
  show { w.outside.pool with free := w.outside.pool.free.map (· + 1) } = _
  rw [hfree]
  rfl

/-- **A slot is given back after an action**, and the action's outcome counts. -/
theorem ensure_freeSlot {a : PoolAction σ α} (hfree : (a w).2.outside.pool.free = some k)
    (hsize : (a w).2.outside.pool.size.units? = some n) (hk : k < n) :
    ∃ w', Action.ensure a freeSlot w = ((a w).1, w') ∧
      w'.outside.pool = { (a w).2.outside.pool with free := some (k + 1) } := by
  obtain ⟨w', hf, hp⟩ := freeSlot_of_lt hfree hsize hk
  refine ⟨w', ?_, hp⟩
  unfold Action.ensure
  simp only [hf]

/-- A connection that was not leased is closed, if there is one, and its slot is free again. -/
theorem discard_cases (connection : Option Nat) (hfree : w.outside.pool.free = some k)
    (hsize : w.outside.pool.size.units? = some n) (hk : k < n) :
    ∃ r w', discard d connection w = (r, w') ∧
      w'.outside.pool = { w.outside.pool with free := some (k + 1) } ∧
      ∀ e, r = .error e → d.Raises e := by
  have hclose : d.Does (closeIfAny d connection) := by
    cases connection with
    | some connection => exact .tell _
    | none => exact .pure ()
  have hpool := hclose.pool w
  obtain ⟨w', hdo, hp⟩ := ensure_freeSlot (hpool ▸ hfree) (hpool ▸ hsize) hk
  exact ⟨_, w', hdo, hpool ▸ hp, hclose.raises w⟩

/-- The faults of an acquisition that had a slot: those of the driver, reported or not. -/
def IsOpeningFault (d : Driver σ) (database : String) (f : Fault) : Prop :=
  d.Raises f ∨ ∃ e, d.Raises e ∧ f = reportOpening database e

/-- **A guarded action** leaves the pool as it is, or gives a slot back with its fault. -/
theorem guarded_cases {a : PoolAction σ α} (ha : d.Does a) (database : String)
    (connection : Option Nat) (hfree : w.outside.pool.free = some k)
    (hsize : w.outside.pool.size.units? = some n) (hk : k < n) :
    (∃ x w', guarded d database connection a w = (.ok x, w') ∧
      w'.outside.pool = w.outside.pool) ∨
    ∃ f w', guarded d database connection a w = (.error f, w') ∧
      w'.outside.pool = { w.outside.pool with free := some (k + 1) } ∧
      IsOpeningFault d database f := by
  have hpool := ha.pool w
  have hraises := ha.raises w
  cases hw : a w with
  | mk r w₁ =>
    rw [hw] at hpool hraises
    have hattempt : Action.attempt a w = (.ok r, w₁) := by
      unfold Action.attempt
      rw [hw]
    cases r with
    | ok x => exact .inl ⟨x, w₁, bind_of_ok hattempt, hpool⟩
    | error e =>
      -- closing the connection can fail too, but the slot is free again in any case
      right
      simp only at hpool
      obtain ⟨r, w₂, hd, hp, hr⟩ := discard_cases (d := d) (w := w₁) connection
        (by rw [hpool, hfree]) (by rw [hpool, hsize]) hk
      rw [hpool] at hp
      cases r with
      | error e' =>
        exact ⟨e', w₂, (bind_of_ok hattempt).trans (bind_of_error hd), hp, .inl (hr e' rfl)⟩
      | ok _ =>
        exact ⟨_, w₂, (bind_of_ok hattempt).trans (bind_of_ok hd), hp,
          .inr ⟨e, hraises e rfl, rfl⟩⟩

/-! ## Acquiring -/

theorem acquire_of_closed (hclosed : w.outside.pool.closed) :
    acquire d w = (.error (.failure (Failure.poolClosed w.outside.pool.database)), w) := by
  refine bind_of_error ?_
  show (if _ then _ else _ : PoolAction σ Unit) w = _
  rw [if_pos hclosed]
  rfl

theorem acquire_of_exhausted (hopen : w.outside.pool.closed = false)
    (hfree : w.outside.pool.free = some 0) :
    acquire d w = (.error w.outside.pool.exhausted, w) := by
  refine bind_of_error ?_
  show (if _ then _ else if _ then _ else _ : PoolAction σ Unit) w = _
  rw [if_neg (by simp [hopen]), if_pos hfree]
  rfl

theorem takeSlot_of_free (hopen : w.outside.pool.closed = false)
    (hfree : w.outside.pool.free = some (k + 1)) :
    ∃ w', takeSlot w = (.ok (), w') ∧
      w'.outside.pool = { w.outside.pool with free := some k } := by
  have hdo : takeSlot w = updatePool (fun p => { p with free := p.free.map (· - 1) }) w := by
    show (if _ then _ else if _ then _ else _ : PoolAction σ Unit) w = _
    rw [if_neg (by simp [hopen]), if_neg (by simp [hfree])]
  refine ⟨_, hdo, ?_⟩
  show { w.outside.pool with free := w.outside.pool.free.map (· - 1) } = _
  rw [hfree]
  rfl

/-- A connection for a slot that was taken: an idle one if there is one. -/
theorem takeConnection_cases (hfree : w.outside.pool.free = some k)
    (hsize : w.outside.pool.size.units? = some n) (hk : k < n) :
    (∃ c w', takeConnection d w = (.ok c, w') ∧
      w'.outside.pool = { w.outside.pool with idle := w.outside.pool.idle.tail }) ∨
    ∃ f w', takeConnection d w = (.error f, w') ∧
      w'.outside.pool =
        { w.outside.pool with free := some (k + 1), idle := w.outside.pool.idle.tail } ∧
      IsOpeningFault d w.outside.pool.database f := by
  have hdo : takeConnection d w = takeFrom d w.outside.pool w.outside.pool.idle w := rfl
  rw [hdo]
  cases hi : w.outside.pool.idle with
  | cons c idle =>
    exact .inl ⟨c, { w with outside := { w.outside with pool := { w.outside.pool with idle } } },
      rfl, rfl⟩
  | nil =>
    -- no connection waits, so there is none to lose if opening one fails
    show (∃ c w', guarded _ _ _ _ w = _ ∧ _) ∨ ∃ f w', guarded _ _ _ _ w = _ ∧ _
    rcases guarded_cases (.openConnection w.outside.pool) w.outside.pool.database none hfree hsize
        hk with ⟨c, w', hg, hp⟩ | ⟨f, w', hg, hp, hf⟩
    · exact .inl ⟨c, w', hg, hp.trans (by rw [List.tail_nil, ← hi])⟩
    · exact .inr ⟨f, w', hg, hp.trans (by rw [List.tail_nil, ← hi]), hf⟩

/-- **Acquiring with a slot to take** gives out a lease, or leaves the slots and leases as they
are. -/
theorem acquire_cases (hopen : w.outside.pool.closed = false)
    (hfree : w.outside.pool.free = some (k + 1)) (hsize : w.outside.pool.size.units? = some n)
    (hk : k < n) :
    (∃ l w', acquire d w = (.ok l, w') ∧ l.number = w.outside.pool.leased ∧
      w'.outside.pool = { w.outside.pool with
        free := some k, idle := w.outside.pool.idle.tail, leases := l :: w.outside.pool.leases,
        leased := w.outside.pool.leased + 1 }) ∨
    ∃ f w', acquire d w = (.error f, w') ∧
      w'.outside.pool = { w.outside.pool with idle := w.outside.pool.idle.tail } ∧
      IsOpeningFault d w.outside.pool.database f := by
  -- the slot is taken first: whatever fails from here on gives it back
  obtain ⟨w₁, htake, hp₁⟩ := takeSlot_of_free hopen hfree
  have hstart : acquire d w = (takeConnection d >>= fun connection => pool >>= fun p =>
      guarded d p.database (some connection) (d.run connection beginText) >>= fun _ =>
        lease connection : PoolAction σ Lease) w₁ := bind_of_ok htake
  rw [hstart]
  rcases takeConnection_cases (d := d) (w := w₁) (k := k) (n := n) (by rw [hp₁])
      (by rw [hp₁, hsize]) hk with ⟨c, w₂, hc, hp₂⟩ | ⟨f, w₂, hc, hp₂, hf⟩
  · rw [bind_of_ok hc]
    rw [hp₁] at hp₂
    rcases guarded_cases (d := d) (w := w₂) (a := d.run c beginText) (.tell _)
        w₂.outside.pool.database (some c) (k := k) (n := n) (by rw [hp₂]) (by rw [hp₂, hsize]) hk
      with ⟨_, w₃, hg, hp₃⟩ | ⟨f, w₃, hg, hp₃, hf⟩
    · left
      rw [hp₂] at hp₃
      refine ⟨⟨w₃.outside.pool.leased, c⟩, _, (bind_of_ok (rfl : pool w₂ =
        (.ok w₂.outside.pool, w₂))).trans (bind_of_ok hg), ?_, ?_⟩
      · rw [hp₃]
      · show { w₃.outside.pool with
          leases := ⟨w₃.outside.pool.leased, c⟩ :: w₃.outside.pool.leases,
          leased := w₃.outside.pool.leased + 1 } = _
        rw [hp₃]
    · right
      rw [hp₂] at hp₃ hf
      exact ⟨f, w₃, (bind_of_ok (rfl : pool w₂ = (.ok w₂.outside.pool, w₂))).trans
        (bind_of_error hg), hp₃.trans (by rw [← hfree]), hf⟩
  · right
    rw [hp₁] at hp₂ hf
    exact ⟨f, w₂, bind_of_error hc, hp₂.trans (by rw [← hfree]), hf⟩

/-- The faults of an acquisition. -/
def IsAcquireFault (d : Driver σ) (p : Pool) (f : Fault) : Prop :=
  f = .failure (Failure.poolClosed p.database) ∨ f = p.exhausted ∨ IsOpeningFault d p.database f

/-- A time that nobody can wait for is too large a number. -/
theorem overflow_of_unwaitable? {a : Amount} {f : Fault} (h : a.unwaitable? = some f) :
    ∃ message, f = .of .overflow message := by
  cases a with
  | flag _ => cases h
  | whole n =>
    simp only [Amount.unwaitable?] at h
    split at h
    · exact ⟨_, (Option.some.inj h).symm⟩
    · split at h
      · exact ⟨_, (Option.some.inj h).symm⟩
      · cases h
  | fractional x =>
    simp only [Amount.unwaitable?] at h
    split at h
    · exact ⟨_, (Option.some.inj h).symm⟩
    · cases h

/-- An acquisition never gives back more slots than were taken, so the fault of that is one of the
driver's. -/
theorem raises_of_isAcquireFault (h : IsAcquireFault d p overReleased) : d.Raises overReleased := by
  rcases h with h | h | h | ⟨e, he, h⟩
  · cases h
  · unfold exhausted at h
    split at h
    · rename_i f hf
      obtain ⟨message, rfl⟩ := overflow_of_unwaitable? hf
      cases h
    · cases h
  · exact h
  · unfold reportOpening at h
    split at h
    · cases h
    · rw [h]
      exact he

/-! ## Releasing -/

theorem release_of_not_mem {l : Lease} (hl : l ∉ w.outside.pool.leases) :
    release d l w = (.error alreadyReleased, w) := by
  show (if _ then _ else _ : PoolAction σ Unit) w = _
  rw [if_neg hl]
  rfl

/-- A connection that is taken back waits for its next lease, or is closed. -/
theorem takeBack_cases (c : Nat) :
    ∃ r idle w', takeBack d c w = (r, w') ∧
      w'.outside.pool = { w.outside.pool with idle } ∧
      (idle = w.outside.pool.idle ∨ idle = c :: w.outside.pool.idle) ∧
      ∀ e, r = .error e → d.Raises e := by
  have hpool := (Driver.Does.reset (d := d) c).pool w
  have hraises := (Driver.Does.reset (d := d) c).raises w
  cases hr : reset d c w with
  | mk r w₁ =>
    rw [hr] at hpool hraises
    simp only at hpool
    have hattempt : Action.attempt (reset d c) w = (.ok r, w₁) := by
      unfold Action.attempt
      rw [hr]
    have hdo : takeBack d c w = settle d c r w₁ := bind_of_ok hattempt
    rw [hdo]
    -- an action of the driver does not keep the connection
    have haway : ∀ a : PoolAction σ Unit, d.Does a → ∃ r idle w', a w₁ = (r, w') ∧
        w'.outside.pool = { w.outside.pool with idle } ∧
        (idle = w.outside.pool.idle ∨ idle = c :: w.outside.pool.idle) ∧
        ∀ e, r = .error e → d.Raises e := fun a ha =>
      ⟨(a w₁).1, w.outside.pool.idle, (a w₁).2, rfl, (ha.pool w₁).trans hpool, .inl rfl,
        ha.raises w₁⟩
    cases r with
    | ok _ =>
      cases hclosed : w₁.outside.pool.closed with
      | true =>
        have hstore : store d c w₁ = d.tell (.close c) w₁ := by
          show (if _ then _ else _ : PoolAction σ Unit) w₁ = _
          rw [if_pos hclosed]
        simp only [settle, hstore]
        exact haway _ (.tell _)
      | false =>
        have hstore : store d c w₁ =
            updatePool (fun p => { p with idle := c :: p.idle }) w₁ := by
          show (if _ then _ else _ : PoolAction σ Unit) w₁ = _
          rw [if_neg (by simp [hclosed])]
        refine ⟨_, _, _, hstore, ?_, .inr rfl, fun e he => by cases he⟩
        show { w₁.outside.pool with idle := c :: w₁.outside.pool.idle } = _
        rw [hpool]
    | error e =>
      unfold settle
      simp only
      split
      · exact haway _ ((Driver.Does.say _ _).bind fun _ => .tell _)
      · refine ⟨_, _, _, rfl, hpool, .inl rfl, fun e' he' => ?_⟩
        obtain rfl := Except.error.inj he'
        exact hraises _ rfl

/-- **Releasing a lease** that is out makes its slot free, whatever becomes of its connection. -/
theorem release_cases {l : Lease} (hl : l ∈ w.outside.pool.leases)
    (hfree : w.outside.pool.free = some k) (hsize : w.outside.pool.size.units? = some n)
    (hk : k < n) :
    ∃ r idle w', release d l w = (r, w') ∧
      w'.outside.pool = { w.outside.pool with
        free := some (k + 1), idle, leases := w.outside.pool.leases.erase l } ∧
      (idle = w.outside.pool.idle ∨ idle = l.connection :: w.outside.pool.idle) ∧
      ∀ e, r = .error e → d.Raises e := by
  obtain ⟨w₁, hw₁, hp₁⟩ : ∃ w₁,
      release d l w = Action.ensure (takeBack d l.connection) freeSlot w₁ ∧
      w₁.outside.pool = { w.outside.pool with leases := w.outside.pool.leases.erase l } := by
    refine ⟨(updatePool (fun p => { p with leases := p.leases.erase l }) w).2, ?_, rfl⟩
    show (if _ then _ else _ : PoolAction σ Unit) w = _
    rw [if_pos hl]
    rfl
  -- the lease is struck off before anything can fail, so a second release finds none
  obtain ⟨r, idle, w₂, ht, hp₂, hidle, hr⟩ := takeBack_cases (d := d) (w := w₁) l.connection
  rw [hp₁] at hp₂ hidle
  have hend := ensure_freeSlot (k := k) (n := n) (w := w₁) (a := takeBack d l.connection)
    (by rw [ht, hp₂, hfree]) (by rw [ht, hp₂, hsize]) hk
  rw [ht] at hend
  obtain ⟨w', hw', hp'⟩ := hend
  refine ⟨r, idle, w', hw₁.trans hw', ?_, hidle, hr⟩
  rw [hp']
  simp only [hp₂]

/-! ## Closing -/

theorem closeIdle_cases {idle : List Nat} (hidle : w.outside.pool.idle = idle) :
    ∃ r rest w', closeIdle d idle w = (r, w') ∧
      w'.outside.pool = { w.outside.pool with idle := rest } ∧ rest <:+ idle ∧
      ∀ e, r = .error e → d.Raises e := by
  -- a connection leaves the list before it is closed, so what waits only gets less
  induction idle generalizing w with
  | nil => exact ⟨_, [], _, rfl, by rw [← hidle], List.suffix_rfl, fun e he => by cases he⟩
  | cons c idle ih =>
    obtain ⟨w₁, hw₁, hp₁⟩ : ∃ w₁, closeIdle d (c :: idle) w =
        (d.tell (.close c) >>= fun _ => closeIdle d idle : PoolAction σ Unit) w₁ ∧
        w₁.outside.pool = { w.outside.pool with idle } :=
      ⟨(updatePool (fun p => { p with idle }) w).2, rfl, rfl⟩
    have hpool := (Driver.Does.tell (d := d) (.close c)).pool w₁
    have hraises := (Driver.Does.tell (d := d) (.close c)).raises w₁
    rw [hw₁]
    cases hc : d.tell (.close c) w₁ with
    | mk r w₂ =>
      rw [hc, hp₁] at hpool
      rw [hc] at hraises
      simp only at hpool
      cases r with
      | error e =>
        exact ⟨_, idle, w₂, bind_of_error hc, hpool, List.suffix_cons c idle, hraises⟩
      | ok _ =>
        obtain ⟨r, rest, w', hdo, hp, hrest, hr⟩ := ih (w := w₂) (by rw [hpool])
        refine ⟨r, rest, w', (bind_of_ok hc).trans hdo, ?_, ?_, hr⟩
        · rw [hp, hpool]
        · exact hrest.trans (List.suffix_cons c idle)

/-- **Closing a pool** closes it for new leases, and leaves slots and leases alone. -/
theorem close_cases :
    ∃ r rest w', close d w = (r, w') ∧
      w'.outside.pool = { w.outside.pool with closed := true, idle := rest } ∧
      rest <:+ w.outside.pool.idle ∧ ∀ e, r = .error e → d.Raises e := by
  obtain ⟨r, rest, w', hdo, hp, hrest, hr⟩ := closeIdle_cases (d := d)
    (w := (updatePool (fun p => { p with closed := true }) w).2) rfl
  exact ⟨r, rest, w', hdo, hp, hrest, hr⟩

end Pool

end SqlScript.Sqlite
