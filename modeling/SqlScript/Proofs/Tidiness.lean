import SqlScript.Proofs.Diary
import SqlScript.Proofs.PoolStep
import Mathlib.Data.List.Perm.Subperm

/-!
# Tidy pools

A pool that keeps its connections in order: each one that waits or is leased was opened and not
closed since, is there once, and is outside a transaction while it waits. Whatever the driver raises
when, every operation leaves a tidy pool tidy.

* `Action.Ensures`: what holds of an outcome.
* `Sqlite.Session.Tidy`: the invariant, apart from the connections in hand during an operation.
* `Sqlite.Reaches`: what an operation has come to, step by step.
* `Sqlite.ensures_acquire`, `Sqlite.ensures_release`, `Sqlite.ensures_close`: **the operations keep
  a pool tidy.**
* `Sqlite.Session.Tidy.afterAll`: so do requests on a leased connection.
-/

namespace SqlScript

namespace Action

variable {ω α β : Type}

/-- **What holds of an outcome**: of the result of an action and of the world that it leaves. -/
def Ensures (a : Action ω α) (w : ω) (Q : Except Fault α → ω → Prop) : Prop := Q (a w).1 (a w).2

namespace Ensures

variable {a : Action ω α} {w : ω} {Q R : Except Fault α → ω → Prop}

theorem mono (ha : Ensures a w R) (h : ∀ r u, R r u → Q r u) : Ensures a w Q := h _ _ ha

theorem bind {f : α → Action ω β} {Q : Except Fault β → ω → Prop} (ha : Ensures a w R)
    (hok : ∀ x u, R (.ok x) u → Ensures (f x) u Q)
    (herror : ∀ e u, R (.error e) u → Q (.error e) u) : Ensures (a >>= f) w Q := by
  unfold Ensures at ha ⊢
  rw [bind_apply]
  rcases hw : a w with ⟨r, u⟩
  rw [hw] at ha
  cases r with
  | ok x => exact hok x u ha
  | error e => exact herror e u ha

theorem of_eq {r : Except Fault α} {u : ω} (h : Ensures a w Q) (heq : a w = (r, u)) : Q r u := by
  unfold Ensures at h
  rw [heq] at h
  exact h

/-- What follows a step whose outcome is known. -/
theorem bind_of_ok {f : α → Action ω β} {Q : Except Fault β → ω → Prop} {x : α} {u : ω}
    (heq : a w = (.ok x, u)) (h : Ensures (f x) u Q) : Ensures (a >>= f) w Q := by
  unfold Ensures
  rw [Action.bind_of_ok heq]
  exact h

/-- What follows an action whose faults are looked at. -/
theorem attempt_bind {f : Except Fault α → Action ω β} {Q : Except Fault β → ω → Prop}
    (ha : Ensures a w R) (h : ∀ r u, R r u → Ensures (f r) u Q) :
    Ensures (Action.attempt a >>= f) w Q := h _ _ ha

theorem ensure {cleanup : Action ω Unit} (ha : Ensures a w R)
    (hc : ∀ r u, R r u → Ensures cleanup u fun p v => Q (p.bind fun _ => r) v) :
    Ensures (Action.ensure a cleanup) w Q := by
  have hcleanup := hc _ _ ha
  unfold Ensures at hcleanup ⊢
  unfold Action.ensure
  rcases hw : a w with ⟨r, u⟩
  rw [hw] at hcleanup
  simp only at hcleanup ⊢
  rcases hu : cleanup u with ⟨p, v⟩
  rw [hu] at hcleanup
  cases p <;> exact hcleanup

theorem onFault {handler : Fault → Action ω Unit} (ha : Ensures a w R)
    (hok : ∀ x u, R (.ok x) u → Q (.ok x) u)
    (herror : ∀ e u, R (.error e) u →
      Ensures (handler e) u fun p v => Q (p.bind fun _ => .error e) v) :
    Ensures (Action.onFault a handler) w Q := by
  unfold Ensures at ha ⊢
  unfold Action.onFault
  rcases hw : a w with ⟨r, u⟩
  rw [hw] at ha
  cases r with
  | ok x => exact hok x u ha
  | error e =>
    have hhandler := herror e u ha
    unfold Ensures at hhandler
    simp only
    rcases hu : handler e u with ⟨p, v⟩
    rw [hu] at hhandler
    cases p <;> exact hhandler

end Ensures

end Action

namespace Sqlite

open SqlScript.Action

variable {σ α : Type} {d : Driver σ} {s s' : Session (Diary σ)} {hand : List Nat} {c : Nat}
  {call : Call} {l : Lease} {w : World Call (Session (Diary σ))}

namespace Session

/-- The connections that are in hand, wait, or are leased. -/
def connections (hand : List Nat) (s : Session σ) : List Nat :=
  hand ++ s.pool.idle ++ s.pool.leases.map (·.connection)

/-- **A tidy pool**, apart from the connections in hand. -/
structure Tidy (d : Driver σ) (hand : List Nat) (s : Session (Diary σ)) : Prop where
  /-- No connection is there twice. -/
  once : (s.connections hand).Nodup
  /-- Each was opened and not closed since. -/
  opened : ∀ c ∈ s.connections hand, c ≤ s.connects ∧ IsOpen s.driver.notes c
  /-- Those that wait are outside a transaction. -/
  outside : ∀ c ∈ s.pool.idle, d.inTransaction s.driver.state c = false

namespace Tidy

/-- A pool that loses connections or moves them about stays tidy. -/
theorem of_pool (h : Tidy d hand s) {hand' : List Nat} {p : Pool}
    (hsub : List.Subperm (connections hand' { s with pool := p }) (s.connections hand))
    (hidle : ∀ c ∈ p.idle, d.inTransaction s.driver.state c = false) :
    Tidy d hand' { s with pool := p } where
  once := List.nodup_iff_count.2 fun c =>
    Nat.le_trans (hsub.count_le c) (List.nodup_iff_count.1 h.once c)
  opened c hc := h.opened c (hsub.subset hc)
  outside := hidle

theorem of_free (h : Tidy d hand s) (free : Option Nat) :
    Tidy d hand { s with pool := { s.pool with free } } := ⟨h.once, h.opened, h.outside⟩

/-- A connection that is let go of is no matter any more. -/
theorem drop (h : Tidy d (c :: hand) s) : Tidy d hand s :=
  h.of_pool (List.sublist_cons_self c _).subperm h.outside

theorem not_mem (h : Tidy d (c :: hand) s) : c ∉ s.connections hand :=
  (List.nodup_cons.1 h.once).1

/-- **A request keeps a pool tidy** if it is not about a connection that waits, and closes none of
those that are to stay open. -/
theorem told (hd : d.KeepsTransactions) (h : Tidy d hand s)
    (hidle : ∀ c ∈ s.pool.idle, call.connection? ≠ some c)
    (hclose : ∀ c ∈ s.connections hand, call ≠ .close c) : Tidy d hand (s.told d call) where
  once := h.once
  opened c hc := by
    obtain ⟨hnumber, hopen⟩ := h.opened c hc
    refine ⟨hnumber, hopen.append fun note hnote => ?_⟩
    rw [List.mem_singleton.1 hnote]
    exact hclose c hc
  outside c hc := (hd.apart _ _ _ (hidle c hc)).trans (h.outside c hc)

/-- A connection that was let go of can be closed. -/
theorem told_close (hd : d.KeepsTransactions) (h : Tidy d [c] s) :
    Tidy d [] (s.told d (.close c)) := by
  refine h.drop.told hd (fun c' hc' heq => h.not_mem ?_) fun c' hc' heq => h.not_mem ?_
  · rw [Option.some.inj heq]
    exact List.mem_append_left _ hc'
  · rw [Call.close.inj heq]
    exact hc'

/-- A connection that is leased does not wait. -/
theorem not_mem_idle (h : Tidy d [] s) (hl : l ∈ s.pool.leases) :
    l.connection ∉ s.pool.idle := by
  intro hidle
  obtain ⟨-, -, hdistinct⟩ := List.nodup_append.1 h.once
  exact hdistinct _ hidle _ (List.mem_map_of_mem hl) rfl

/-- Requests on a leased connection keep a pool tidy. -/
theorem told_of_lease (hd : d.KeepsTransactions) (h : Tidy d [] s) (hl : l ∈ s.pool.leases)
    (hcall : call.connection? = some l.connection) (hclose : ∀ c, call ≠ .close c) :
    Tidy d [] (s.told d call) := by
  refine h.told hd (fun c hc heq => h.not_mem_idle hl ?_) fun c _ => hclose c
  rw [Option.some.inj (hcall.symm.trans heq)]
  exact hc

end Tidy

/-- **The notes that are added to the diary**, and what they are. -/
def Adds (s s' : Session (Diary σ)) (P : Note → Prop) : Prop :=
  ∃ fresh, s'.driver.notes = s.driver.notes ++ fresh ∧ ∀ note ∈ fresh, P note

namespace Adds

variable {P : Note → Prop}

theorem refl (s : Session (Diary σ)) : Adds s s P := ⟨[], by simp⟩

theorem trans {s'' : Session (Diary σ)} (h : Adds s s' P) (h' : Adds s' s'' P) : Adds s s'' P := by
  obtain ⟨fresh, hfresh, hP⟩ := h
  obtain ⟨more, hmore, hP'⟩ := h'
  refine ⟨fresh ++ more, by rw [hmore, hfresh, List.append_assoc], fun note hnote => ?_⟩
  exact (List.mem_append.1 hnote).elim (hP note) (hP' note)

theorem told (d : Driver σ) (s : Session (Diary σ)) (hcall : P (d.noteOf s.driver.state call)) :
    Adds s (s.told d call) P := by
  refine ⟨[d.noteOf s.driver.state call], rfl, fun note hnote => ?_⟩
  rw [List.mem_singleton.1 hnote]
  exact hcall

end Adds

end Session

/-- A new pool is tidy: it has no connections. -/
theorem Session.tidy_new {database : String} {size acquireTimeout busyTimeout : Amount} {p : Pool}
    (hp : (Pool.create database size acquireTimeout busyTimeout).1 = .ok p) (state : σ) :
    Session.Tidy d [] (Session.new p state) := by
  obtain ⟨-, hidle, hleases, -⟩ := Pool.of_create hp
  have hnone : (Session.new p state).connections [] = [] := by
    show p.idle ++ p.leases.map (·.connection) = []
    rw [hidle, hleases]
    rfl
  refine ⟨by rw [hnone]; exact List.nodup_nil, fun c hc => ?_, fun c hc => ?_⟩
  · rw [hnone] at hc
    cases hc
  · rw [show (Session.new p state).pool.idle = [] from hidle] at hc
    cases hc

/-! ## Requests and slots -/

/-- What a request does. -/
theorem ensures_tell {Q : Except Fault Unit → World Call (Session (Diary σ)) → Prop}
    (hok : ∀ u cursor, (d.answer call w.outside.driver.state).1 = .ok cursor →
      u.outside = w.outside.told d call → Q (.ok ()) u)
    (herror : ∀ u e, (d.answer call w.outside.driver.state).1 = .error e →
      u.outside = w.outside.told d call → Q (.error e) u) :
    Ensures (d.recorded.tell call) w Q := by
  have hask : Ensures (d.recorded.ask call) w fun r u =>
      r = (d.answer call w.outside.driver.state).1 ∧ u.outside = w.outside.told d call :=
    ⟨rfl, rfl⟩
  exact hask.bind (fun cursor u hu => hok u cursor hu.1.symm hu.2)
    fun e u hu => herror u e hu.1.symm hu.2

/-- Whatever the answer to a request is, it was asked. -/
theorem ensures_told (d : Driver σ) (call : Call) (w : World Call (Session (Diary σ))) :
    Ensures (d.recorded.tell call) w fun _ u => u.outside = w.outside.told d call :=
  ensures_tell (fun _ _ _ hu => hu) fun _ _ _ hu => hu

/-- A pool with another number of free slots. A pool that does not count them goes on so. -/
def Session.Recounted (s s' : Session σ) : Prop :=
  ∃ free, (s.pool.free = none → free = none) ∧ s' = { s with pool := { s.pool with free } }

/-- Counting slots up or down. -/
theorem ensures_recount (f : Nat → Nat) (w : World Call (Session (Diary σ))) :
    Ensures (updatePool fun p => { p with free := p.free.map f }) w fun _ u =>
      w.outside.Recounted u.outside := by
  refine ⟨w.outside.pool.free.map f, fun h => ?_, rfl⟩
  rw [h]
  rfl

theorem Session.Recounted.refl (s : Session σ) : s.Recounted s := ⟨s.pool.free, id, rfl⟩

/-- Giving back a slot changes nothing but the number of free slots. -/
theorem ensures_freeSlot (w : World Call (Session (Diary σ))) :
    Ensures Pool.freeSlot w fun _ u => w.outside.Recounted u.outside := by
  refine .bind_of_ok (rfl : pool w = _) ?_
  split
  · exact Session.Recounted.refl _
  · exact ensures_recount _ _

/-- Taking a slot does no more either. -/
theorem ensures_takeSlot (w : World Call (Session (Diary σ))) :
    Ensures Pool.takeSlot w fun _ u => w.outside.Recounted u.outside := by
  refine .bind_of_ok (rfl : pool w = _) ?_
  split
  · exact Session.Recounted.refl _
  · split
    · exact Session.Recounted.refl _
    · exact ensures_recount _ _

/-! ## What an operation comes to -/

/-- **What an operation has come to**: slots are taken or given back and connections go to or from
those that wait, and nothing else happens to the pool; the requests are allowed ones; and the pool
is tidy apart from what is in hand. -/
structure Reaches (d : Driver σ) (allowed : Call → Prop) (before : Session (Diary σ))
    (hand : List Nat) (s : Session (Diary σ)) : Prop where
  pool : s.pool = { before.pool with free := s.pool.free, idle := s.pool.idle }
  /-- A pool that does not count its slots goes on so. -/
  uncounted : before.pool.free = none → s.pool.free = none
  adds : Session.Adds before s fun note => allowed note.call
  tidy : Session.Tidy d hand s

namespace Reaches

variable {allowed : Call → Prop} {before : Session (Diary σ)}

theorem refl (h : Session.Tidy d hand s) : Reaches d allowed s hand s :=
  ⟨rfl, id, .refl s, h⟩

theorem trans {hand' : List Nat} (h : Reaches d allowed before hand s)
    (h' : Reaches d allowed s hand' s') : Reaches d allowed before hand' s' where
  pool := by
    rw [h'.pool, h.pool]
  uncounted := h'.uncounted ∘ h.uncounted
  adds := h.adds.trans h'.adds
  tidy := h'.tidy

theorem recounted (h : Reaches d allowed before hand s) (hs : s.Recounted s') :
    Reaches d allowed before hand s' := by
  obtain ⟨free, hfree, rfl⟩ := hs
  refine ⟨?_, hfree ∘ h.uncounted, h.adds, h.tidy.of_free free⟩
  show { s.pool with free } = { before.pool with free, idle := s.pool.idle }
  rw [h.pool]

/-- A request to the driver that the pool stays tidy after. -/
theorem told {hand' : List Nat} (h : Reaches d allowed before hand s) (hcall : allowed call)
    (htidy : Session.Tidy d hand' (s.told d call)) :
    Reaches d allowed before hand' (s.told d call) :=
  ⟨h.pool, h.uncounted, h.adds.trans (.told d s hcall), htidy⟩

/-- A connection that waited is in hand. -/
theorem taken (h : Session.Tidy d [] s) {idle : List Nat} (hidle : s.pool.idle = c :: idle) :
    Reaches d allowed s [c] { s with pool := { s.pool with idle } } := by
  refine ⟨rfl, id, .refl s, h.of_pool ?_ fun c' hc' => h.outside c' ?_⟩
  · unfold Session.connections
    rw [hidle]
    exact .refl _
  · rw [hidle]
    exact List.mem_cons_of_mem c hc'

/-- A connection in hand that is let go of. -/
theorem dropped (h : Reaches d allowed before [c] s) : Reaches d allowed before [] s :=
  ⟨h.pool, h.uncounted, h.adds, h.tidy.drop⟩

/-- A connection in hand that is of no use is closed. -/
theorem closed (hd : d.KeepsTransactions) (h : Reaches d allowed before [c] s)
    (hcall : allowed (.close c)) : Reaches d allowed before [] (s.told d (.close c)) :=
  h.told hcall (h.tidy.told_close hd)

/-- Any other request about the connection in hand leaves it there. -/
theorem asked (hd : d.KeepsTransactions) (h : Reaches d allowed before [c] s)
    (hallowed : allowed call) (hcall : call.connection? = some c) (hclose : ∀ c, call ≠ .close c) :
    Reaches d allowed before [c] (s.told d call) := by
  refine h.told hallowed (h.tidy.told hd (fun c' hc' heq => ?_) fun c' _ => hclose c')
  refine h.tidy.not_mem (List.mem_append_left _ ?_)
  rw [Option.some.inj (hcall.symm.trans heq)]
  exact hc'

theorem executed (hd : d.KeepsTransactions) (h : Reaches d allowed before [c] s) (sql : String)
    (hallowed : allowed (.execute c sql [])) :
    Reaches d allowed before [c] (s.told d (.execute c sql [])) :=
  h.asked hd hallowed rfl fun _ => nofun

end Reaches

/-! ## Opening connections -/

/-- A new connection has a number of its own. -/
theorem Session.Tidy.ne_next (h : Session.Tidy d hand s) (hc : c ∈ s.connections hand) :
    c ≠ s.connects + 1 := by
  have hle := (h.opened c hc).1
  omega

/-- Asking for a new connection does not concern the others. -/
theorem Session.Tidy.unconnected (hd : d.KeepsTransactions) (h : Session.Tidy d [] s)
    (database : String) (timeout : Amount) :
    Session.Tidy d [] (Session.told d { s with connects := s.connects + 1 }
      (.connect (s.connects + 1) database timeout)) := by
  have hmore : Session.Tidy d [] { s with connects := s.connects + 1 } :=
    ⟨h.once, fun c hc => ⟨Nat.le_succ_of_le (h.opened c hc).1, (h.opened c hc).2⟩, h.outside⟩
  refine hmore.told hd (fun c hc heq => ?_) fun _ _ => nofun
  exact h.ne_next (List.mem_append_left _ hc) (Option.some.inj heq).symm

/-- **A connection with a number of its own** is in hand once it was opened. -/
theorem Session.Tidy.connected (hd : d.KeepsTransactions) (h : Session.Tidy d [] s)
    {database : String} {timeout : Amount} {cursor : Cursor}
    (haccepted : (d.answer (.connect (s.connects + 1) database timeout) s.driver.state).1 =
      .ok cursor) :
    Session.Tidy d [s.connects + 1]
      (Session.told d { s with connects := s.connects + 1 }
        (.connect (s.connects + 1) database timeout)) := by
  have hold := h.unconnected hd database timeout
  exact {
    once := List.nodup_cons.2 ⟨fun hmem => h.ne_next hmem rfl, hold.once⟩
    opened := by
      intro c hc
      rcases List.mem_cons.1 hc with rfl | hc
      · refine ⟨Nat.le_refl _, ?_⟩
        have hnote : (d.noteOf s.driver.state
            (.connect (s.connects + 1) database timeout)).accepted = true := by
          show ((d.answer _ _).1).toBool = true
          rw [haccepted]
          rfl
        exact ⟨s.driver.notes, database, timeout, _, [], by rw [← hnote]; rfl, by simp⟩
      · exact hold.opened c hc
    outside := hold.outside }

/-- A request that an acquisition makes: connections are opened only if none waits. -/
def Call.IsOfAcquisition (idle : List Nat) : Call → Prop
  | .connect .. => idle = []
  | .execute .. => True
  | .close _ => True
  | _ => False

/-- What an acquisition has come to, if these connections waited before it. -/
abbrev Acquires (d : Driver σ) (idle : List Nat) :
    Session (Diary σ) → List Nat → Session (Diary σ) → Prop :=
  Reaches d (Call.IsOfAcquisition idle)

variable {before : Session (Diary σ)} {calls : List Call}

theorem ensures_connect (hd : d.KeepsTransactions) (h : Session.Tidy d [] w.outside)
    (database : String) (timeout : Amount) :
    Ensures (d.recorded.connect database timeout) w fun r u =>
      match r with
      | .ok c => Acquires d [] w.outside [c] u.outside ∧
        d.Accepted [.connect c database timeout] u.outside.driver.state
      | .error _ => Acquires d [] w.outside [] u.outside := by
  refine .bind_of_ok (rfl : Driver.nextConnection w = _) ?_
  have htell : Ensures (d.recorded.tell (.connect (w.outside.connects + 1) database timeout))
      { w with outside := { w.outside with connects := w.outside.connects + 1 } }
      fun r u => match r with
        | .ok _ => Acquires d [] w.outside [w.outside.connects + 1] u.outside ∧
          d.Accepted [.connect (w.outside.connects + 1) database timeout] u.outside.driver.state
        | .error _ => Acquires d [] w.outside [] u.outside := by
    refine ensures_tell (fun u cursor haccepted hu => ?_) fun u e _ hu => ?_
    · rw [hu]
      exact ⟨⟨rfl, id, .told d _ rfl, h.connected hd haccepted⟩,
        w.outside.driver.state, ⟨⟨cursor, haccepted⟩, trivial⟩, rfl⟩
    · rw [hu]
      exact ⟨rfl, id, .told d _ rfl, h.unconnected hd database timeout⟩
  exact htell.bind (fun _ u hu => hu) fun e u hu => hu

/-- What is executed to set up a connection leaves it in hand. -/
theorem ensures_run (hd : d.KeepsTransactions) (h : Acquires d [] before [c] w.outside)
    (haccepted : d.Accepted calls w.outside.driver.state) (sql : String) :
    Ensures (d.recorded.run c sql) w fun r u => Acquires d [] before [c] u.outside ∧
      ∀ x, r = .ok x → d.Accepted (calls ++ [.execute c sql []]) u.outside.driver.state := by
  refine ensures_tell (fun u cursor hcall hu => ?_) fun u e _ hu => ?_
  · rw [hu]
    exact ⟨h.executed hd sql trivial, fun _ _ => haccepted.concat hcall⟩
  · rw [hu]
    exact ⟨h.executed hd sql trivial, fun _ hx => nomatch hx⟩

theorem ensures_setUp (hd : d.KeepsTransactions) (h : Acquires d [] before [c] w.outside)
    (haccepted : d.Accepted calls w.outside.driver.state) (inMemory : Bool) :
    Ensures (d.recorded.setUp inMemory c) w fun r u => Acquires d [] before [c] u.outside ∧
      ∀ x, r = .ok x →
        d.Accepted (calls ++ (settingUp inMemory).map fun sql => .execute c sql [])
          u.outside.driver.state := by
  unfold Driver.setUp
  cases inMemory with
  | true => exact ensures_run hd h haccepted _
  | false =>
    refine (ensures_run hd h haccepted _).bind (fun x u hu => ?_) fun e u hu =>
      ⟨hu.1, fun _ hx => nomatch hx⟩
    refine (ensures_run hd hu.1 (hu.2 x rfl) _).mono fun r v hv => ⟨hv.1, fun y hy => ?_⟩
    have hlast := hv.2 y hy
    rw [List.append_assoc] at hlast
    exact hlast

/-- **Opening a connection** puts a new one in hand, outside a transaction. -/
theorem ensures_openConnection (hd : d.KeepsTransactions) (h : Session.Tidy d [] w.outside)
    (p : Pool) :
    Ensures (d.recorded.openConnection p) w fun r u => match r with
      | .ok c => Acquires d [] w.outside [c] u.outside ∧
        d.inTransaction u.outside.driver.state c = false
      | .error _ => Acquires d [] w.outside [] u.outside := by
  -- only a database in a file has parents to make; from there on both ways are one
  have hopen (inMemory : Bool) {before : Session (Diary σ)} {u : World Call (Session (Diary σ))}
      (hu : Acquires d [] before [] u.outside) : Ensures (do
        World.say .debug s!"Opening SQLite connection to {p.database}"
        let connection ← d.recorded.connect p.database p.busyTimeout
        Action.onFault (d.recorded.setUp inMemory connection) fun _ =>
          d.recorded.tell (.close connection)
        return connection) u fun r v => match r with
          | .ok c => Acquires d [] before [c] v.outside ∧
            d.inTransaction v.outside.driver.state c = false
          | .error _ => Acquires d [] before [] v.outside := by
    have hsay : Ensures (World.say .debug s!"Opening SQLite connection to {p.database}") u
        fun _ v => v.outside = u.outside := rfl
    refine hsay.bind (fun _ v hv => ?_) fun _ v hv => hv ▸ hu
    rw [← hv] at hu
    refine (ensures_connect hd hu.tidy p.database p.busyTimeout).bind (fun c v₁ hv₁ => ?_)
      fun _ v₁ hv₁ => hu.trans hv₁
    have hsetUp := ensures_setUp hd (hu.trans hv₁.1) hv₁.2 inMemory
    have honFault : Ensures (Action.onFault (d.recorded.setUp inMemory c) fun _ =>
        d.recorded.tell (.close c)) v₁ fun r v₂ => match r with
          | .ok _ => Acquires d [] before [c] v₂.outside ∧
            d.inTransaction v₂.outside.driver.state c = false
          | .error _ => Acquires d [] before [] v₂.outside := by
      refine hsetUp.onFault (fun x v₂ hv₂ => ⟨hv₂.1, ?_⟩) fun e v₂ hv₂ => ?_
      · exact hd.opens _ c p.database p.busyTimeout inMemory (hv₂.2 x rfl)
      · -- whether closing it raises or not, the connection is out of hand
        refine (ensures_told d _ v₂).mono fun r v₃ hv₃ => ?_
        have hclosed := hv₂.1.closed hd trivial
        rw [← hv₃] at hclosed
        cases r <;> exact hclosed
    exact honFault.bind (fun _ v₂ hv₂ => hv₂) fun _ v₂ hv₂ => hv₂
  unfold Driver.openConnection
  cases p.inMemory with
  | true => exact hopen true (.refl h)
  | false =>
    have hparents : Ensures (d.recorded.makeParents p.database) w fun _ u =>
        Acquires d [] w.outside [] u.outside := by
      refine ⟨rfl, id, ⟨[], (List.append_nil _).symm, by simp⟩, h.once, h.opened, fun c hc => ?_⟩
      exact (hd.directories _ _ c).trans (h.outside c hc)
    exact hparents.bind (fun _ u hu => hopen false hu) fun _ u hu => hu

/-! ## Acquiring -/

/-- A pool after a connection was closed, if there is one. -/
def Session.closed (d : Driver σ) (s : Session (Diary σ)) : Option Nat → Session (Diary σ)
  | some c => s.told d (.close c)
  | none => s

/-- **A guarded action**: after a fault the connection is closed, if there is one, and the slot is
given back. -/
theorem ensures_guarded {a : PoolAction (Diary σ) α} {database : String} {connection : Option Nat}
    {R Q : Except Fault α → World Call (Session (Diary σ)) → Prop} (ha : Ensures a w R)
    (hok : ∀ x u, R (.ok x) u → Q (.ok x) u)
    (herror : ∀ e u, R (.error e) u → ∀ e' v,
      (u.outside.closed d connection).Recounted v.outside → Q (.error e') v) :
    Ensures (Pool.guarded d.recorded database connection a) w Q := by
  refine ha.attempt_bind fun r u hu => ?_
  cases r with
  | ok x => exact hok x u hu
  | error e =>
    have hclose : Ensures (Pool.closeIfAny d.recorded connection) u fun _ v =>
        v.outside = u.outside.closed d connection := by
      cases connection with
      | none => rfl
      | some c => exact ensures_told d (.close c) u
    have hdiscard : Ensures (Pool.discard d.recorded connection) u fun _ v =>
        (u.outside.closed d connection).Recounted v.outside :=
      hclose.ensure fun _ v hv => hv ▸ ensures_freeSlot v
    refine hdiscard.bind (fun _ v hv => ?_) fun e' v hv => ?_
    · exact herror e u hu _ v hv
    · exact herror e u hu e' v hv

/-- **Taking a connection** puts one in hand that is outside a transaction: one that waits, or else
a new one. -/
theorem ensures_takeConnection (hd : d.KeepsTransactions) (h : Session.Tidy d [] w.outside) :
    Ensures (Pool.takeConnection d.recorded) w fun r u => match r with
      | .ok c => Acquires d w.outside.pool.idle w.outside [c] u.outside ∧
        d.inTransaction u.outside.driver.state c = false
      | .error _ => Acquires d w.outside.pool.idle w.outside [] u.outside := by
  refine .bind_of_ok (rfl : pool w = _) ?_
  cases hidle : w.outside.pool.idle with
  | cons c idle =>
    refine ⟨Reaches.taken h hidle, h.outside c ?_⟩
    rw [hidle]
    exact List.mem_cons_self
  | nil =>
    refine ensures_guarded (ensures_openConnection hd h w.outside.pool) (fun c u hu => hu) ?_
    exact fun e u hu e' v hv => Reaches.recounted hu hv

/-- **What a lease that is handed out comes with**: its connection is one of the tidy ones, it was
outside a transaction, and then one was begun on it, which is the last request of all. -/
structure HandsOut (d : Driver σ) (before : Session (Diary σ)) (l : Lease) (s : Session (Diary σ)) :
    Prop where
  pool : s.pool = { before.pool with
    free := s.pool.free, idle := s.pool.idle, leases := l :: before.pool.leases,
    leased := s.pool.leased }
  /-- A pool that does not count its slots goes on so. -/
  uncounted : before.pool.free = none → s.pool.free = none
  tidy : Session.Tidy d [] s
  notes : ∃ fresh, s.driver.notes = before.driver.notes ++
      (fresh ++ [⟨.execute l.connection Pool.beginText [], false, true⟩]) ∧
    ∀ note ∈ fresh, note.call.IsOfAcquisition before.pool.idle

/-- A connection in hand on which a transaction was begun is leased. -/
theorem Reaches.handsOut (hd : d.KeepsTransactions)
    (h : Acquires d before.pool.idle before [c] s) {cursor : Cursor}
    (hinside : d.inTransaction s.driver.state c = false)
    (haccepted : (d.answer (.execute c Pool.beginText []) s.driver.state).1 = .ok cursor)
    (number leased : Nat) :
    HandsOut d before ⟨number, c⟩
      { s.told d (.execute c Pool.beginText []) with
        pool := { s.pool with leases := ⟨number, c⟩ :: s.pool.leases, leased } } := by
  have htidy := (h.executed hd Pool.beginText trivial).tidy
  obtain ⟨fresh, hfresh, hcalls⟩ := h.adds
  refine ⟨?_, h.uncounted, htidy.of_pool ?_ htidy.outside, fresh, ?_, hcalls⟩
  · show { s.pool with leases := ⟨number, c⟩ :: s.pool.leases, leased } =
      { before.pool with
        free := s.pool.free, idle := s.pool.idle, leases := ⟨number, c⟩ :: before.pool.leases,
        leased }
    rw [h.pool]
  · -- the connection goes from the hand to the leases
    refine List.Perm.subperm ?_
    show (s.pool.idle ++ c :: s.pool.leases.map (·.connection)).Perm
      (c :: (s.pool.idle ++ s.pool.leases.map (·.connection)))
    exact List.perm_middle
  · have hnote : d.noteOf s.driver.state (.execute c Pool.beginText []) =
        ⟨.execute c Pool.beginText [], false, true⟩ := by
      unfold Driver.noteOf
      rw [haccepted]
      show (⟨_, d.inTransaction s.driver.state c, true⟩ : Note) = _
      rw [hinside]
    show s.driver.notes ++ [d.noteOf s.driver.state (.execute c Pool.beginText [])] = _
    rw [hnote, hfresh, List.append_assoc]

/-- **Acquiring** hands out a lease, or leaves the leases as they are; the pool is tidy again. -/
theorem ensures_acquire (hd : d.KeepsTransactions) (h : Session.Tidy d [] w.outside) :
    Ensures (Pool.acquire d.recorded) w fun r u => match r with
      | .ok l => HandsOut d w.outside l u.outside
      | .error _ => Acquires d w.outside.pool.idle w.outside [] u.outside := by
  refine (ensures_takeSlot w).bind (fun _ u hu => ?_) fun _ u hu => (Reaches.refl h).recounted hu
  have hslot : Acquires d w.outside.pool.idle w.outside [] u.outside :=
    (Reaches.refl h).recounted hu
  have hidle : u.outside.pool.idle = w.outside.pool.idle := by
    obtain ⟨free, -, hu⟩ := hu
    rw [hu]
  refine (ensures_takeConnection hd hslot.tidy).bind (fun c v hv => ?_) fun e v hv => ?_
  · obtain ⟨hv, hinside⟩ := hv
    have htaken := hslot.trans (hidle ▸ hv)
    refine .bind_of_ok (rfl : pool v = _) ?_
    have hbegin : Ensures (d.recorded.run c Pool.beginText) v fun r x =>
        x.outside = v.outside.told d (.execute c Pool.beginText []) ∧
        ∀ y, r = .ok y → ∃ cursor,
          (d.answer (.execute c Pool.beginText []) v.outside.driver.state).1 = .ok cursor :=
      ensures_tell (fun x cursor haccepted hx => ⟨hx, fun _ _ => ⟨cursor, haccepted⟩⟩)
        fun x e _ hx => ⟨hx, fun _ hy => nomatch hy⟩
    have hguarded : Ensures
        (Pool.guarded d.recorded v.outside.pool.database (some c)
          (d.recorded.run c Pool.beginText)) v
        fun r x => match r with
          | .ok _ => x.outside = v.outside.told d (.execute c Pool.beginText []) ∧ ∃ cursor,
            (d.answer (.execute c Pool.beginText []) v.outside.driver.state).1 = .ok cursor
          | .error _ => Acquires d w.outside.pool.idle w.outside [] x.outside := by
      refine ensures_guarded hbegin (fun y x hx => ⟨hx.1, hx.2 y rfl⟩) ?_
      intro e x hx e' x' hx'
      have hexecuted := htaken.executed hd Pool.beginText trivial
      rw [← hx.1] at hexecuted
      exact (hexecuted.closed hd trivial).recounted hx'
    refine hguarded.bind (fun _ x hx => ?_) fun _ x hx => hx
    obtain ⟨hx, cursor, haccepted⟩ := hx
    show HandsOut d w.outside ⟨x.outside.pool.leased, c⟩ { x.outside with pool :=
      { x.outside.pool with leases := ⟨x.outside.pool.leased, c⟩ :: x.outside.pool.leases,
                            leased := x.outside.pool.leased + 1 } }
    rw [hx]
    exact htaken.handsOut hd hinside haccepted _ _
  · exact hslot.trans (hidle ▸ hv)

/-! ## Giving back -/

/-- A request that giving back a connection makes. -/
def Call.IsOfReturn (c : Nat) (call : Call) : Prop := call = .rollback c ∨ call = .close c

/-- A connection in hand is outside a transaction after its reset. -/
theorem ensures_reset (hd : d.KeepsTransactions) (h : Session.Tidy d [c] w.outside) :
    Ensures (Pool.reset d.recorded c) w fun r u =>
      Reaches d (Call.IsOfReturn c) w.outside [c] u.outside ∧
      ∀ x, r = .ok x → d.inTransaction u.outside.driver.state c = false := by
  refine .bind_of_ok (rfl : d.recorded.isInTransaction c w = _) ?_
  cases hinside : d.inTransaction w.outside.driver.state c with
  | false =>
    rw [show d.recorded.inTransaction w.outside.driver c = false from hinside]
    exact ⟨.refl h, fun _ _ => hinside⟩
  | true =>
    rw [show d.recorded.inTransaction w.outside.driver c = true from hinside]
    have hasked : Reaches d (Call.IsOfReturn c) w.outside [c]
        (w.outside.told d (.rollback c)) :=
      (Reaches.refl h).asked hd (.inl rfl) rfl fun _ => nofun
    refine ensures_tell (fun u cursor haccepted hu => ?_) fun u _ _ hu => ?_
    · rw [hu]
      exact ⟨hasked, fun _ _ => hd.rollsBack _ c cursor haccepted⟩
    · rw [hu]
      exact ⟨hasked, fun _ hx => nomatch hx⟩

/-- **A connection that is taken back** waits outside a transaction, or is closed, or is lost. -/
theorem ensures_takeBack (hd : d.KeepsTransactions) (h : Session.Tidy d [c] w.outside) :
    Ensures (Pool.takeBack d.recorded c) w fun _ u =>
      Reaches d (Call.IsOfReturn c) w.outside [] u.outside := by
  have hclose {u : World Call (Session (Diary σ))}
      (hu : Reaches d (Call.IsOfReturn c) w.outside [c] u.outside) :
      Ensures (d.recorded.tell (.close c)) u fun _ v =>
        Reaches d (Call.IsOfReturn c) w.outside [] v.outside :=
    (ensures_told d _ u).mono fun _ v hv => hv ▸ hu.closed hd (.inr rfl)
  refine (ensures_reset hd h).attempt_bind fun r u hu => ?_
  obtain ⟨hu, hinside⟩ := hu
  cases r with
  | ok x =>
    refine .bind_of_ok (rfl : pool u = _) ?_
    split
    · exact hclose hu
    · -- the connection goes from the hand to those that wait
      refine ⟨?_, hu.uncounted, hu.adds, hu.tidy.of_pool (.refl _) fun c' hc' => ?_⟩
      · show { u.outside.pool with idle := c :: u.outside.pool.idle } =
          { w.outside.pool with free := u.outside.pool.free, idle := c :: u.outside.pool.idle }
        rw [hu.pool]
      · rcases List.mem_cons.1 hc' with rfl | hc'
        · exact hinside x rfl
        · exact hu.tidy.outside c' hc'
  | error e =>
    show Ensures (if _ then _ else _) u _
    split
    · exact .bind_of_ok (rfl : World.say _ _ u = _) (hclose hu)
    · exact hu.dropped

/-- **Releasing a lease** strikes it off, and its connection waits outside a transaction or is
gone. -/
theorem ensures_release (hd : d.KeepsTransactions) (h : Session.Tidy d [] w.outside) (l : Lease) :
    Ensures (Pool.release d.recorded l) w fun _ u =>
      Reaches d (Call.IsOfReturn l.connection)
        { w.outside with pool :=
          { w.outside.pool with leases := w.outside.pool.leases.erase l } } [] u.outside := by
  refine .bind_of_ok (rfl : pool w = _) ?_
  split
  · rename_i hl
    refine .bind_of_ok (rfl : updatePool _ w = _) ?_
    have htidy : Session.Tidy d [l.connection] { w.outside with pool :=
        { w.outside.pool with leases := w.outside.pool.leases.erase l } } := by
      refine h.of_pool ?_ h.outside
      -- the connection goes from the leases to the hand
      have hperm := (List.perm_cons_erase hl).map (·.connection)
      exact (List.perm_middle.symm.trans (hperm.symm.append_left _)).subperm
    exact (ensures_takeBack hd htidy).ensure fun _ u hu =>
      (ensures_freeSlot u).mono fun _ v hv => hu.recounted hv
  · rename_i hl
    show Reaches d _ _ [] w.outside
    rw [List.erase_of_not_mem hl]
    exact .refl h

/-! ## Closing -/

/-- **Closing connections that wait** keeps a pool tidy. -/
theorem ensures_closeIdle (hd : d.KeepsTransactions) {idle : List Nat}
    (h : Session.Tidy d [] w.outside) (hidle : w.outside.pool.idle = idle) :
    Ensures (Pool.closeIdle d.recorded idle) w fun _ u =>
      Reaches d (fun call => ∃ c, call = .close c) w.outside [] u.outside := by
  induction idle generalizing w with
  | nil => exact .refl h
  | cons c idle ih =>
    refine .bind_of_ok (rfl : updatePool _ w = _) ?_
    have htaken : Reaches d (fun call => ∃ c, call = .close c) w.outside [c]
        { w.outside with pool := { w.outside.pool with idle } } := .taken h hidle
    have hclosed := htaken.closed hd ⟨c, rfl⟩
    refine (ensures_told d _ _).bind (fun _ u hu => ?_) fun _ u hu => hu ▸ hclosed
    rw [← hu] at hclosed
    have hrest : u.outside.pool.idle = idle := by
      rw [hu]
      rfl
    exact (ih hclosed.tidy hrest).mono fun _ v hv => hclosed.trans hv

/-- **Closing a pool** keeps it tidy. -/
theorem ensures_close (hd : d.KeepsTransactions) (h : Session.Tidy d [] w.outside) :
    Ensures (Pool.close d.recorded) w fun _ u =>
      Reaches d (fun call => ∃ c, call = .close c)
        { w.outside with pool := { w.outside.pool with closed := true } } [] u.outside := by
  have htidy : Session.Tidy d []
      { w.outside with pool := { w.outside.pool with closed := true } } :=
    ⟨h.once, h.opened, h.outside⟩
  refine .bind_of_ok (rfl : updatePool _ w = _) (.bind_of_ok (rfl : pool _ = _) ?_)
  exact ensures_closeIdle hd htidy rfl

/-! ## Using a lease -/

/-- A request on a leased connection: one of a statement, or one that ends a transaction. -/
def Call.IsOfLease (c : Nat) (call : Call) : Prop :=
  call.IsOfStatement c ∨ call = .commit c ∨ call = .rollback c

/-- Requests on a leased connection are about it, if they are noted, and do not close it. -/
theorem Call.IsOfLease.of_noted (h : call.IsOfLease c) (hnoted : call.isNoted = true) :
    call.connection? = some c ∧ ∀ c', call ≠ .close c' := by
  rcases h with (rfl | ⟨sql, parameters, rfl⟩) | rfl | rfl
  · cases hnoted
  · exact ⟨rfl, fun _ => nofun⟩
  · exact ⟨rfl, fun _ => nofun⟩
  · exact ⟨rfl, fun _ => nofun⟩

/-- **Requests on a leased connection** keep a pool tidy. -/
theorem Session.Tidy.afterAll (hd : d.KeepsTransactions) (h : Session.Tidy d [] s)
    (hl : l ∈ s.pool.leases) (hcalls : ∀ call ∈ calls, call.IsOfLease l.connection) :
    Session.Tidy d [] (s.afterAll d.recorded calls) := by
  induction calls generalizing s with
  | nil => exact h
  | cons call calls ih =>
    have hrest := fun call' hcall' => hcalls call' (List.mem_cons_of_mem _ hcall')
    rw [Session.afterAll_cons]
    split
    · rename_i hnoted
      obtain ⟨hcall, hclose⟩ := (hcalls call List.mem_cons_self).of_noted hnoted
      exact ih (h.told_of_lease hd hl hcall hclose) hl hrest
    · exact ih h hl hrest

end Sqlite

end SqlScript
