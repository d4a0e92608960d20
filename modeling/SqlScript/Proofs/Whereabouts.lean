import SqlScript.Proofs.Tidiness

/-!
# Where connections are

A connection that was opened waits, is leased, is in the hands of an operation, or was closed; or
nobody knows of it any more. It is never in two of these places, so it is never closed twice, and
the only way to get lost is a release whose rollback raises what the database does not call its own.

* `Sqlite.opened`, `Sqlite.closings`: the connections that were opened and closed, by a diary.
* `Sqlite.lostBy`: the connection that a release lost, by its notes.
* `Sqlite.Session.Accounts`: **each connection that was opened is in one place.**
* `Sqlite.ensures_accounts_acquire`, `Sqlite.ensures_returns_release`,
  `Sqlite.ensures_accounts_close`: the operations keep account of all connections.
-/

namespace SqlScript.Sqlite

open SqlScript.Action

variable {σ α : Type} {d : Driver σ} {s s' : Session (Diary σ)} {lost hand : List Nat} {c : Nat}
  {call : Call} {w : World Call (Session (Diary σ))}

/-! ## Connections in a diary -/

/-- The connection that a request opened, if it did. -/
def Note.opened? (note : Note) : Option Nat :=
  match note.call with
  | .connect c _ _ => if note.accepted then some c else none
  | _ => none

/-- The connection that a request was to close, whether it was answered with a fault or not. -/
def Note.closed? (note : Note) : Option Nat :=
  match note.call with
  | .close c => some c
  | _ => none

/-- **The connections that were opened**, by a diary. -/
def opened (notes : List Note) : List Nat := notes.filterMap Note.opened?

/-- **The connections that were closed**, by a diary, each as often as it was. -/
def closings (notes : List Note) : List Nat := notes.filterMap Note.closed?

/-- **The connection that a release lost**, by its notes: it asked for nothing but a rollback, which
was refused. -/
def lostBy : List Note → List Nat
  | [⟨.rollback c, _, false⟩] => [c]
  | _ => []

theorem opened_append (notes more : List Note) :
    opened (notes ++ more) = opened notes ++ opened more := List.filterMap_append

theorem closings_append (notes more : List Note) :
    closings (notes ++ more) = closings notes ++ closings more := List.filterMap_append

/-- Whether a request neither opens nor closes a connection. -/
def Call.IsNeutral : Call → Prop
  | .connect .. | .close _ => False
  | _ => True

/-- The connections that a diary knows do not change with a neutral request. -/
theorem opened_told (s : Session (Diary σ)) (hcall : call.IsNeutral) :
    opened (s.told d call).driver.notes = opened s.driver.notes ∧
      closings (s.told d call).driver.notes = closings s.driver.notes := by
  have hnotes : (s.told d call).driver.notes = s.driver.notes ++ [d.noteOf s.driver.state call] :=
    rfl
  rw [hnotes, opened_append, closings_append]
  cases call with
  | connect | close => exact absurd hcall id
  | execute | commit | rollback | closeCursor => exact ⟨List.append_nil _, List.append_nil _⟩

/-- The connections that a diary knows after a new one was asked for. -/
theorem opened_told_connect (s : Session (Diary σ)) (database : String) (timeout : Amount) :
    let asked := Session.told d { s with connects := s.connects + 1 }
      (.connect (s.connects + 1) database timeout)
    opened asked.driver.notes = opened s.driver.notes ++
      (if (d.answer (.connect (s.connects + 1) database timeout) s.driver.state).1.toBool then
        [s.connects + 1] else []) ∧
      closings asked.driver.notes = closings s.driver.notes := by
  refine ⟨(opened_append _ _).trans (congrArg _ ?_),
    (closings_append _ _).trans (List.append_nil _)⟩
  simp only [opened, Note.opened?, Driver.noteOf, List.filterMap_cons, List.filterMap_nil]
  cases (d.answer (.connect (s.connects + 1) database timeout) s.driver.state).1 <;> rfl

/-! ## Accounts -/

namespace Session

/-- **Each connection that was opened is in one place**: it is in hand, waits, is leased, was
closed, or is lost; and nothing else is in any place. -/
structure Accounts (lost hand : List Nat) (s : Session (Diary σ)) : Prop where
  places : ∀ c, (opened s.driver.notes).count c =
    (s.connections hand).count c + (closings s.driver.notes).count c + lost.count c
  once : (opened s.driver.notes).Nodup
  numbers : ∀ c ∈ opened s.driver.notes, c ≤ s.connects

/-- One more connection in hand. -/
theorem count_connections_cons (s : Session σ) (c : Nat) (hand : List Nat) (c' : Nat) :
    (s.connections (c :: hand)).count c' = (s.connections hand).count c' + [c].count c' := by
  rw [← List.count_append]
  exact (List.perm_append_singleton c (s.connections hand)).symm.count_eq c'

namespace Accounts

/-- Connections may change hands within a pool. -/
theorem moved {hand' : List Nat} (h : Accounts lost hand s) {pool : Pool}
    (hmoved : (Session.connections hand' { s with pool }).Perm (s.connections hand)) :
    Accounts lost hand' { s with pool } where
  places c := by
    rw [hmoved.count_eq]
    exact h.places c
  once := h.once
  numbers := h.numbers

theorem recounted (h : Accounts lost hand s) (hs : s.Recounted s') : Accounts lost hand s' := by
  obtain ⟨free, -, rfl⟩ := hs
  exact h.moved (.refl _)

/-- A request that neither opens nor closes a connection changes nothing. -/
theorem told (h : Accounts lost hand s) (hcall : call.IsNeutral) :
    Accounts lost hand (s.told d call) := by
  obtain ⟨hopened, hclosings⟩ := opened_told (d := d) s hcall
  exact {
    places := by rw [hopened, hclosings]; exact h.places
    once := by rw [hopened]; exact h.once
    numbers := by rw [hopened]; exact h.numbers }

/-- **A connection in hand that is closed**, whatever closing it raises. -/
theorem told_close (h : Accounts lost (c :: hand) s) :
    Accounts lost hand (s.told d (.close c)) := by
  have hnotes : (s.told d (.close c)).driver.notes =
      s.driver.notes ++ [d.noteOf s.driver.state (.close c)] := rfl
  have hopened : opened (s.told d (.close c)).driver.notes = opened s.driver.notes := by
    rw [hnotes, opened_append]
    exact List.append_nil _
  have hclosings : closings (s.told d (.close c)).driver.notes =
      closings s.driver.notes ++ [c] := by
    rw [hnotes, closings_append]
    rfl
  refine ⟨fun c' => ?_, by rw [hopened]; exact h.once, by rw [hopened]; exact h.numbers⟩
  have hplaces := h.places c'
  have hsame : (s.told d (.close c)).connections hand = s.connections hand := rfl
  rw [count_connections_cons] at hplaces
  rw [hopened, hclosings, hsame, List.count_append]
  omega

/-- **A connection in hand that is let go of** is lost. -/
theorem dropped (h : Accounts lost (c :: hand) s) : Accounts (lost ++ [c]) hand s := by
  refine ⟨fun c' => ?_, h.once, h.numbers⟩
  have hplaces := h.places c'
  rw [count_connections_cons] at hplaces
  rw [List.count_append]
  omega

/-- A connection that was asked for and not given. -/
theorem unconnected (h : Accounts lost hand s) {database : String} {timeout : Amount} {e : Fault}
    (hrefused : (d.answer (.connect (s.connects + 1) database timeout) s.driver.state).1 =
      .error e) :
    Accounts lost hand (Session.told d { s with connects := s.connects + 1 }
      (.connect (s.connects + 1) database timeout)) := by
  obtain ⟨hopened, hclosings⟩ := opened_told_connect (d := d) s database timeout
  rw [hrefused] at hopened
  have hsame := hopened.trans (List.append_nil _)
  refine ⟨fun c => ?_, by rw [hsame]; exact h.once, fun c hc => ?_⟩
  · rw [hsame, hclosings]
    exact h.places c
  · rw [hsame] at hc
    exact Nat.le_succ_of_le (h.numbers c hc)

/-- **A new connection** is in hand once it was opened. -/
theorem connected (h : Accounts lost hand s) {database : String} {timeout : Amount}
    {cursor : Cursor}
    (haccepted : (d.answer (.connect (s.connects + 1) database timeout) s.driver.state).1 =
      .ok cursor) :
    Accounts lost ((s.connects + 1) :: hand) (Session.told d { s with connects := s.connects + 1 }
      (.connect (s.connects + 1) database timeout)) := by
  obtain ⟨hopened, hclosings⟩ := opened_told_connect (d := d) s database timeout
  rw [haccepted] at hopened
  have hmore : _ = opened s.driver.notes ++ [s.connects + 1] := hopened
  refine ⟨fun c => ?_, ?_, fun c hc => ?_⟩
  · have hplaces := h.places c
    have hhand := count_connections_cons s (s.connects + 1) hand c
    rw [hmore, hclosings, List.count_append]
    show _ = (s.connections ((s.connects + 1) :: hand)).count c + _ + _
    omega
  · -- it has a number of its own
    rw [hmore]
    refine List.nodup_append.2 ⟨h.once, by simp, fun c hc c' hc' heq => ?_⟩
    obtain rfl := List.mem_singleton.1 hc'
    have hle := h.numbers c hc
    omega
  · rw [hmore] at hc
    rcases List.mem_append.1 hc with hc | hc
    · exact Nat.le_succ_of_le (h.numbers c hc)
    · rw [List.mem_singleton.1 hc]
      exact Nat.le_refl _

end Accounts

end Session

/-! ## Opening connections -/

/-- Executing a text on a connection. -/
theorem ensures_accounts_run (h : w.outside.Accounts lost hand) (c : Nat) (sql : String) :
    Ensures (d.recorded.run c sql) w fun _ u => u.outside.Accounts lost hand :=
  (ensures_told d (.execute c sql []) w).mono fun _ _ hu => hu ▸ h.told trivial

/-- Closing the connection in hand. -/
theorem ensures_accounts_tell_close (h : w.outside.Accounts lost (c :: hand)) :
    Ensures (d.recorded.tell (.close c)) w fun _ u => u.outside.Accounts lost hand :=
  (ensures_told d (.close c) w).mono fun _ _ hu => hu ▸ h.told_close

/-- **What an action that gives a connection leaves**: the connection is in hand, if it gave one. -/
def Gives (lost : List Nat) : Except Fault Nat → World Call (Session (Diary σ)) → Prop
  | .ok c, u => u.outside.Accounts lost [c]
  | .error _, u => u.outside.Accounts lost []

theorem ensures_gives_connect (h : w.outside.Accounts lost []) (database : String)
    (timeout : Amount) : Ensures (d.recorded.connect database timeout) w (Gives lost) := by
  refine .bind_of_ok (rfl : Driver.nextConnection w = _) ?_
  have htell : Ensures (d.recorded.tell (.connect (w.outside.connects + 1) database timeout))
      { w with outside := { w.outside with connects := w.outside.connects + 1 } }
      fun r u => match r with
        | .ok _ => u.outside.Accounts lost [w.outside.connects + 1]
        | .error _ => u.outside.Accounts lost [] :=
    ensures_tell (fun _ _ haccepted hu => hu ▸ h.connected haccepted)
      fun _ _ hrefused hu => hu ▸ h.unconnected hrefused
  exact htell.bind (fun _ u hu => hu) fun _ u hu => hu

theorem ensures_accounts_setUp (h : w.outside.Accounts lost hand) (inMemory : Bool) (c : Nat) :
    Ensures (d.recorded.setUp inMemory c) w fun _ u => u.outside.Accounts lost hand := by
  unfold Driver.setUp
  cases inMemory with
  | true => exact ensures_accounts_run h c _
  | false =>
    exact (ensures_accounts_run h c _).bind (fun _ u hu => ensures_accounts_run hu c _)
      fun _ u hu => hu

/-- **Opening a connection.** One that cannot be set up is closed. -/
theorem ensures_gives_openConnection (h : w.outside.Accounts lost []) (p : Pool) :
    Ensures (d.recorded.openConnection p) w (Gives lost) := by
  have hopen (inMemory : Bool) {u : World Call (Session (Diary σ))}
      (hu : u.outside.Accounts lost []) :
      Ensures (do
        World.say .debug s!"Opening SQLite connection to {p.database}"
        let connection ← d.recorded.connect p.database p.busyTimeout
        Action.onFault (d.recorded.setUp inMemory connection) fun _ =>
          d.recorded.tell (.close connection)
        return connection) u (Gives lost) := by
    have hsaid : Ensures (World.say .debug s!"Opening SQLite connection to {p.database}") u
        fun _ v => v.outside.Accounts lost [] := hu
    refine hsaid.bind (fun _ v hv => ?_) fun _ v hv => hv
    refine (ensures_gives_connect hv p.database p.busyTimeout).bind (fun c v hv => ?_)
      fun _ v hv => hv
    -- the fault of setting up goes on, but the connection is closed before
    have hsetUp : Ensures (Action.onFault (d.recorded.setUp inMemory c) fun _ =>
        d.recorded.tell (.close c)) v fun r x => match r with
          | .ok _ => x.outside.Accounts lost [c]
          | .error _ => x.outside.Accounts lost [] := by
      refine (ensures_accounts_setUp hv inMemory c).onFault (fun _ x hx => hx) fun e x hx => ?_
      exact (ensures_accounts_tell_close hx).mono fun r y hy => by cases r <;> exact hy
    exact hsetUp.bind (fun _ x hx => hx) fun _ x hx => hx
  unfold Driver.openConnection
  cases p.inMemory with
  | true => exact hopen true h
  | false =>
    have hparents : Ensures (d.recorded.makeParents p.database) w fun _ u =>
        u.outside.Accounts lost [] := ⟨h.places, h.once, h.numbers⟩
    exact hparents.bind (fun _ u hu => hopen false hu) fun _ u hu => hu

/-! ## Acquiring -/

/-- **Taking a connection**: one that waits, or else a new one. -/
theorem ensures_gives_takeConnection (h : w.outside.Accounts lost []) :
    Ensures (Pool.takeConnection d.recorded) w (Gives lost) := by
  refine .bind_of_ok (rfl : pool w = _) ?_
  cases hidle : w.outside.pool.idle with
  | cons c idle =>
    refine h.moved (.of_eq ?_)
    show c :: (idle ++ _) = w.outside.pool.idle ++ _
    rw [hidle]
    rfl
  | nil =>
    refine ensures_guarded (ensures_gives_openConnection h w.outside.pool)
      (fun c u hu => hu) fun e u hu e' v hv => ?_
    exact Session.Accounts.recounted hu hv

/-- **Acquiring** keeps account of all connections, whether it gives out a lease or raises. -/
theorem ensures_accounts_acquire (h : w.outside.Accounts lost []) :
    Ensures (Pool.acquire d.recorded) w fun _ u => u.outside.Accounts lost [] := by
  refine (ensures_takeSlot w).bind (fun _ u hu => ?_) fun _ u hu => h.recounted hu
  refine (ensures_gives_takeConnection (h.recounted hu)).bind (fun c v hv => ?_) fun _ v hv => hv
  refine .bind_of_ok (rfl : pool v = _) ?_
  -- a connection on which no transaction can be begun is closed
  have hguarded : Ensures (Pool.guarded d.recorded v.outside.pool.database (some c)
      (d.recorded.run c Pool.beginText)) v fun r x => match r with
        | .ok _ => x.outside.Accounts lost [c]
        | .error _ => x.outside.Accounts lost [] := by
    refine ensures_guarded (ensures_accounts_run hv c Pool.beginText) (fun _ x hx => hx) ?_
    exact fun e x hx e' y hy => hx.told_close.recounted hy
  refine hguarded.bind (fun _ x hx => ?_) fun _ x hx => hx
  -- the connection goes from the hand to the leases
  exact hx.moved List.perm_middle

/-! ## Giving back -/

/-- **What a reset can come to**: its outcome and its notes. -/
inductive Resets (c : Nat) : Except Fault Unit → List Note → Prop
  /-- The connection was outside a transaction. -/
  | untouched : Resets c (.ok ()) []
  | rolledBack (inside : Bool) : Resets c (.ok ()) [⟨.rollback c, inside, true⟩]
  | refused (inside : Bool) (e : Fault) : Resets c (.error e) [⟨.rollback c, inside, false⟩]

/-- A release that closes the connection after its reset loses none. -/
theorem Resets.lostBy_concat {r : Except Fault Unit} {notes : List Note} (h : Resets c r notes)
    (note : Note) (hnote : note.call = .close c) : lostBy (notes ++ [note]) = [] := by
  obtain ⟨_, inside, accepted⟩ := note
  obtain rfl := hnote
  cases h <;> rfl

theorem Resets.lostBy_of_ok {r : Except Fault Unit} {notes : List Note} (h : Resets c r notes)
    {x : Unit} (hr : r = .ok x) : lostBy notes = [] := by
  cases h with
  | untouched | rolledBack => rfl
  | refused => cases hr

/-- **Resetting the connection in hand.** -/
theorem ensures_resets (h : w.outside.Accounts lost [c]) :
    Ensures (Pool.reset d.recorded c) w fun r u => ∃ fresh, Resets c r fresh ∧
      u.outside.driver.notes = w.outside.driver.notes ++ fresh ∧
      u.outside.pool = w.outside.pool ∧ u.outside.Accounts lost [c] := by
  refine .bind_of_ok (rfl : d.recorded.isInTransaction c w = _) ?_
  split
  · -- the note on the rollback says how it was answered
    refine ensures_tell (fun u cursor haccepted hu => ?_) fun u e hrefused hu => ?_
    · have hnote : d.noteOf w.outside.driver.state (.rollback c) =
          ⟨.rollback c, d.inTransaction w.outside.driver.state c, true⟩ := by
        unfold Driver.noteOf
        rw [haccepted]
        rfl
      rw [hu]
      exact ⟨_, .rolledBack _, by rw [← hnote]; rfl, rfl, h.told trivial⟩
    · have hnote : d.noteOf w.outside.driver.state (.rollback c) =
          ⟨.rollback c, d.inTransaction w.outside.driver.state c, false⟩ := by
        unfold Driver.noteOf
        rw [hrefused]
        rfl
      rw [hu]
      exact ⟨_, .refused _ e, by rw [← hnote]; rfl, rfl, h.told trivial⟩
  · exact ⟨[], .untouched, (List.append_nil _).symm, rfl, h⟩

/-- **What giving back a connection leaves.** It may be lost, but then what was raised is nothing
that the database calls its own. A pool that is closed keeps no connection. -/
structure Returns (lost : List Nat) (before : Session (Diary σ)) (r : Except Fault Unit)
    (s : Session (Diary σ)) : Prop where
  accounts : ∃ fresh, s.driver.notes = before.driver.notes ++ fresh ∧
    s.Accounts (lost ++ lostBy fresh) [] ∧
    (lostBy fresh ≠ [] → ∃ f, r = .error f ∧ f.isDatabaseError = false)
  closed : s.pool.closed = before.pool.closed
  idle : before.pool.closed = true → s.pool.idle = before.pool.idle

/-- Nothing is lost. -/
theorem Returns.of_kept {before : Session (Diary σ)} {r : Except Fault Unit} {fresh : List Note}
    (hnotes : s.driver.notes = before.driver.notes ++ fresh) (hlost : lostBy fresh = [])
    (h : s.Accounts lost []) (hclosed : s.pool.closed = before.pool.closed)
    (hidle : before.pool.closed = true → s.pool.idle = before.pool.idle) :
    Returns lost before r s where
  accounts := by
    refine ⟨fresh, hnotes, ?_, fun hne => absurd hlost hne⟩
    rw [hlost, List.append_nil]
    exact h
  closed := hclosed
  idle := hidle

/-- **The connection in hand is taken back**: it waits, or is closed, or is lost. -/
theorem ensures_returns_takeBack (h : w.outside.Accounts lost [c]) :
    Ensures (Pool.takeBack d.recorded c) w fun r u => Returns lost w.outside r u.outside := by
  refine (ensures_resets h).attempt_bind fun r u hu => ?_
  obtain ⟨fresh, hresets, hnotes, hpool, hu⟩ := hu
  -- whatever the reset came to, closing the connection loses nothing
  have hclose {v : World Call (Session (Diary σ))} (hv : v.outside = u.outside) :
      Ensures (d.recorded.tell (.close c)) v fun r x => Returns lost w.outside r x.outside := by
    refine (ensures_told d (.close c) v).mono fun r x hx => ?_
    rw [hx, hv]
    have hclosed : (u.outside.told d (.close c)).driver.notes = w.outside.driver.notes ++
        (fresh ++ [d.noteOf u.outside.driver.state (.close c)]) := by
      rw [← List.append_assoc, ← hnotes]
      rfl
    exact .of_kept hclosed (hresets.lostBy_concat _ rfl) hu.told_close
      (congrArg Pool.closed hpool) fun _ => congrArg Pool.idle hpool
  cases r with
  | ok x =>
    refine .bind_of_ok (rfl : pool u = _) ?_
    split
    · exact hclose rfl
    · rename_i hopen
      have hclosed : u.outside.pool.closed = w.outside.pool.closed := congrArg Pool.closed hpool
      exact .of_kept hnotes (hresets.lostBy_of_ok rfl) (hu.moved (.refl _)) hclosed
        fun h => absurd (hclosed.trans h) hopen
  | error e =>
    show Ensures (if _ then _ else _) u _
    split
    · exact .bind_of_ok (rfl : World.say _ _ u = _) (hclose rfl)
    · rename_i hother
      cases hresets with
      | refused inside =>
        exact ⟨⟨_, hnotes, hu.dropped, fun _ => ⟨e, rfl, Bool.eq_false_iff.2 hother⟩⟩,
          congrArg Pool.closed hpool, fun _ => congrArg Pool.idle hpool⟩

/-- Giving back a slot raises nothing that the database calls its own. -/
theorem ensures_freeSlot_fault (w : World Call (Session (Diary σ))) :
    Ensures Pool.freeSlot w fun r u => w.outside.Recounted u.outside ∧
      ∀ f, r = .error f → f.isDatabaseError = false := by
  refine ⟨ensures_freeSlot w, fun f hf => ?_⟩
  have hfault : Ensures Pool.freeSlot w fun r _ => ∀ f, r = .error f → f = Pool.overReleased := by
    refine .bind_of_ok (rfl : pool w = _) ?_
    split
    · exact fun f hf => (Except.error.inj hf).symm
    · exact fun f hf => nomatch hf
  rw [show f = Pool.overReleased from hfault f hf]
  rfl

/-- **Releasing a lease** keeps account of all connections but one that it loses. -/
theorem ensures_returns_release (h : w.outside.Accounts lost []) (l : Lease) :
    Ensures (Pool.release d.recorded l) w fun r u => Returns lost w.outside r u.outside := by
  refine .bind_of_ok (rfl : pool w = _) ?_
  split
  · rename_i hl
    refine .bind_of_ok (rfl : updatePool _ w = _) ?_
    have hhand : Session.Accounts lost [l.connection] { w.outside with pool :=
        { w.outside.pool with leases := w.outside.pool.leases.erase l } } := by
      -- the connection goes from the leases to the hand
      refine h.moved (List.perm_middle.symm.trans ?_)
      exact (((List.perm_cons_erase hl).map (·.connection)).symm).append_left _
    refine (ensures_returns_takeBack hhand).ensure fun r u hu => ?_
    refine (ensures_freeSlot_fault u).mono fun p v hv => ?_
    obtain ⟨fresh, hnotes, haccounts, hfault⟩ := hu.accounts
    obtain ⟨hv, hslot⟩ := hv
    have hafter := haccounts.recounted hv
    obtain ⟨free, -, hv⟩ := hv
    rw [hv] at hafter ⊢
    refine ⟨⟨fresh, hnotes, hafter, fun hne => ?_⟩, hu.closed, hu.idle⟩
    cases p with
    | ok _ => exact hfault hne
    | error f => exact ⟨f, rfl, hslot f rfl⟩
  · exact .of_kept (List.append_nil _).symm rfl h rfl fun _ => rfl

/-! ## Closing -/

/-- **Closing connections that wait**: those that are not closed still wait, and all are closed if
nothing is raised. -/
theorem ensures_accounts_closeIdle {idle : List Nat} (h : w.outside.Accounts lost [])
    (hidle : w.outside.pool.idle = idle) :
    Ensures (Pool.closeIdle d.recorded idle) w fun r u => u.outside.Accounts lost [] ∧
      u.outside.pool.closed = w.outside.pool.closed ∧
      (r = .ok () ∨ idle = [] → u.outside.pool.idle = []) := by
  induction idle generalizing w with
  | nil => exact ⟨h, rfl, fun _ => hidle⟩
  | cons c idle ih =>
    refine .bind_of_ok (rfl : updatePool _ w = _) ?_
    have htaken : Session.Accounts lost [c]
        { w.outside with pool := { w.outside.pool with idle } } := by
      refine h.moved (.of_eq ?_)
      show c :: (idle ++ _) = w.outside.pool.idle ++ _
      rw [hidle]
      rfl
    have hclosed := htaken.told_close (d := d)
    refine (ensures_told d _ _).bind (fun _ u hu => ?_) fun e u hu => ?_
    · -- this one is closed, the others by induction
      rw [← hu] at hclosed
      have hpool : u.outside.pool = { w.outside.pool with idle } := by
        rw [hu]
        rfl
      refine (ih hclosed (by rw [hpool])).mono fun r v hv => ?_
      obtain ⟨hv, hsame, hdone⟩ := hv
      refine ⟨hv, by rw [hsame, hpool], fun hr => hdone (.inl ?_)⟩
      exact hr.resolve_right (List.cons_ne_nil _ _)
    · -- the fault ends the loop: this one is closed all the same, the others go on waiting
      rw [hu]
      exact ⟨hclosed, rfl, fun hr => hr.elim (nomatch ·) (nomatch ·)⟩

/-- **Closing a pool** keeps account of all connections; if it raises nothing, none waits any
more. -/
theorem ensures_accounts_close (h : w.outside.Accounts lost []) :
    Ensures (Pool.close d.recorded) w fun r u => u.outside.Accounts lost [] ∧
      u.outside.pool.closed = true ∧
      (r = .ok () ∨ w.outside.pool.idle = [] → u.outside.pool.idle = []) := by
  have hclosed : Session.Accounts lost []
      { w.outside with pool := { w.outside.pool with closed := true } } := h.moved (.refl _)
  refine .bind_of_ok (rfl : updatePool _ w = _) (.bind_of_ok (rfl : pool _ = _) ?_)
  exact ensures_accounts_closeIdle hclosed rfl

end SqlScript.Sqlite
