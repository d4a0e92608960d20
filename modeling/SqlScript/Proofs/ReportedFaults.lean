import SqlScript.Proofs.Agreement
import SqlScript.Proofs.Serialization
import SqlScript.Proofs.Successes

/-!
# What runs raise

Every step of a run reports the ordinary faults of what it asks for, so a run raises failures, or
else an interrupt. Two steps report nothing, the closing of a cursor and the giving back of the
connection. Where these raise nothing, a run ends with its outcomes, with a failure, or with an
interrupt.

* `Fault.IsReported`: faults that are failures unless they are interrupts.
* `Action.Gives`: what an action gives, wherever it is done.
* `Sqlite.Driver.Delivers`: a driver whose cursors deliver values with a JSON form and are closed.
* `Sqlite.gives_runUnits`: what running statements gives.
* `Sqlite.Driver.CleansUp`: a transaction whose connection is given back without a fault.
* `Sqlite.gives_transaction`: **what a transaction gives.**
-/

namespace SqlScript

/-- **A reported fault**: a failure, unless it is an interrupt. -/
def Fault.IsReported (e : Fault) : Prop := e.isOrdinary = true → ∃ f, e = .failure f

theorem Fault.isReported_failure (f : Failure) : (Fault.failure f).IsReported := fun _ => ⟨f, rfl⟩

/-- An outcome that has a JSON form, as far as it has rows. -/
def Outcome.HasJson (o : Outcome) : Prop := ∀ snapshot, o = some snapshot → snapshot.HasJson

namespace Action

/-! ## What actions give -/

section Gives

variable {ω α β : Type}

/-- **What an action gives**, wherever it is done: its results and its faults are as said. -/
structure Gives (Q : α → Prop) (P : Fault → Prop) (a : Action ω α) : Prop where
  result : ∀ {w x w'}, a w = (.ok x, w') → Q x
  fault : ∀ {w e w'}, a w = (.error e, w') → P e

namespace Gives

variable {Q : α → Prop} {R : β → Prop} {P : Fault → Prop} {a : Action ω α} {f : α → Action ω β}

theorem pure {x : α} (hx : Q x) : Gives Q P (Pure.pure x : Action ω α) where
  result h := Except.ok.inj (congrArg Prod.fst h) ▸ hx
  fault h := nomatch congrArg Prod.fst h

theorem throw {e : Fault} (he : P e) : Gives Q P (throw e : Action ω α) where
  result h := nomatch congrArg Prod.fst h
  fault h := Except.error.inj (congrArg Prod.fst h) ▸ he

theorem trivial (a : Action ω α) : Gives (fun _ => True) (fun _ => True) a :=
  ⟨fun _ => True.intro, fun _ => True.intro⟩

theorem bind (ha : Gives Q P a) (hf : ∀ x, Q x → Gives R P (f x)) : Gives R P (a >>= f) where
  result h := by
    obtain ⟨x, w₁, hx, h⟩ := of_bind_ok h
    exact (hf x (ha.result hx)).result h
  fault {w e w'} h := by
    cases hw : a w with
    | mk r w₁ =>
      cases r with
      | ok x => exact (hf x (ha.result hw)).fault ((bind_of_ok hw).symm.trans h)
      | error e' =>
        obtain ⟨he, -⟩ := Prod.mk.inj ((bind_of_error hw).symm.trans h)
        exact Except.error.inj he ▸ ha.fault hw

/-- **Reporting leaves reported faults only.** -/
theorem reporting {P : Fault → Prop} (ha : Gives Q P a) (report : Fault → Failure) :
    Gives Q Fault.IsReported (reporting report a) where
  result h := ha.result (of_reporting_ok h)
  fault {w e w'} h := by
    unfold Action.reporting at h
    split at h
    · cases congrArg Prod.fst h
    · rename_i e' _ _
      rw [← Except.error.inj (congrArg Prod.fst h)]
      split
      · exact Fault.isReported_failure _
      · rename_i hinterrupt
        exact fun hordinary => absurd hordinary hinterrupt

theorem attempt_bind {P' : Fault → Prop} {f : Except Fault α → Action ω β} (ha : Gives Q P' a)
    (hok : ∀ x, Q x → Gives R P (f (.ok x))) (herror : ∀ e, P' e → Gives R P (f (.error e))) :
    Gives R P (attempt a >>= f) where
  result {w y w'} h := by
    obtain ⟨r, w₁, hr, h⟩ := of_bind_ok h
    have hr := of_attempt_ok hr
    cases r with
    | ok x => exact (hok x (ha.result hr)).result h
    | error e => exact (herror e (ha.fault hr)).result h
  fault {w e w'} h := by
    cases hw : a w with
    | mk r w₁ =>
      have h := (bind_of_ok (attempt_of_apply hw)).symm.trans h
      cases r with
      | ok x => exact (hok x (ha.result hw)).fault h
      | error e => exact (herror e (ha.fault hw)).fault h

theorem ensure {cleanup : Action ω Unit} (ha : Gives Q P a)
    (hc : Gives (fun _ => True) P cleanup) : Gives Q P (ensure a cleanup) where
  result h := by
    obtain ⟨w₁, hx⟩ := of_ensure_ok h
    exact ha.result hx
  fault {w e w'} h := by
    unfold Action.ensure at h
    cases hw : a w with
    | mk r w₁ =>
      cases hcleanup : cleanup w₁ with
      | mk p w₂ =>
        rw [hw] at h
        simp only [hcleanup] at h
        cases p with
        | ok _ =>
          obtain ⟨rfl, -⟩ := Prod.mk.inj h
          exact ha.fault hw
        | error e' => exact Except.error.inj (congrArg Prod.fst h) ▸ hc.fault hcleanup

theorem onFault {handler : Fault → Action ω Unit} (ha : Gives Q P a)
    (hh : ∀ e, P e → Gives (fun _ => True) P (handler e)) : Gives Q P (onFault a handler) where
  result h := ha.result (of_onFault_ok h)
  fault {w e w'} h := by
    unfold Action.onFault at h
    split at h
    · cases congrArg Prod.fst h
    · rename_i e' w₁ hw
      split at h
      · exact Except.error.inj (congrArg Prod.fst h) ▸ ha.fault hw
      · rename_i hhandler
        exact Except.error.inj (congrArg Prod.fst h) ▸ (hh e' (ha.fault hw)).fault hhandler

end Gives

end Gives

end Action

namespace Backend

variable {κ τ Conn Stmt : Type} (b : Backend κ τ Conn Stmt)

/-- A transaction on a connection, up to where the connection is given back. -/
def settle (c : Conn) (items : List (StatementUnit × Batch)) :
    Action (World κ τ) (List Outcome) := do
  let result ← Action.onFault (b.runUnits c items) (b.rollbackAfter c)
  b.commitOrRollback c
  return result

open SqlScript.Action (Gives)

variable {P : Fault → Prop}

theorem gives_acquireConnection : Gives (fun _ => True) Fault.IsReported b.acquireConnection := by
  refine (Gives.trivial b.acquire).attempt_bind (fun c _ => .pure trivial) fun e _ => .throw ?_
  unfold reportAcquire
  split
  · exact Fault.isReported_failure _
  · split
    · exact Fault.isReported_failure _
    · rename_i hinterrupt
      exact fun hordinary => absurd hordinary hinterrupt

theorem gives_say (level : LogLevel) (message : String) :
    Gives (fun _ => True) P (World.say level message : Action (World κ τ) Unit) where
  result _ := trivial
  fault h := nomatch congrArg Prod.fst h

theorem gives_rollbackAfter (c : Conn) (e : Fault) :
    Gives (fun _ => True) Fault.IsReported (b.rollbackAfter c e) :=
  (gives_say _ _).bind fun _ _ => (Gives.trivial (b.rollback c)).reporting _

theorem gives_commitOrRollback (c : Conn) :
    Gives (fun _ => True) Fault.IsReported (b.commitOrRollback c) := by
  refine (Gives.trivial (b.commit c)).attempt_bind (fun _ _ => .pure trivial) fun e _ => ?_
  simp only
  split
  · exact (b.gives_rollbackAfter c _).bind fun _ _ => .throw (Fault.isReported_failure _)
  · rename_i hinterrupt
    exact .throw fun hordinary => absurd hordinary hinterrupt

/-- **What a transaction on a connection gives** is what its statements give. -/
theorem gives_settle {c : Conn} {items : List (StatementUnit × Batch)} {Q : List Outcome → Prop}
    (h : Gives Q Fault.IsReported (b.runUnits c items)) :
    Gives Q Fault.IsReported (b.settle c items) :=
  (h.onFault fun e _ => b.gives_rollbackAfter c e).bind fun _ hresult =>
    (b.gives_commitOrRollback c).bind fun _ _ => .pure hresult

end Backend

namespace Sqlite

open SqlScript.Action
open SqlScript.Action (Gives)

variable {σ : Type} {d : Driver σ}

/-! ## Statements -/

/-- **A driver whose cursors deliver values with a JSON form**, and are closed without a fault. -/
structure Driver.Delivers (d : Driver σ) : Prop where
  closes : ∀ call s cursor s', d.answer call s = (.ok cursor, s') → cursor.closeFault = none
  values : ∀ call s cursor s', d.answer call s = (.ok cursor, s') → cursor.IsSerializable

theorem gives_closeCursor {P : Fault → Prop} {cursor : Cursor} (h : cursor.closeFault = none) :
    Gives (fun _ => True) P
      (World.closeCursor Call.closeCursor cursor : PoolAction σ Unit) where
  result _ := trivial
  fault hraised := by
    unfold World.closeCursor at hraised
    rw [h] at hraised
    cases congrArg Prod.fst hraised

/-- What is collected of a cursor that is closed without a fault. -/
theorem gives_collect {index : Int} {cursor : Cursor} (hcloses : cursor.closeFault = none)
    (hvalues : cursor.IsSerializable) :
    Gives Outcome.HasJson Fault.IsReported ((backend d).collect index cursor) := by
  unfold Backend.collect
  split
  · exact (Backend.gives_say _ _).bind fun _ _ =>
      (gives_closeCursor hcloses).bind fun _ _ => .pure nofun
  · have hread : Gives Snapshot.HasJson (fun _ => True)
        (Action.ofExcept (Snapshot.read cursor) : PoolAction σ Snapshot) :=
      ⟨fun h => Snapshot.hasJson_of_read hvalues (congrArg Prod.fst h), fun _ => trivial⟩
    have hsnapshot : Gives Snapshot.HasJson Fault.IsReported
        (Snapshot.materialize (backend d).closeCursor cursor (some index)) :=
      ((hread.reporting _).ensure (gives_closeCursor hcloses)).bind fun _ hs =>
        (Backend.gives_say _ _).bind fun _ _ => .pure hs
    exact hsnapshot.bind fun s hs => .pure fun _ h => Option.some.inj h ▸ hs

/-- What executing a statement gives is a cursor of the driver. -/
theorem gives_bindAndExecute (hd : d.Delivers) (p : Prepared) (batch : Batch) :
    Gives (fun cursor : Cursor => cursor.closeFault = none ∧ cursor.IsSerializable)
      (fun _ => True) ((backend d).bindAndExecute p batch) := by
  refine (Gives.trivial ((backend d).bindFrom 1 p batch)).bind fun p' _ => ?_
  refine ⟨fun {w cursor w'} h => ?_, fun _ => trivial⟩
  obtain ⟨s', hanswer, -⟩ := of_ask_ok h
  exact ⟨hd.closes _ _ _ _ hanswer, hd.values _ _ _ _ hanswer⟩

theorem gives_runUnit (hd : d.Delivers) (l : Lease) (unit : StatementUnit) (batch : Batch) :
    Gives Outcome.HasJson Fault.IsReported ((backend d).runUnit l unit batch) :=
  (Backend.gives_say _ _).bind fun _ _ => ((Gives.trivial _).reporting _).bind fun p _ =>
    ((gives_bindAndExecute hd p batch).reporting _).bind fun _ hcursor =>
      gives_collect hcursor.1 hcursor.2

/-- **What running statements gives**: outcomes that have a JSON form, or a reported fault. -/
theorem gives_runUnits (hd : d.Delivers) (l : Lease) (items : List (StatementUnit × Batch)) :
    Gives (fun outcomes : List Outcome => ∀ o ∈ outcomes, o.HasJson) Fault.IsReported
      ((backend d).runUnits l items) := by
  induction items with
  | nil => exact .pure (by simp)
  | cons item items ih =>
    exact (gives_runUnit hd l item.1 item.2).bind fun o ho => ih.bind fun rest hrest =>
      .pure fun o' ho' => (List.mem_cons.1 ho').elim (fun h => h ▸ ho) (hrest o')

/-! ## Transactions -/

/-- **What a transaction comes to** that begins with a pool. -/
def Session.transact (d : Driver σ) (s : Session σ) (items : List (StatementUnit × Batch)) :
    Except Fault (List Outcome) × World Call (Session σ) :=
  (backend d).transaction (fun l => (backend d).runUnits l items) { outside := s }

/-- **A transaction that is cleaned up**: its connection is given back without a fault, and the pool
can be closed without one after it. -/
structure Driver.CleansUp (d : Driver σ) (s : Session σ) (items : List (StatementUnit × Batch)) :
    Prop where
  release : ∀ l u, (backend d).acquireConnection { outside := s } = (.ok l, u) →
    (Pool.release d l ((backend d).settle l items u).2).1 = .ok ()
  close : (Pool.close d (s.transact d items).2).1 = .ok ()

/-- **A driver that raises nothing cleans up** after statements, on a new pool. -/
theorem Driver.cleansUp_of_quiet (hquiet : ∀ e, ¬ d.Raises e) {s : Session σ} {n : Nat}
    (hopen : s.pool.closed = false) (hfree : s.pool.free = some (n + 1))
    (hsize : s.pool.size.units? = some (n + 1)) {items : List (StatementUnit × Batch)}
    (hitems : ∀ item ∈ items, item.1.placeholderCount = countPlaceholders item.1.sql) :
    d.CleansUp s items where
  release l u hacquire := by
    obtain ⟨l', u', hleased, -, hpool⟩ | ⟨e, u', hfailed, -⟩ :=
      Pool.acquire_cases (d := d) (w := { outside := s }) hopen hfree hsize (Nat.lt_succ_self n)
    · obtain ⟨hl, rfl⟩ := Prod.mk.inj (hleased.symm.trans (of_acquireConnection_ok hacquire))
      obtain rfl := Except.ok.inj hl
      -- the lease is noted in the pool, and the statements leave the pool as it is
      obtain ⟨asked, ending, r, hsettled, -⟩ := yields_settled (d := d) l' hitems u'
      have hkept : ((backend d).settle l' items u').2.outside.pool = u'.outside.pool :=
        (congrArg Session.pool hsettled.outside).trans rfl
      obtain ⟨r, idle, v, hrelease, -, -, hr⟩ := Pool.release_cases (d := d) (l := l')
        (w := ((backend d).settle l' items u').2) (k := n) (n := n + 1)
        (by rw [hkept, hpool]; exact List.mem_cons_self) (by rw [hkept, hpool])
        (by rw [hkept, hpool]; exact hsize) (Nat.lt_succ_self n)
      rw [hrelease]
      cases r with
      | ok x => rfl
      | error e => exact absurd (hr e rfl) (hquiet e)
    · cases hfailed.symm.trans (of_acquireConnection_ok hacquire)
  close := by
    obtain ⟨r, rest, v, hclose, -, -, hr⟩ := Pool.close_cases (d := d) (w := (s.transact d items).2)
    rw [hclose]
    cases r with
    | ok x => rfl
    | error e => exact absurd (hr e rfl) (hquiet e)

/-- **What a transaction gives** that is cleaned up: outcomes that have a JSON form, or a reported
fault. -/
theorem gives_transact (hd : d.Delivers) {s : Session σ} {items : List (StatementUnit × Batch)}
    (hclean : d.CleansUp s items) :
    (∀ outcomes, (s.transact d items).1 = .ok outcomes → ∀ o ∈ outcomes, o.HasJson) ∧
      ∀ e, (s.transact d items).1 = .error e → e.IsReported := by
  unfold Session.transact Backend.transaction
  cases hacquire : (backend d).acquireConnection { outside := s } with
  | mk r u =>
    cases r with
    | error e =>
      rw [bind_of_error hacquire]
      exact ⟨nofun, fun e' he =>
        Except.error.inj he ▸ (backend d).gives_acquireConnection.fault hacquire⟩
    | ok l =>
      rw [bind_of_ok hacquire]
      have hsettle := (backend d).gives_settle (gives_runUnits hd l items)
      have hrelease := hclean.release l u hacquire
      show (∀ outcomes, (Action.ensure ((backend d).settle l items) (Pool.release d l) u).1 =
        .ok outcomes → _) ∧ ∀ e, (Action.ensure ((backend d).settle l items) (Pool.release d l) u).1
          = .error e → _
      cases hsettled : (backend d).settle l items u with
      | mk r v =>
        rw [hsettled] at hrelease
        rw [ensure_of_ok hsettled (Prod.ext hrelease rfl)]
        exact ⟨fun outcomes h => hsettle.result (hsettled.trans (Prod.ext h rfl)),
          fun e h => hsettle.fault (hsettled.trans (Prod.ext h rfl))⟩

end Sqlite

end SqlScript
