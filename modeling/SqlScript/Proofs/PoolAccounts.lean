import SqlScript.Proofs.PoolHistory
import SqlScript.Proofs.PoolStep

/-!
# The accounts of a pool

Whatever callers do, and whatever the driver raises when, after each step the free slots and the
leases that are out make up the size of the pool.

* `Sqlite.Books.Balances`: the invariant.
* `Sqlite.Entry.IsSound`: what every step keeps to.
* `Sqlite.Books.Balances.enter`: one step keeps the books balanced.
* `Sqlite.isSound_of_mem_runAll`: **every step of every history is sound.**
-/

namespace SqlScript.Sqlite

variable {σ : Type}

/-! ## The invariant -/

/-- **Balanced books** of a pool with `n` slots. -/
structure Books.Balances (n : Nat) (b : Books σ) : Prop where
  size : b.pool.size.units? = some n
  /-- Free slots and leases that are out are all slots. -/
  slots : ∃ free, b.pool.free = some free ∧ free + b.out.length = n
  /-- Connections that wait or are out are no more than the slots. -/
  connections : b.pool.idle.length + b.out.length ≤ n
  /-- The pool knows which leases are out. -/
  leases : b.pool.leases = b.out
  numbers : ∀ l ∈ b.given, l.number < b.pool.leased
  nodup : b.given.Nodup
  returned : ∀ l ∈ b.returned, l ∈ b.given

namespace Books

variable {n : Nat} {b : Books σ} {d : Driver σ}

theorem mem_out {l : Lease} : l ∈ b.out ↔ l ∈ b.given ∧ l ∉ b.returned := by
  unfold out
  rw [List.mem_filter, decide_eq_true_iff]

/-- The books of a new pool. -/
theorem balances_create {database : String} {size acquireTimeout busyTimeout : Amount} {p : Pool}
    (hp : (Pool.create database size acquireTimeout busyTimeout).1 = .ok p)
    (hsize : p.size.units? = some n) {w : World Call (Session σ)} (hw : w.outside.pool = p) :
    Balances n ⟨w, [], []⟩ := by
  obtain ⟨hfree, hidle, hleases, -⟩ := Pool.of_create hp
  subst hw
  exact {
    size := hsize
    slots := ⟨n, hfree.trans hsize, rfl⟩
    connections := by
      show w.outside.pool.idle.length + 0 ≤ n
      rw [hidle]
      exact Nat.zero_le n
    leases := hleases
    numbers := fun l hl => by cases hl
    nodup := List.nodup_nil
    returned := fun l hl => by cases hl }

/-- A lease with a new number was never returned. -/
theorem Balances.not_mem_given (h : b.Balances n) {l : Lease} (hl : l.number = b.pool.leased) :
    l ∉ b.given := by
  intro hmem
  have := h.numbers l hmem
  omega

/-- A new lease is out, with the others. -/
theorem Balances.out_cons (h : b.Balances n) {l : Lease} (hl : l.number = b.pool.leased)
    (world : World Call (Session σ)) :
    out { b with world, given := l :: b.given } = l :: b.out := by
  have hnot : l ∉ b.returned := fun hr => h.not_mem_given hl (h.returned l hr)
  unfold out
  rw [List.filter_cons_of_pos (by simpa using hnot)]

/-- A lease that is returned is not out. -/
theorem Balances.out_returned (h : b.Balances n) (l : Lease) (world : World Call (Session σ)) :
    out { b with world, returned := l :: b.returned } = b.out.erase l := by
  have hnodup : b.out.Nodup := h.nodup.filter _
  rw [hnodup.erase_eq_filter]
  unfold out
  rw [List.filter_filter]
  refine List.filter_congr fun x _ => ?_
  by_cases hx : x = l <;> simp [hx]

theorem enter_acquire_ok {l : Lease} {w : World Call (Session σ)}
    (h : Pool.acquire d b.world = (.ok l, w)) :
    b.enter d .acquire = ⟨.acquire, none, b, { b with world := w, given := l :: b.given }⟩ := by
  unfold enter
  rw [h]

theorem enter_acquire_error {e : Fault} {w : World Call (Session σ)}
    (h : Pool.acquire d b.world = (.error e, w)) :
    b.enter d .acquire = ⟨.acquire, some e, b, { b with world := w }⟩ := by
  unfold enter
  rw [h]

/-- Books stay balanced when nothing happens to slots and leases. -/
theorem Balances.of_pool (h : b.Balances n) {w : World Call (Session σ)} {idle : List Nat}
    {closed : Bool} (hp : w.outside.pool = { b.pool with idle, closed })
    (hidle : idle.length ≤ b.pool.idle.length) : Balances n { b with world := w } := by
  have hconnections := h.connections
  have hpool : pool { b with world := w } = { b.pool with idle, closed } := hp
  exact {
    size := by rw [hpool]; exact h.size
    slots := by rw [hpool]; exact h.slots
    connections := by
      rw [hpool]
      show idle.length + b.out.length ≤ n
      omega
    leases := by rw [hpool]; exact h.leases
    numbers := by rw [hpool]; exact h.numbers
    nodup := h.nodup
    returned := h.returned }

/-- **Acquiring keeps the books balanced**, and a fault of it changes neither slots nor leases. -/
theorem Balances.enter_acquire (h : b.Balances n) (d : Driver σ) :
    (b.enter d .acquire).after.Balances n ∧ ∀ f, (b.enter d .acquire).fault = some f →
      (b.enter d .acquire).after.pool.free = b.pool.free ∧
      (b.enter d .acquire).after.out = b.out ∧ Pool.IsAcquireFault d b.pool f := by
  obtain ⟨free, hfree, hslots⟩ := h.slots
  cases hclosed : b.pool.closed with
  | true =>
    rw [enter_acquire_error (Pool.acquire_of_closed hclosed)]
    exact ⟨h, fun f hf => ⟨rfl, rfl, .inl (Option.some.inj hf).symm⟩⟩
  | false =>
    cases free with
    | zero =>
      rw [enter_acquire_error (Pool.acquire_of_exhausted hclosed hfree)]
      exact ⟨h, fun f hf => ⟨rfl, rfl, .inr (.inl (Option.some.inj hf).symm)⟩⟩
    | succ k =>
      have hidle : b.pool.idle.tail.length ≤ b.pool.idle.length := by
        rw [List.length_tail]
        omega
      rcases Pool.acquire_cases (d := d) (w := b.world) hclosed hfree h.size (by omega)
        with ⟨l, w, hdo, hl, hp⟩ | ⟨f, w, hdo, hp, hf⟩
      · -- the slot that was taken is the new lease's
        have hout := h.out_cons hl w
        have hpool : pool { b with world := w, given := l :: b.given } = _ := hp
        have hconnections := h.connections
        rw [enter_acquire_ok hdo]
        refine ⟨?_, fun f hf => by cases hf⟩
        exact {
          size := by rw [hpool]; exact h.size
          slots := by
            rw [hpool, hout]
            exact ⟨k, rfl, by rw [List.length_cons]; omega⟩
          connections := by
            rw [hpool, hout]
            show b.pool.idle.tail.length + (b.out.length + 1) ≤ n
            rw [List.length_tail]
            omega
          leases := by
            rw [hpool, hout]
            exact congrArg (l :: ·) h.leases
          numbers := by
            rw [hpool]
            intro l' hl'
            show l'.number < b.pool.leased + 1
            rcases List.mem_cons.1 hl' with rfl | hmem
            · rw [hl]
              exact Nat.lt_succ_self _
            · have := h.numbers l' hmem
              omega
          nodup := List.nodup_cons.2 ⟨h.not_mem_given hl, h.nodup⟩
          returned := fun l' hl' => List.mem_cons_of_mem l (h.returned l' hl') }
      · -- the slot went back, only an idle connection may be gone
        have hsame : w.outside.pool.free = b.pool.free := by
          rw [hp]
          rfl
        rw [enter_acquire_error hdo]
        refine ⟨h.of_pool hp hidle, fun f' hf' => ?_⟩
        obtain rfl := Option.some.inj hf'
        exact ⟨hsame, rfl, .inr (.inr hf)⟩

theorem enter_release_of_not_mem (h : b.Balances n) {l : Lease} (hl : l ∉ b.out) :
    b.enter d (.release l) =
      ⟨.release l, some Pool.alreadyReleased, b, { b with returned := l :: b.returned }⟩ := by
  have hmem : l ∉ b.world.outside.pool.leases := by
    rw [show b.world.outside.pool.leases = b.out from h.leases]
    exact hl
  simp only [enter, Pool.release_of_not_mem hmem]
  rfl

/-- **Releasing keeps the books balanced**, the second time too. -/
theorem Balances.enter_release (h : b.Balances n) {l : Lease} (hl : l ∈ b.given) (d : Driver σ) :
    (b.enter d (.release l)).after.Balances n ∧ ∀ f, (b.enter d (.release l)).fault = some f →
      d.Raises f ∨ f = Pool.alreadyReleased := by
  have hgiven : ∀ l' ∈ l :: b.returned, l' ∈ b.given := by
    intro l' hl'
    rcases List.mem_cons.1 hl' with rfl | hmem
    · exact hl
    · exact h.returned l' hmem
  by_cases hout : l ∈ b.out
  · -- the first time, which makes a slot free
    obtain ⟨free, hfree, hslots⟩ := h.slots
    have hlength := List.length_erase_of_mem hout
    have hpos := List.length_pos_of_mem hout
    have hmem : l ∈ b.world.outside.pool.leases := by
      rw [show b.world.outside.pool.leases = b.out from h.leases]
      exact hout
    obtain ⟨r, idle, w, hdo, hp, hidle, hr⟩ :=
      Pool.release_cases (d := d) (w := b.world) hmem hfree h.size (by omega)
    have hpool : pool { b with world := w, returned := l :: b.returned } = _ := hp
    have herase := h.out_returned l w
    have hconnections := h.connections
    have henter : b.enter d (.release l) =
        ⟨.release l, faultOf r, b, { b with world := w, returned := l :: b.returned }⟩ := by
      simp only [enter, hdo]
    rw [henter]
    refine ⟨?_, fun f hf => .inl (hr f (eq_error_of_faultOf hf))⟩
    exact {
      size := by rw [hpool]; exact h.size
      slots := by
        rw [hpool, herase, hlength]
        exact ⟨free + 1, rfl, by omega⟩
      connections := by
        rw [hpool, herase, hlength]
        show idle.length + (b.out.length - 1) ≤ n
        have hcount : idle.length ≤ b.pool.idle.length + 1 := by
          rcases hidle with rfl | rfl
          · exact Nat.le_succ _
          · exact Nat.le_refl _
        omega
      leases := by
        rw [hpool, herase]
        exact congrArg (·.erase l) h.leases
      numbers := by rw [hpool]; exact h.numbers
      nodup := h.nodup
      returned := hgiven }
  · -- the second time, which changes nothing but the record
    rw [enter_release_of_not_mem h hout]
    have hsame : Books.out { b with returned := l :: b.returned } = b.out := by
      rw [h.out_returned l b.world, List.erase_of_not_mem hout]
    refine ⟨?_, fun f hf => .inr (Option.some.inj hf).symm⟩
    exact {
      size := h.size
      slots := by rw [hsame]; exact h.slots
      connections := by rw [hsame]; exact h.connections
      leases := by rw [hsame]; exact h.leases
      numbers := h.numbers
      nodup := h.nodup
      returned := hgiven }

/-- Closing the pool keeps the books balanced. -/
theorem Balances.enter_close (h : b.Balances n) (d : Driver σ) :
    (b.enter d .close).after.Balances n ∧
      ∀ f, (b.enter d .close).fault = some f → d.Raises f := by
  obtain ⟨r, rest, w, hdo, hp, hrest, hr⟩ := Pool.close_cases (d := d) (w := b.world)
  have henter : b.enter d .close = ⟨.close, faultOf r, b, { b with world := w }⟩ := by
    simp only [enter, hdo]
  rw [henter]
  exact ⟨h.of_pool hp hrest.length_le, fun f hf => hr f (eq_error_of_faultOf hf)⟩

/-- Requests to the driver keep the books balanced. -/
theorem Balances.enter_request (h : b.Balances n) (d : Driver σ) (call : Call) :
    (b.enter d (.request call)).after.Balances n ∧
      ∀ f, (b.enter d (.request call)).fault = some f → d.Raises f := by
  have hdoes := Driver.Does.tell (d := d) call
  have hp : (d.tell call b.world).2.outside.pool =
      { b.pool with idle := b.pool.idle, closed := b.pool.closed } := hdoes.pool b.world
  have henter : b.enter d (.request call) = ⟨.request call, faultOf (d.tell call b.world).1, b,
      { b with world := (d.tell call b.world).2 }⟩ := rfl
  rw [henter]
  exact ⟨h.of_pool hp (Nat.le_refl _),
    fun f hf => hdoes.raises b.world f (eq_error_of_faultOf hf)⟩

end Books

/-! ## Sound steps -/

/-- **A refusal**: an acquisition that ends with a fault before anything is asked of any driver. -/
def Pool.Refuses (w : World Call (Session σ)) (f : Fault) : Prop :=
  ∀ d : Driver σ, Pool.acquire d w = (.error f, w)

/-- The failure of a pool without a free slot. -/
def Pool.exhaustion (p : Pool) : Fault :=
  .failure (Failure.poolExhausted p.database p.acquireTimeout.text p.size.text)

/-- Whether an amount is a number. Nobody waits to the end of a time that is none. -/
def Amount.IsNumber : Amount → Prop
  | .fractional x => x.isNaN = false
  | _ => True

/-- **A sound step** of a pool with `n` slots. -/
structure Entry.IsSound (d : Driver σ) (n : Nat) (e : Entry σ) : Prop where
  /-- Free slots and leases that are out are all slots. -/
  slots : ∃ free, e.after.pool.free = some free ∧ free + e.after.out.length = n
  /-- Connections that wait or are out are no more than the slots. -/
  connections : e.after.pool.idle.length + e.after.out.length ≤ n
  /-- No slot is given back that was not taken. -/
  bounded : ¬ d.Raises Pool.overReleased → e.fault ≠ some Pool.overReleased
  /-- An acquisition that raises changes neither slots nor leases. -/
  unacquired : e.deed = .acquire → e.fault ≠ none →
    e.after.pool.free = e.before.pool.free ∧ e.after.out = e.before.out
  /-- An open pool is exhausted exactly when all slots are out, unless the time to wait is too long
  to wait for it. -/
  refused : e.before.pool.closed = false → e.before.pool.acquireTimeout.IsNumber →
    (Pool.Refuses e.before.world e.before.pool.exhaustion ↔
      e.before.out.length = n ∧ e.before.pool.acquireTimeout.unwaitable? = none)
  /-- If it is too long, that is the fault instead. -/
  overflowed : e.before.pool.closed = false → ∀ f,
    e.before.pool.acquireTimeout.unwaitable? = some f →
    e.before.out.length = n → Pool.Refuses e.before.world f
  /-- A lease that was returned is refused, and nothing else happens. -/
  twice : ∀ l, e.deed = .release l → l ∈ e.before.returned →
    e.fault = some Pool.alreadyReleased ∧ e.after.world = e.before.world

/-- A driver that raises nothing. -/
def Driver.silent : Driver σ where
  answer _ s := (.ok {}, s)
  makeDirectories _ s := (.ok (), s)
  inTransaction _ _ := false

theorem Driver.not_raises_silent (e : Fault) : ¬ (silent : Driver σ).Raises e := by
  rintro (⟨_, _, h⟩ | ⟨_, _, h⟩) <;> cases h

namespace Books

variable {n : Nat} {b : Books σ} {d : Driver σ}

/-- An open pool without a free slot refuses all callers. -/
theorem Balances.refuses (h : b.Balances n) (hopen : b.pool.closed = false)
    (hout : b.out.length = n) : Pool.Refuses b.world b.pool.exhausted := by
  obtain ⟨free, hfree, hslots⟩ := h.slots
  have hzero : free = 0 := by omega
  subst hzero
  exact fun d => Pool.acquire_of_exhausted hopen hfree

/-- **An open pool is exhausted exactly when all slots are out** and the time is one to wait. -/
theorem Balances.refuses_exhaustion_iff (h : b.Balances n) (hopen : b.pool.closed = false) :
    Pool.Refuses b.world b.pool.exhaustion ↔
      b.out.length = n ∧ b.pool.acquireTimeout.unwaitable? = none := by
  constructor
  · intro hrefuses
    have hsilent := hrefuses Driver.silent
    have hout : b.out.length = n := by
      obtain ⟨free, hfree, hslots⟩ := h.slots
      cases free with
      | zero => omega
      | succ k =>
        -- a driver without faults gives out a lease
        rcases Pool.acquire_cases (d := Driver.silent) (w := b.world) hopen hfree h.size (by omega)
          with ⟨l, w, hdo, -⟩ | ⟨f, w, -, -, hf⟩
        · rw [hdo] at hsilent
          cases congrArg Prod.fst hsilent
        · rcases hf with hf | ⟨e, he, -⟩
          · exact absurd hf (Driver.not_raises_silent f)
          · exact absurd he (Driver.not_raises_silent e)
    refine ⟨hout, ?_⟩
    cases ht : b.pool.acquireTimeout.unwaitable? with
    | none => rfl
    | some f =>
      have hexhausted := h.refuses hopen hout Driver.silent
      rw [hsilent] at hexhausted
      have hfault : b.pool.exhaustion = b.pool.exhausted :=
        Except.error.inj (congrArg Prod.fst hexhausted)
      obtain ⟨message, rfl⟩ := Pool.overflow_of_unwaitable? ht
      simp only [Pool.exhausted, ht, Pool.exhaustion] at hfault
      cases hfault
  · rintro ⟨hout, ht⟩
    have hexhausted : b.pool.exhausted = b.pool.exhaustion := by
      simp only [Pool.exhausted, ht, Pool.exhaustion]
    exact hexhausted ▸ h.refuses hopen hout

/-- A step is recorded as what it is. -/
theorem on_record (b : Books σ) (d : Driver σ) (deed : Deed) :
    (b.enter d deed).deed = deed ∧ (b.enter d deed).before = b := by
  cases deed with
  | acquire =>
    simp only [Books.enter]
    split
    · exact ⟨rfl, rfl⟩
    · exact ⟨rfl, rfl⟩
  | _ => exact ⟨rfl, rfl⟩

/-- A step by callers who release nothing but what was given out. -/
def Deed.IsOwn (b : Books σ) : Deed → Prop
  | .release l => l ∈ b.given
  | _ => True

/-- **Each step keeps the books balanced and is sound.** -/
theorem Balances.enter (h : b.Balances n) (d : Driver σ) {deed : Deed} (hown : Deed.IsOwn b deed) :
    (b.enter d deed).after.Balances n ∧ (b.enter d deed).IsSound d n := by
  obtain ⟨hdeed, hbefore⟩ := b.on_record d deed
  -- what is the same for all deeds
  have hsound : (b.enter d deed).after.Balances n →
      (¬ d.Raises Pool.overReleased → (b.enter d deed).fault ≠ some Pool.overReleased) →
      (deed = .acquire → (b.enter d deed).fault ≠ none →
        (b.enter d deed).after.pool.free = b.pool.free ∧ (b.enter d deed).after.out = b.out) →
      (b.enter d deed).after.Balances n ∧ (b.enter d deed).IsSound d n := by
    intro hafter hbounded hacquire
    refine ⟨hafter, ?_⟩
    exact {
      slots := hafter.slots
      connections := hafter.connections
      bounded := hbounded
      unacquired := by rw [hdeed, hbefore]; exact hacquire
      refused := by rw [hbefore]; exact fun hopen _ => h.refuses_exhaustion_iff hopen
      overflowed := by
        rw [hbefore]
        intro hopen f hf hout
        have hexhausted : b.pool.exhausted = f := by simp only [Pool.exhausted, hf]
        exact hexhausted ▸ h.refuses hopen hout
      twice := by
        rw [hdeed, hbefore]
        rintro l rfl hl
        have hnot : l ∉ b.out := fun hout => (mem_out.1 hout).2 hl
        rw [enter_release_of_not_mem h hnot]
        exact ⟨rfl, rfl⟩ }
  cases deed with
  | acquire =>
    obtain ⟨hafter, hfault⟩ := h.enter_acquire d
    refine hsound hafter (fun hd hf => ?_) fun _ hf => ?_
    · exact hd (Pool.raises_of_isAcquireFault (hfault _ hf).2.2)
    · obtain ⟨f, hf⟩ := Option.ne_none_iff_exists'.1 hf
      exact ⟨(hfault f hf).1, (hfault f hf).2.1⟩
  | release l =>
    obtain ⟨hafter, hfault⟩ := h.enter_release hown d
    refine hsound hafter (fun hd hf => ?_) fun hl => by cases hl
    rcases hfault _ hf with hr | hr
    · exact hd hr
    · exact absurd (congrArg Fault.message hr) (by decide)
  | close =>
    obtain ⟨hafter, hfault⟩ := h.enter_close d
    exact hsound hafter (fun hd hf => hd (hfault _ hf)) fun hl => by cases hl
  | request call =>
    obtain ⟨hafter, hfault⟩ := h.enter_request d call
    exact hsound hafter (fun hd hf => hd (hfault _ hf)) fun hl => by cases hl

end Books

/-! ## Sound histories -/

variable {n : Nat} {b : Books σ}

/-- What was given out stays so. -/
theorem Books.given_enter (b : Books σ) (d : Driver σ) (deed : Deed) {l : Lease}
    (hl : l ∈ b.given) : l ∈ (b.enter d deed).after.given := by
  cases deed with
  | acquire =>
    simp only [Books.enter]
    split
    · exact List.mem_cons_of_mem _ hl
    · exact hl
  | _ => exact hl

/-- A single step, as a history. -/
theorem Books.Balances.single (h : b.Balances n) (d : Driver σ) (deed : Deed)
    (hown : Deed.IsOwn b deed) :
    (b.enter d deed).after.Balances n ∧ (∀ l ∈ b.given, l ∈ (b.enter d deed).after.given) ∧
      ∀ e ∈ [b.enter d deed], e.IsSound d n := by
  obtain ⟨hafter, hsound⟩ := h.enter d hown
  refine ⟨hafter, fun l hl => b.given_enter d deed hl, fun e he => ?_⟩
  obtain rfl := List.mem_singleton.1 he
  exact hsound

-- A scope is an operation with operations inside, so the two are by one recursion. It carries along
-- that leases stay given out, for the scope's own lease is returned after its body.
mutual

/-- An operation keeps the books balanced, and all its steps are sound. -/
theorem Operation.balances_run (d : Driver σ) {b : Books σ} (h : b.Balances n) :
    ∀ operation : Operation, (operation.run d b).2.Balances n ∧
      (∀ l ∈ b.given, l ∈ (operation.run d b).2.given) ∧
      ∀ e ∈ (operation.run d b).1, e.IsSound d n
  | .acquire => by
    rw [Operation.run]
    exact h.single d _ trivial
  | .release number => by
    rw [Operation.run]
    split
    · rename_i l hl
      exact h.single d _ (List.mem_of_find?_eq_some hl)
    · exact ⟨h, fun _ hl => hl, fun e he => by cases he⟩
  | .scoped body => by
    rw [Operation.run]
    split
    · exact h.single d _ trivial
    · rename_i l hl
      obtain ⟨h₁, hkeep₁, hs₁⟩ := h.single d .acquire trivial
      obtain ⟨h₂, hkeep₂, hs₂⟩ := Operation.balances_runAll d h₁ body
      -- the lease of the scope is still one that was given out
      have hgiven : l ∈ (b.enter d .acquire).after.given := by
        rw [Books.enter_acquire_ok (Prod.ext hl rfl)]
        exact List.mem_cons_self
      obtain ⟨h₃, hkeep₃, hs₃⟩ := h₂.single d (.release l) (hkeep₂ l hgiven)
      refine ⟨h₃, fun l' hl' => hkeep₃ l' (hkeep₂ l' (hkeep₁ l' hl')), fun e he => ?_⟩
      rcases List.mem_cons.1 he with rfl | he
      · exact hs₁ _ List.mem_cons_self
      · rcases List.mem_append.1 he with he | he
        · exact hs₂ e he
        · exact hs₃ e he
  | .close => by
    rw [Operation.run]
    exact h.single d _ trivial
  | .request call => by
    rw [Operation.run]
    exact h.single d _ trivial

/-- Operations keep the books balanced, and all their steps are sound. -/
theorem Operation.balances_runAll (d : Driver σ) {b : Books σ} (h : b.Balances n) :
    ∀ operations : List Operation, (Operation.runAll d b operations).2.Balances n ∧
      (∀ l ∈ b.given, l ∈ (Operation.runAll d b operations).2.given) ∧
      ∀ e ∈ (Operation.runAll d b operations).1, e.IsSound d n
  | [] => by
    rw [Operation.runAll]
    exact ⟨h, fun _ hl => hl, fun e he => by cases he⟩
  | operation :: operations => by
    rw [Operation.runAll]
    obtain ⟨h₁, hkeep₁, hs₁⟩ := Operation.balances_run d h operation
    obtain ⟨h₂, hkeep₂, hs₂⟩ := Operation.balances_runAll d h₁ operations
    refine ⟨h₂, fun l hl => hkeep₂ l (hkeep₁ l hl), fun e he => ?_⟩
    rcases List.mem_append.1 he with he | he
    · exact hs₁ e he
    · exact hs₂ e he

end

/-- **The accounts of a pool.** Whatever callers do with a new pool, and whatever the driver raises
when, every step on record is sound. -/
theorem isSound_of_mem_runAll {database : String} {size acquireTimeout busyTimeout : Amount}
    {p : Pool} (hp : (Pool.create database size acquireTimeout busyTimeout).1 = .ok p)
    (hsize : p.size.units? = some n) (d : Driver σ) (w : World Call (Session σ))
    (hw : w.outside.pool = p) (operations : List Operation) :
    ∀ e ∈ (Operation.runAll d ⟨w, [], []⟩ operations).1, e.IsSound d n :=
  (Operation.balances_runAll d (Books.balances_create hp hsize hw) operations).2.2

/-- A pool of one connection that callers wait for up to a number of seconds. -/
def singlePool (acquireTimeout : Float) : Pool where
  database := "a.db"
  size := .whole 1
  acquireTimeout := .fractional acquireTimeout
  busyTimeout := .fractional 5

/-- The books of a new pool of one connection. -/
def singleBooks (acquireTimeout : Float) : Books Unit :=
  ⟨{ outside := { pool := singlePool acquireTimeout, driver := () } }, [], []⟩

theorem isSound_of_mem_runAll_single :
    (Pool.create "a.db" (.whole 1) (.fractional 30) (.fractional 5)).1 = .ok (singlePool 30) ∧
    (singlePool 30).size.units? = some 1 ∧
    (singleBooks 30).world.outside.pool = singlePool 30 ∧
    ∀ e ∈ (Operation.runAll Driver.silent (singleBooks 30)
      [.scoped [.release 0], .acquire, .acquire, .release 1, .release 1]).1,
      e.IsSound Driver.silent 1 := by
  have hcreate : (Pool.create "a.db" (.whole 1) (.fractional 30) (.fractional 5)).1 =
      .ok (singlePool 30) := rfl
  exact ⟨hcreate, rfl, rfl, isSound_of_mem_runAll hcreate rfl Driver.silent _ rfl _⟩

/-- A pool whose time to wait is too long does not say that it is exhausted. -/
theorem not_refuses_exhaustion :
    let b := ((singleBooks 1e10).enter Driver.silent .acquire).after
    b.pool.closed = false ∧ b.out.length = 1 ∧
      Pool.acquire Driver.silent b.world =
        (.error (.of .overflow "timestamp too large to convert to C _PyTime_t"), b.world) ∧
      ¬ Pool.Refuses b.world b.pool.exhaustion := by
  intro b
  have htime : Number.ofInt Number.wordLimit ≤ (1e10 : Float) * 1e9 := by decide +kernel
  have hwait : b.pool.acquireTimeout.unwaitable? = some Amount.overlong :=
    if_pos (e := none) htime
  have hfault : b.pool.exhausted = Amount.overlong := by
    simp only [Pool.exhausted, hwait]
  have hdo : Pool.acquire Driver.silent b.world = (.error b.pool.exhausted, b.world) :=
    Pool.acquire_of_exhausted rfl rfl
  rw [hfault] at hdo
  refine ⟨rfl, rfl, hdo, fun h => ?_⟩
  have hsame := Except.error.inj (congrArg Prod.fst ((h Driver.silent).symm.trans hdo))
  cases hsame

end SqlScript.Sqlite
