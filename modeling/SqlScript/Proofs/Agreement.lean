import SqlScript.Report
import SqlScript.Proofs.PoolAccounts
import SqlScript.Proofs.Runs
import SqlScript.Proofs.Sight

/-!
# Runs and their reports

A script can be run for its outcomes or for a report, and so can a single statement. Both ways ask
the same of a database and tell the same: the report has a statement with its outcome for each
outcome of the run, or the failure that the run raises. Only what is no failure leaves both ways.

* `ScriptReport.ofResult`: the report of a result.
* `Agrees`: a result and a report that tell the same.
* `agrees_ofResult`: a result agrees with its report.
* `Runner.yields_report`: a report is that of the result of its run.
* `Runner.agrees_report`: **runs and their reports agree**, and make the same requests.
-/

namespace SqlScript

open SqlScript.Action

/-! ## Results and reports -/

/-- **The report of a result**: failures are part of it, other faults go on as they are. -/
def ScriptReport.ofResult (source : String) (units : List StatementUnit) (batches : List Batch)
    (count elapsed : Int) : Except Fault (List Outcome) → Except Fault ScriptReport
  | .ok outcomes => .ok (.ofOutcomes source units batches outcomes count elapsed)
  | .error (.failure f) => .ok (.ofFailure source units batches f count elapsed)
  | .error e => .error e

/-- **A result and a report that tell the same** of statements with their batches. -/
structure Agrees (units : List StatementUnit) (batches : List Batch)
    (result : Except Fault (List Outcome)) (reported : Except Fault ScriptReport) : Prop where
  /-- There are outcomes exactly if the report is one of success. -/
  succeeds : (∃ outcomes, result = .ok outcomes) ↔
    ∃ report, reported = .ok report ∧ report.isSuccess = true
  /-- Then there is one statement in the report for each unit, in order. -/
  statements : ∀ outcomes report, result = .ok outcomes → reported = .ok report →
    report.statements.map (·.unit) = units ∧ report.statements.map (·.parameters) = batches ∧
    report.statements.map (·.columns) = outcomes.map (·.map (·.columns)) ∧
    report.statements.map (·.rows) = outcomes.map (·.map (·.rows)) ∧
    report.statements.map (·.rowCount) = outcomes.map (·.map (·.rows.length)) ∧
    ∀ s ∈ report.statements, s.status = .success
  /-- A failure is raised exactly if it is the one in the report. -/
  fails : ∀ f, result = .error (.failure f) ↔
    ∃ report, reported = .ok report ∧ report.error = some f
  /-- Then the report tells it, and has no rows. -/
  failed : ∀ report f, reported = .ok report → report.error = some f →
    report.isSuccess = false ∧ report.errorCode = some f.code ∧
    report.errorMessage = some f.message ∧ report.failedIndex = f.statementIndex ∧
    ∀ s ∈ report.statements, s.columns = none ∧ s.rows = none ∧ s.rowCount = none
  /-- Other faults leave both ways. -/
  leaves : ∀ kind message cause, result = .error (.outside kind message cause) ↔
    reported = .error (.outside kind message cause)

section Results

variable {source : String} {units : List StatementUnit} {batches : List Batch}
  {count elapsed : Int}

/-- The statements in the report of a committed run, if there is a batch and an outcome for each
unit. -/
theorem statements_ofOutcomes (source : String) (count elapsed : Int) {outcomes : List Outcome}
    (hbatches : batches.length = units.length) (houtcomes : outcomes.length = units.length) :
    let report := ScriptReport.ofOutcomes source units batches outcomes count elapsed
    report.statements.map (·.unit) = units ∧ report.statements.map (·.parameters) = batches ∧
      report.statements.map (·.outcome) = outcomes ∧
      ∀ s ∈ report.statements, s.status = .success := by
  have hitems : (units.zip batches).length = units.length := by
    rw [List.length_zip, hbatches, Nat.min_self]
  have hfst : ((units.zip batches).zip outcomes).map (·.1) = units.zip batches :=
    List.map_fst_zip (by omega)
  have hsnd : ((units.zip batches).zip outcomes).map (·.2) = outcomes :=
    List.map_snd_zip (by omega)
  simp only [ScriptReport.ofOutcomes, List.map_map]
  refine ⟨?_, ?_, ?_, ?_⟩
  · calc ((units.zip batches).zip outcomes).map (·.1.1)
        = (((units.zip batches).zip outcomes).map (·.1)).map (·.1) := by rw [List.map_map]; rfl
      _ = units := by rw [hfst, List.map_fst_zip (by omega)]
  · calc ((units.zip batches).zip outcomes).map (·.1.2)
        = (((units.zip batches).zip outcomes).map (·.1)).map (·.2) := by rw [List.map_map]; rfl
      _ = batches := by rw [hfst, List.map_snd_zip (by omega)]
  · exact hsnd
  · intro s hs
    obtain ⟨item, -, rfl⟩ := List.mem_map.1 hs
    rfl

/-- The statements in the report of a failed run have no outcomes. -/
theorem outcome_ofFailure {f : Failure} {s : StatementReport}
    (hs : s ∈ (ScriptReport.ofFailure source units batches f count elapsed).statements) :
    s.outcome = none := by
  obtain ⟨i, hi, rfl⟩ := List.mem_mapIdx.1 hs
  rfl

/-- A fault that is no failure leaves both ways. -/
theorem agrees_ofOutside (kind : Fault.Kind) (message : String) (cause : Option Fault) :
    Agrees units batches (.error (.outside kind message cause))
      (.error (.outside kind message cause)) where
  succeeds := iff_of_false (by simp) (by simp)
  statements := fun _ _ h => nomatch h
  fails := fun f => iff_of_false (by simp) (by simp)
  failed := fun _ _ h => nomatch h
  leaves := fun _ _ _ => by simp

/-- A failure agrees with the report that tells it. -/
theorem agrees_ofFailure (known : List Batch) (f : Failure) :
    Agrees units batches (.error (.failure f))
      (.ok (.ofFailure source units known f count elapsed)) where
  succeeds := by
    refine iff_of_false (by simp) ?_
    rintro ⟨report, h, hsuccess⟩
    obtain rfl := Except.ok.inj h
    cases hsuccess
  statements := fun _ _ h => nomatch h
  fails := by
    intro g
    constructor
    · intro h
      obtain rfl := Fault.failure.inj (Except.error.inj h)
      exact ⟨_, rfl, rfl⟩
    · rintro ⟨report, h, hg⟩
      obtain rfl := Except.ok.inj h
      rw [Option.some.inj hg]
  failed := by
    intro report g h hg
    obtain rfl := Except.ok.inj h
    obtain rfl : f = g := Option.some.inj hg
    refine ⟨rfl, rfl, rfl, rfl, fun s hs => ?_⟩
    simp only [StatementReport.columns, StatementReport.rows, StatementReport.rowCount,
      outcome_ofFailure hs, Option.map_none, and_self]
  leaves := fun _ _ _ => by simp

/-- Outcomes agree with the report that tells them, if there is one for each unit. -/
theorem agrees_ofOutcomes {outcomes : List Outcome} (hbatches : batches.length = units.length)
    (houtcomes : outcomes.length = units.length) :
    Agrees units batches (.ok outcomes)
      (.ok (.ofOutcomes source units batches outcomes count elapsed)) := by
  obtain ⟨hunit, hparameters, houtcome, hstatus⟩ :=
    statements_ofOutcomes source count elapsed hbatches houtcomes
  exact {
    succeeds := iff_of_true ⟨outcomes, rfl⟩ ⟨_, rfl, rfl⟩
    statements := by
      intro outcomes' report h h'
      obtain rfl := Except.ok.inj h
      obtain rfl := Except.ok.inj h'
      have hmap : ∀ {β : Type} (f : Outcome → β),
          (ScriptReport.ofOutcomes source units batches outcomes count elapsed).statements.map
            (fun s => f s.outcome) = outcomes.map f := by
        intro β f
        rw [← congrArg (List.map f) houtcome, List.map_map]
        rfl
      exact ⟨hunit, hparameters, hmap _, hmap _, hmap _, hstatus⟩
    fails := by
      refine fun f => iff_of_false (by simp) ?_
      rintro ⟨report, h, hf⟩
      obtain rfl := Except.ok.inj h
      cases hf
    failed := by
      intro report f h hf
      obtain rfl := Except.ok.inj h
      cases hf
    leaves := fun _ _ _ => by simp }

/-- **A result agrees with its report**, if it has an outcome for each unit where it has any. The
batches of a failed run need not be known. -/
theorem agrees_ofResult {known : List Batch} {result : Except Fault (List Outcome)}
    (hlengths : ∀ outcomes, result = .ok outcomes →
      known = batches ∧ batches.length = units.length ∧ outcomes.length = units.length) :
    Agrees units batches result
      (ScriptReport.ofResult source units known count elapsed result) := by
  rcases result with (⟨kind, message, cause⟩ | f) | outcomes
  · exact agrees_ofOutside kind message cause
  · exact agrees_ofFailure known f
  · obtain ⟨rfl, hbatches, houtcomes⟩ := hlengths outcomes rfl
    exact agrees_ofOutcomes hbatches houtcomes

end Results

/-! ## The number of outcomes -/

namespace Backend

variable {κ τ Conn Stmt α : Type} {b : Backend κ τ Conn Stmt}

/-- Statements that were run give an outcome each. -/
theorem length_runUnits {c : Conn} {items : List (StatementUnit × Batch)} {outcomes : List Outcome}
    {w w' : World κ τ} (h : b.runUnits c items w = (.ok outcomes, w')) :
    outcomes.length = items.length := by
  induction items generalizing outcomes w w' with
  | nil =>
    rw [← Except.ok.inj (congrArg Prod.fst h)]
    rfl
  | cons item items ih =>
    obtain ⟨outcome, w₁, -, h⟩ := of_bind_ok h
    obtain ⟨rest, w₂, hrest, h⟩ := of_bind_ok h
    rw [← Except.ok.inj (congrArg Prod.fst h), List.length_cons, List.length_cons, ih hrest]

/-- What a transaction gives, its body gave. -/
theorem body_of_transaction {body : Conn → Action (World κ τ) α} {x : α} {w w' : World κ τ}
    (h : b.transaction body w = (.ok x, w')) : ∃ c w₁ w₂, body c w₁ = (.ok x, w₂) := by
  obtain ⟨c, w₁, -, h⟩ := of_bind_ok h
  obtain ⟨w₂, h⟩ := of_ensure_ok h
  obtain ⟨y, w₃, hbody, h⟩ := of_bind_ok h
  obtain ⟨_, w₄, -, h⟩ := of_bind_ok h
  obtain rfl : y = x := Except.ok.inj (congrArg Prod.fst h)
  exact ⟨c, w₁, w₃, of_onFault_ok hbody⟩

/-- A run without a fault had a batch for each statement, and gives an outcome for each. -/
theorem length_of_executeUnits {r : Runner κ τ Conn Stmt} {units : List StatementUnit}
    {batches : List Batch} {outcomes : List Outcome} {w w' : World κ τ}
    (h : r.executeUnits units batches w = (.ok outcomes, w')) :
    batches.length = units.length ∧ outcomes.length = units.length := by
  unfold Runner.executeUnits at h
  split at h
  · cases h
  rename_i hlength
  have hlength := Decidable.not_not.1 hlength
  refine ⟨hlength, ?_⟩
  split at h
  · rename_i hnone
    obtain ⟨_, w₁, -, h⟩ := of_bind_ok h
    rw [← Except.ok.inj (congrArg Prod.fst h), hnone]
    rfl
  · obtain ⟨start, w₁, -, h⟩ := of_bind_ok h
    obtain ⟨ran, w₂, htransaction, h⟩ := of_bind_ok h
    obtain ⟨finish, w₃, -, h⟩ := of_bind_ok h
    obtain ⟨ms, w₄, -, h⟩ := of_bind_ok h
    obtain ⟨_, w₅, -, h⟩ := of_bind_ok h
    obtain rfl : ran = outcomes := Except.ok.inj (congrArg Prod.fst h)
    obtain ⟨c, u, u', hbody⟩ := body_of_transaction htransaction
    rw [length_runUnits hbody, List.length_zip, hlength, Nat.min_self]

end Backend

/-! ## Time -/

/-- **An action shows no new times** if the clock shows none after it that it would not have shown
before. -/
def Action.ShowsNoNewTimes {κ τ α : Type} (a : Action (World κ τ) α) : Prop :=
  ∀ w, (a w).2.times ⊆ w.times

namespace Runner

variable {κ τ Conn Stmt : Type} {r : Runner κ τ Conn Stmt} {units : List StatementUnit}
  {batches : List Batch} {w w' : World κ τ}

theorem showsNoNewTimes_executeUnits (hsees : r.backend.SeesOutside) (units : List StatementUnit)
    (batches : List Batch) : ShowsNoNewTimes (r.executeUnits units batches) := by
  intro w
  have hsay (level : LogLevel) (message : String) :
      Action.Simulates (Along fun u : World κ τ => u.times ⊆ w.times) (World.say level message)
        (World.say level message) := simulates_along.2 fun _ hu => hu
  have hclock : Action.Simulates (Along fun u : World κ τ => u.times ⊆ w.times) World.readClock
      World.readClock := simulates_along.2 fun u hu => List.Subset.trans u.times_tick_subset hu
  refine simulates_along.1 (simulates_executeUnits hsay hclock (fun items => ?_) units batches) w
    (List.Subset.refl _)
  refine simulates_along.2 fun u hu => ?_
  rw [World.times_congr ((hsees.transaction items).clock u)]
  exact hu

theorem showsNoNewTimes_allocateBatches (r : Runner κ τ Conn Stmt) (units : List StatementUnit)
    (parameters : List Value) : ShowsNoNewTimes (r.allocateBatches units parameters) := by
  intro w
  have hsay (level : LogLevel) (message : String) :
      Action.Simulates (Along fun u : World κ τ => u.times ⊆ w.times) (World.say level message)
        (World.say level message) := simulates_along.2 fun _ hu => hu
  exact simulates_along.1 (simulates_allocateBatches hsay rfl units parameters) w
    (List.Subset.refl _)

/-- A run comes to what its transaction comes to, if time can be told. -/
theorem yields_executeUnits_inTime (hsees : r.backend.SeesOutside)
    (hlength : batches.length = units.length) (hunits : units ≠ []) (htime : w.AlwaysHasTime)
    {made : List κ} {state : τ} {result : Except Fault (List Outcome)}
    (h : Yields (r.backend.transaction fun c => r.backend.runUnits c (units.zip batches)) w.tick
      made state result) :
    Yields (r.executeUnits units batches) w made state result := by
  cases result with
  | error e => exact r.yields_executeUnits_of hlength hunits h
  | ok outcomes =>
    have hrun : Yields _ w made state ((elapsedMilliseconds w.now _).map fun _ => outcomes) :=
      r.yields_executeUnits_of hlength hunits h
    have hnow := w.times_tick_subset w.tick.now_mem_times
    rw [← World.now_congr ((hsees.transaction (units.zip batches)).clock w.tick)] at hnow
    obtain ⟨ms, hms⟩ := htime _ w.now_mem_times _ hnow
    rw [hms] at hrun
    exact hrun

/-- **Runs see only what lies outside**, as far as time can be told. -/
theorem doesAlike_executeUnits (hsees : r.backend.SeesOutside) (hsame : w.outside = w'.outside)
    (htime : w.AlwaysHasTime) (htime' : w'.AlwaysHasTime) (batches : List Batch) :
    DoesAlike (r.executeUnits units batches) w w' := by
  by_cases hlength : batches.length = units.length
  · by_cases hunits : units = []
    · subst hunits
      obtain rfl := List.length_eq_zero_iff.1 hlength
      exact ⟨[], _, _, r.executeUnits_nil w, hsame ▸ r.executeUnits_nil w'⟩
    · have hticks : w.tick.outside = w'.tick.outside := hsame
      obtain ⟨made, state, result, h, h'⟩ := (hsees.transaction (units.zip batches)).alike hticks
      exact ⟨made, state, result, yields_executeUnits_inTime hsees hlength hunits htime h,
        yields_executeUnits_inTime hsees hlength hunits htime' h'⟩
  · exact ⟨[], _, _, r.executeUnits_of_length_ne hlength w,
      hsame ▸ r.executeUnits_of_length_ne hlength w'⟩

/-- The time since the start of a report, if time can be told. -/
theorem yields_elapsed (htime : w.AlwaysHasTime) {u : World κ τ} (hu : u.times ⊆ w.times) :
    ∃ ms, Yields (do
      let finish ← World.readClock
      Action.ofExcept (elapsedMilliseconds w.now finish)) u [] u.outside (.ok ms) := by
  obtain ⟨ms, hms⟩ := htime _ w.now_mem_times _ (hu u.now_mem_times)
  refine ⟨ms, (Yields.readClock u).bind fun v hv => ?_⟩
  rw [hms]
  exact hv ▸ Yields.ofExcept (.ok ms) v

/-- The report of a failure, once the time is known. -/
theorem yields_ofFailure (source : String) (units : List StatementUnit) (batches : List Batch)
    (f : Failure) (count : Int) {elapsed : Action (World κ τ) Int} {u : World κ τ} {ms : Int}
    (h : Yields elapsed u [] u.outside (.ok ms)) :
    Yields (do
      let ms ← elapsed
      World.say .debug s!"Run of {source} failed with {f.code}"
      return ScriptReport.ofFailure source units batches f count ms) u [] u.outside
      (.ok (.ofFailure source units batches f count ms)) := by
  refine h.bind fun v hv => Yields.say_bind fun v' hv' => ?_
  exact (hv'.trans hv) ▸ Yields.pure _ v'

/-- **A report is that of the result of its run**, from anywhere with the same outside. -/
theorem yields_report (hsees : r.backend.SeesOutside) (hsame : w.outside = w'.outside)
    (htime : w.AlwaysHasTime) (htime' : w'.AlwaysHasTime) (source : String)
    (units : List StatementUnit) (parameters : List Value)
    {allocate : Action (World κ τ) (List Batch)} {known : Except Fault (List Batch)}
    (hallocate : ∀ u, Yields allocate u [] u.outside known) (htimes : ShowsNoNewTimes allocate) :
    ∃ made state elapsed result,
      Yields (allocate >>= r.executeUnits units) w made state result ∧
      Yields (r.report source units parameters allocate) w' made state
        (ScriptReport.ofResult source units (known.toOption.getD []) parameters.length elapsed
          result) := by
  -- the clock is read once more at the end, whatever the result
  have hstart := w'.times_tick_subset
  have hdealt := (hallocate w'.tick).attempt
  have hdealtTimes := List.Subset.trans (htimes w'.tick) hstart
  cases known with
  | error e =>
    cases e with
    | outside kind message cause =>
      refine ⟨[], w.outside, 0, _, (hallocate w).bind_error, ?_⟩
      rw [hsame]
      exact (Yields.readClock w').bind_at (hdealt.bind_quiet (Yields.throw _ _))
    | failure f =>
      obtain ⟨ms, hms⟩ := yields_elapsed htime' hdealtTimes
      refine ⟨[], w.outside, ms, _, (hallocate w).bind_error, ?_⟩
      rw [hsame]
      exact (Yields.readClock w').bind_at
        (hdealt.bind_quiet (yields_ofFailure source units [] f _ hms))
  | ok batches =>
    obtain ⟨made, state, result, h, h'⟩ := doesAlike_executeUnits hsees
      (((hallocate w).outside.trans hsame).trans (hallocate w'.tick).outside.symm)
      (htime.mono (htimes w)) (htime'.mono hdealtTimes) batches
    have hlast := List.Subset.trans
      (showsNoNewTimes_executeUnits hsees units batches (allocate w'.tick).2) hdealtTimes
    have hrun : Yields (allocate >>= r.executeUnits units) w made state result :=
      (hallocate w).bind_at h
    cases result with
    | ok outcomes =>
      obtain ⟨ms, hms⟩ := yields_elapsed htime' hlast
      refine ⟨made, state, ms, _, hrun, ?_⟩
      exact (Yields.readClock w').bind_at
        (hdealt.bind_at (h'.attempt.bind_quiet (hms.bind_quiet (Yields.pure _ _))))
    | error e =>
      cases e with
      | outside kind message cause =>
        refine ⟨made, state, 0, _, hrun, ?_⟩
        exact (Yields.readClock w').bind_at
          (hdealt.bind_at (h'.attempt.bind_quiet (Yields.throw _ _)))
      | failure f =>
        obtain ⟨ms, hms⟩ := yields_elapsed htime' hlast
        refine ⟨made, state, ms, _, hrun, ?_⟩
        exact (Yields.readClock w').bind_at (hdealt.bind_at
          (h'.attempt.bind_quiet (yields_ofFailure source units batches f _ hms)))

theorem batches_of_allocate {parameters : List Value} {strict : Bool}
    {dealt : List Batch × Option String} (h : allocate units parameters strict = .ok dealt) :
    dealt.1 = (Allocation.of units parameters).batches := by
  unfold allocate at h
  extract_lets a at h
  split at h
  · rw [← Except.ok.inj h]
  · split at h
    · cases h
    · rw [← Except.ok.inj h]

/-- A run and its report agree, if the batches are the ones that are dealt out. -/
theorem agrees_of_allocate (hsees : r.backend.SeesOutside) (hsame : w.outside = w'.outside)
    (htime : w.AlwaysHasTime) (htime' : w'.AlwaysHasTime) (source : String)
    (units : List StatementUnit) (parameters : List Value)
    {allocate : Action (World κ τ) (List Batch)} {known : Except Fault (List Batch)}
    (hallocate : ∀ u, Yields allocate u [] u.outside known) (htimes : ShowsNoNewTimes allocate)
    (hbatches : ∀ dealt, known = .ok dealt → dealt = batches) :
    ∃ made state result told,
      Yields (allocate >>= r.executeUnits units) w made state result ∧
      Yields (r.report source units parameters allocate) w' made state told ∧
      Agrees units batches result told := by
  obtain ⟨made, state, elapsed, result, hrun, hreport⟩ := yields_report hsees hsame htime htime'
    source units parameters hallocate htimes
  refine ⟨made, state, result, _, hrun, hreport, agrees_ofResult fun outcomes houtcomes => ?_⟩
  subst houtcomes
  obtain ⟨dealt, u, hdealt, hexecute⟩ := of_bind_ok hrun.eq
  obtain rfl : known = .ok dealt := by
    rw [← (hallocate w).result, hdealt]
  obtain rfl := hbatches dealt rfl
  exact ⟨rfl, Backend.length_of_executeUnits hexecute⟩

/-- A script and its report agree. -/
theorem agrees_reportScript (hsees : r.backend.SeesOutside) (hsame : w.outside = w'.outside)
    (htime : w.AlwaysHasTime) (htime' : w'.AlwaysHasTime) (parameters : List Value)
    (source script : String) :
    ∃ made state result told,
      Yields (r.runScript script parameters) w made state result ∧
      Yields (r.reportScript source script parameters) w' made state told ∧
      Agrees (parseScript script) (Allocation.of (parseScript script) parameters).batches
        result told := by
  refine agrees_of_allocate hsees hsame htime htime' source _ parameters
    (r.yields_allocateBatches (parseScript script) parameters)
    (r.showsNoNewTimes_allocateBatches (parseScript script) parameters) fun batches hbatches => ?_
  cases hdealt : allocate (parseScript script) parameters r.strictParameters with
  | error f =>
    rw [hdealt] at hbatches
    cases hbatches
  | ok dealt =>
    rw [hdealt] at hbatches
    rw [← Except.ok.inj hbatches]
    exact batches_of_allocate hdealt

/-- A single statement and its report agree; a text without one is reported as a script of none. -/
theorem agrees_reportStatement (hsees : r.backend.SeesOutside) (hsame : w.outside = w'.outside)
    (htime : w.AlwaysHasTime) (htime' : w'.AlwaysHasTime) (parameters : List Value)
    (text : String) :
    ∃ made state result told,
      Yields (r.runStatement text parameters) w made state result ∧
      Yields (r.reportStatement text parameters) w' made state told ∧
      (split text = [] → result = .ok none ∧ Agrees [] [] (.ok []) told) ∧
      (split text ≠ [] →
        Agrees [parseStatement text] [parameters] (result.map fun outcome => [outcome]) told) := by
  have hquiet : ∀ batches : List Batch,
      ShowsNoNewTimes (pure batches : Action (World κ τ) (List Batch)) :=
    fun _ _ => List.Subset.refl _
  by_cases htext : split text = []
  · obtain ⟨made, state, result, told, hrun, hreport, hagrees⟩ := agrees_of_allocate hsees hsame
      htime htime' statementSource [] parameters (Yields.pure []) (hquiet [])
      fun dealt hdealt => (Except.ok.inj hdealt).symm
    obtain ⟨rfl, rfl, rfl⟩ := (r.executeUnits_nil w).unique hrun
    refine ⟨[], w.outside, .ok none, told, ?_, ?_, fun _ => ⟨rfl, hagrees⟩,
      fun hne => absurd htext hne⟩
    · unfold runStatement
      rw [if_pos htext]
      exact Yields.say_bind fun u hu => hu ▸ Yields.pure none u
    · unfold reportStatement
      rw [if_pos htext]
      exact hreport
  · obtain ⟨made, state, result, told, hrun, hreport, hagrees⟩ := agrees_of_allocate hsees hsame
      htime htime' statementSource [parseStatement text] parameters (Yields.pure [parameters])
      (hquiet [parameters]) fun dealt hdealt => (Except.ok.inj hdealt).symm
    have hrun : Yields (r.executeUnits [parseStatement text] [parameters]) w made state result :=
      hrun
    -- a run of one statement has one outcome, so nothing is lost by taking the first
    have hfirst : (result.map (·.headD none)).map (fun outcome => [outcome]) = result := by
      cases result with
      | error e => rfl
      | ok outcomes =>
        have hone := (Backend.length_of_executeUnits hrun.eq).2
        obtain ⟨outcome, rfl⟩ := List.length_eq_one_iff.1 hone
        rfl
    refine ⟨made, state, result.map (·.headD none), told, ?_, ?_, fun h => absurd h htext,
      fun _ => ?_⟩
    · unfold runStatement
      rw [if_neg htext]
      exact hrun.bind_map
    · unfold reportStatement
      rw [if_neg htext]
      exact hreport
    · rw [hfirst]
      exact hagrees

/-- **Runs and their reports agree.** Run from the same outside, a script and its report make the
same requests and leave the same outside, and the report tells what the run gives. So it is with a
single statement; a text without one is reported as a script of none. -/
theorem agrees_report (hsees : r.backend.SeesOutside) (hsame : w.outside = w'.outside)
    (htime : w.AlwaysHasTime) (htime' : w'.AlwaysHasTime) (parameters : List Value) :
    (∀ source script,
      let units := parseScript script
      ∃ made state result told,
        Yields (r.runScript script parameters) w made state result ∧
        Yields (r.reportScript source script parameters) w' made state told ∧
        Agrees units (Allocation.of units parameters).batches result told) ∧
    ∀ text, ∃ made state result told,
      Yields (r.runStatement text parameters) w made state result ∧
      Yields (r.reportStatement text parameters) w' made state told ∧
      (split text = [] → result = .ok none ∧ Agrees [] [] (.ok []) told) ∧
      (split text ≠ [] →
        Agrees [parseStatement text] [parameters] (result.map fun outcome => [outcome]) told) := by
  constructor
  · intro source script
    exact agrees_reportScript hsees hsame htime htime' parameters source script
  · intro text
    exact agrees_reportStatement hsees hsame htime htime' parameters text

end Runner

namespace Sqlite

/-- A pool of one connection to a driver that raises nothing. -/
def singleSession : Session Unit where
  pool := singlePool 30
  driver := ()

/-- A runner on a pool over a driver that raises nothing. -/
def silentRunner : Runner Call (Session Unit) Lease Prepared where
  backend := backend Driver.silent
  strictParameters := true

theorem agrees_report_silent :
    let w : World Call (Session Unit) := { outside := singleSession }
    let w' : World Call (Session Unit) := { outside := singleSession, printed := "Running" }
    silentRunner.backend.SeesOutside ∧ w.outside = w'.outside ∧ w.AlwaysHasTime ∧
      w'.AlwaysHasTime ∧
      ∃ made state result told,
        Yields (silentRunner.runScript "SELECT ?" [.int 1]) w made state result ∧
        Yields (silentRunner.reportScript "a.sql" "SELECT ?" [.int 1]) w' made state told ∧
        Agrees (parseScript "SELECT ?")
          (Allocation.of (parseScript "SELECT ?") [.int 1]).batches result told := by
  intro w w'
  have hsees : silentRunner.backend.SeesOutside := seesOutside_backend Driver.silent
  have hzero : ∃ ms, elapsedMilliseconds 0 0 = .ok ms := by
    have htime : w.HasTime := by decide +kernel
    exact htime
  have htime : ∀ u : World Call (Session Unit), u.clock = [] → u.AlwaysHasTime := by
    intro u hu start hstart finish hfinish
    have htimes : u.times = [0] := by
      rw [World.times, hu]
      rfl
    rw [htimes] at hstart hfinish
    rw [List.mem_singleton.1 hstart, List.mem_singleton.1 hfinish]
    exact hzero
  have hsame : w.outside = w'.outside := rfl
  exact ⟨hsees, hsame, htime w rfl, htime w' rfl,
    (Runner.agrees_report hsees hsame (htime w rfl) (htime w' rfl) [.int 1]).1 "a.sql"
      "SELECT ?"⟩

end Sqlite

end SqlScript
