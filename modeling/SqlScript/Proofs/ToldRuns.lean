import SqlScript.Proofs.ExitCodes
import SqlScript.Proofs.ReportedFaults

/-!
# Runs that are told

A command for programs gives a report once it is provided for, unless it is interrupted: its run
raises failures only, and these are part of the report. The report has a JSON form, the pool is
closed without a fault, and nothing is printed before the report is known.

* `Runner.simulates_report`: reports keep what runs keep.
* `Sqlite.IsTold`: runs that give such a report.
* `Sqlite.isTold_reportScript`, `Sqlite.isTold_reportStatement`: scripts and single statements do.
* `CommandLine.told_of_body`: **a command that is provided for gives a report**, unless it is
  interrupted.
-/

namespace SqlScript

open SqlScript.Action

/-! ## Reports -/

/-- Reports simulate each other if the dealing out of parameters and the runs do. -/
theorem Runner.simulates_report {κ τ Conn Stmt : Type} {r : Runner κ τ Conn Stmt}
    {S : World κ τ → World κ τ → Prop}
    (hsay : ∀ level message, Action.Simulates S (World.say level message) (World.say level message))
    (hclock : Action.Simulates S World.readClock World.readClock)
    {allocate : Action (World κ τ) (List Batch)} (hallocate : Action.Simulates S allocate allocate)
    (hexecute : ∀ units batches,
      Action.Simulates S (r.executeUnits units batches) (r.executeUnits units batches))
    (source : String) (units : List StatementUnit) (parameters : List Value) :
    Action.Simulates S (r.report source units parameters allocate)
      (r.report source units parameters allocate) := by
  unfold Runner.report
  refine hclock.bind fun start => ?_
  extract_lets elapsed failed
  have helapsed : Action.Simulates S elapsed elapsed :=
    hclock.bind fun finish => .ofExcept _
  have hfailed : ∀ batches e, Action.Simulates S (failed batches e) (failed batches e) := by
    intro batches e
    cases e with
    | outside kind message cause => exact .throw _
    | failure f => exact helapsed.bind fun ms => (hsay _ _).bind fun _ => .pure _
  refine hallocate.attempt.bind fun dealt => ?_
  cases dealt with
  | error e => exact hfailed _ e
  | ok batches =>
    refine (hexecute units batches).attempt.bind fun ran => ?_
    cases ran with
    | error e => exact hfailed _ e
    | ok outcomes => exact helapsed.bind fun ms => .pure _

namespace Sqlite

variable {σ : Type} {d : Driver σ} {w : World Call (Session σ)} {loader : Loader} {strict : Bool}

/-! ## What a run leaves of the clock and of what is printed -/

/-- Requests print nothing. -/
theorem simulates_printed (d : Driver σ) (text : String) :
    Driver.Simulates (Along fun w : World Call (Session σ) => w.printed = text) (fun _ => True)
      d d where
  ask _ _ := simulates_along.2 fun _ h => h
  say _ _ := simulates_along.2 fun _ h => h
  pool := simulates_along.2 fun _ h => h
  updatePool _ := simulates_along.2 fun _ h => h
  nextConnection := simulates_along.2 fun _ h => h
  makeParents _ := simulates_along.2 fun _ h => h
  isInTransaction _ := simulates_along.2 fun _ h => h

/-- **A world after nothing was printed**, and the clock shows no new times. -/
structure IsAfter (w u : World Call (Session σ)) : Prop where
  printed : u.printed = w.printed
  times : u.times ⊆ w.times

/-- A transaction prints nothing, and does not look at the clock. -/
theorem isAfter_transaction (items : List (StatementUnit × Batch)) :
    Action.Simulates (Along (IsAfter w))
      ((backend d).transaction fun l => (backend d).runUnits l items)
      ((backend d).transaction fun l => (backend d).runUnits l items) := by
  refine simulates_along.2 fun u hu => ⟨?_, ?_⟩
  · have hcursor : ∀ cursor, Action.Simulates
        (Along fun v : World Call (Session σ) => v.printed = w.printed)
        (World.closeCursor Call.closeCursor cursor) (World.closeCursor Call.closeCursor cursor) :=
      fun cursor => simulates_along.2 fun v hv => by
        unfold World.closeCursor
        cases cursor.closeFault <;> exact hv
    exact simulates_along.1 (Backend.simulates_transaction
      ((simulates_printed d w.printed).backend hcursor) items) u hu.printed
  · rw [World.times_congr (((seesOutside_backend d).transaction items).clock u)]
    exact hu.times

/-- **A report prints nothing.** -/
theorem isAfter_report {allocate : PoolAction σ (List Batch)}
    (hallocate : Action.Simulates (Along (IsAfter w)) allocate allocate) (source : String)
    (units : List StatementUnit) (parameters : List Value) :
    IsAfter w ((runner d loader strict).report source units parameters allocate w).2 := by
  have hsay : ∀ level message, Action.Simulates (Along (IsAfter w))
      (World.say level message : PoolAction σ Unit) (World.say level message) :=
    fun _ _ => simulates_along.2 fun _ hu => ⟨hu.printed, hu.times⟩
  have hclock : Action.Simulates (Along (IsAfter w)) (World.readClock : PoolAction σ Float)
      World.readClock :=
    simulates_along.2 fun u hu => ⟨hu.printed, List.Subset.trans u.times_tick_subset hu.times⟩
  exact simulates_along.1 (Runner.simulates_report hsay hclock hallocate
    (Runner.simulates_executeUnits hsay hclock isAfter_transaction) source units parameters) w
    ⟨rfl, List.Subset.refl _⟩

/-! ## Runs that are told -/

/-- **A run that is told**: it gives a report that has a JSON form, unless it is interrupted, and
the pool can be closed after it without a fault. -/
structure IsTold (d : Driver σ) (w : World Call (Session σ))
    (outcome : Except Fault ScriptReport × World Call (Session σ)) : Prop where
  report : ∀ r, outcome.1 = .ok r → r.IsSerializable
  interrupted : ∀ e, outcome.1 = .error e → e.isOrdinary = false
  close : (Pool.close d outcome.2).1 = .ok ()
  after : IsAfter w outcome.2

/-- To close a pool is up to what lies outside. -/
theorem seesOutside_close (d : Driver σ) : SeesOutside (Pool.close d) := fun w₀ w₀' =>
  (simulates_alike d w₀ w₀').close fun _ => trivial

theorem close_congr {u v : World Call (Session σ)} (h : u.outside = v.outside) :
    (Pool.close d u).1 = (Pool.close d v).1 := by
  obtain ⟨made, state, r, hu, hv⟩ := (seesOutside_close d).alike h
  exact hu.result.trans hv.result.symm

/-- To close a pool prints nothing, and does not look at the clock. -/
theorem IsAfter.close {u : World Call (Session σ)} (h : IsAfter w u) :
    IsAfter w (Pool.close d u).2 where
  printed := simulates_along.1 ((simulates_printed d w.printed).close fun _ => trivial) u h.printed
  times := by
    rw [World.times_congr ((seesOutside_close d).clock u)]
    exact h.times

variable (loader strict) in
/-- A run of statements comes to what their transaction comes to. -/
theorem yields_executeUnits_transact (htime : w.AlwaysHasTime) {units : List StatementUnit}
    {batches : List Batch} (hlength : batches.length = units.length) (hunits : units ≠ []) :
    ∃ made, Yields ((runner d loader strict).executeUnits units batches) w made
      (w.outside.transact d (units.zip batches)).2.outside
      (w.outside.transact d (units.zip batches)).1 := by
  let start : World Call (Session σ) := { outside := w.outside }
  have hsame : start.outside = w.tick.outside := rfl
  obtain ⟨made, state, r, hfirst, hhere⟩ :=
    ((seesOutside_backend d).transaction (units.zip batches)).alike hsame
  have hresult : (w.outside.transact d (units.zip batches)).1 = r := hfirst.result
  have hstate : (w.outside.transact d (units.zip batches)).2.outside = state := hfirst.outside
  rw [hresult, hstate]
  exact ⟨made, Runner.yields_executeUnits_inTime (seesOutside_backend d) hlength hunits htime hhere⟩

/-- **Statements whose parameters are dealt out are told**, whatever becomes of them. -/
theorem isTold_report (hd : d.Delivers) (htime : w.AlwaysHasTime)
    (hidle : w.outside.pool.idle = []) {units : List StatementUnit}
    {allocate : PoolAction σ (List Batch)} {dealing : Except Failure (List Batch)}
    (hdealing : ∀ u, Yields allocate u [] u.outside (dealing.mapError .failure))
    (hquiet : ∀ u, (allocate u).2.printed = u.printed ∧ (allocate u).2.clock = u.clock)
    (hlength : ∀ batches, dealing = .ok batches → batches.length = units.length)
    (hvalues : ∀ batches, dealing = .ok batches → ∀ batch ∈ batches, ∀ v ∈ batch, v.HasJson)
    (hclean : ∀ batches, dealing = .ok batches → units ≠ [] →
      d.CleansUp w.outside (units.zip batches)) (source : String) (parameters : List Value) :
    IsTold d w ((runner d loader strict).report source units parameters allocate w) := by
  have htimes : ∀ u, (allocate u).2.times = u.times := fun u => World.times_congr (hquiet u).2
  have hafter : IsAfter w ((runner d loader strict).report source units parameters allocate w).2 :=
    isAfter_report (simulates_along.2 fun u hu => ⟨(hquiet u).1.trans hu.printed,
      by rw [htimes]; exact hu.times⟩) source units parameters
  obtain ⟨made, state, elapsed, result, hrun, hreport⟩ := Runner.yields_report
    (r := runner d loader strict) (seesOutside_backend d) (Eq.refl w.outside) htime htime source
    units parameters hdealing fun u => by rw [htimes]; exact List.Subset.refl _
  have hclosed : ∀ u : World Call (Session σ), u.outside = w.outside →
      (Pool.close d u).1 = .ok () := fun u hu => by
    rw [CommandLine.close_of_idle_eq_nil (by rw [hu]; exact hidle)]
  rw [hreport.eq]
  cases dealing with
  | error f =>
    have hnone : ∀ batch ∈ ([] : List Batch), ∀ v ∈ batch, v.HasJson := nofun
    obtain ⟨-, hstate, rfl⟩ := hrun.unique (hdealing w).bind_error
    refine ⟨fun r hr => ?_, nofun, hclosed _ (hreport.outside.trans hstate.symm), hafter⟩
    rw [← Except.ok.inj hr]
    exact ScriptReport.isSerializable_ofFailure hnone source f _ _
  | ok batches =>
    have hvalues := hvalues batches rfl
    by_cases hunits : units = []
    · subst hunits
      obtain rfl := List.length_eq_zero_iff.1 (hlength batches rfl)
      obtain ⟨-, hstate, rfl⟩ := hrun.unique
        ((hdealing w).bind_at ((runner d loader strict).executeUnits_nil _))
      rw [(hdealing w).outside] at hstate
      refine ⟨fun r hr => ?_, nofun, hclosed _ (hreport.outside.trans hstate.symm), hafter⟩
      rw [← Except.ok.inj hr]
      exact ScriptReport.isSerializable_ofOutcomes hvalues (by simp) source _ _
    · have hcleanup := hclean batches rfl hunits
      obtain ⟨hoks, herrors⟩ := gives_transact hd hcleanup
      have hthere : (allocate w).2.outside = w.outside := (hdealing w).outside
      obtain ⟨made', hexecuted⟩ := yields_executeUnits_transact (d := d) loader strict
        (w := (allocate w).2) (htime.mono (by rw [htimes]; exact fun _ h => h))
        (hlength batches rfl) hunits
      rw [hthere] at hexecuted
      obtain ⟨-, hstate, hresult⟩ := hrun.unique ((hdealing w).bind_at hexecuted)
      have hclose : (Pool.close d
          ((runner d loader strict).report source units parameters allocate w).2).1 = .ok () := by
        rw [close_congr (hreport.outside.trans hstate.symm)]
        exact hcleanup.close
      rw [hresult] at hoks herrors
      -- the report is that of the result: outcomes, a failure, or what goes on as it is
      rcases result with (⟨kind, message, cause⟩ | f) | outcomes
      · refine ⟨nofun, fun e he => ?_, hclose, hafter⟩
        rw [← Except.error.inj he]
        by_contra hordinary
        obtain ⟨f, hf⟩ := herrors _ rfl ((Bool.not_eq_false _).mp hordinary)
        cases hf
      · refine ⟨fun r hr => ?_, nofun, hclose, hafter⟩
        rw [← Except.ok.inj hr]
        exact ScriptReport.isSerializable_ofFailure hvalues source f _ _
      · refine ⟨fun r hr => ?_, nofun, hclose, hafter⟩
        rw [← Except.ok.inj hr]
        exact ScriptReport.isSerializable_ofOutcomes hvalues
          (fun snapshot hs => hoks outcomes rfl _ hs snapshot rfl) source _ _

/-- The values of parameters are those of the batches that they are dealt out to. -/
theorem mem_of_mem_batches {units : List StatementUnit} {parameters : List Value} {batch : Batch}
    {v : Value} (hbatch : batch ∈ (Allocation.of units parameters).batches) (hv : v ∈ batch) :
    v ∈ parameters := by
  rw [← flatten_deal (units.map (·.placeholderCount)) parameters]
  exact List.mem_append_left _ (List.mem_flatten.2 ⟨batch, hbatch, hv⟩)

/-- Dealing out parameters prints nothing, and does not look at the clock. -/
theorem allocateBatches_quiet {κ τ Conn Stmt : Type} (r : Runner κ τ Conn Stmt)
    (units : List StatementUnit) (parameters : List Value) (u : World κ τ) :
    (r.allocateBatches units parameters u).2.printed = u.printed ∧
      (r.allocateBatches units parameters u).2.clock = u.clock := by
  unfold Runner.allocateBatches
  cases allocate units parameters r.strictParameters with
  | error f => exact ⟨rfl, rfl⟩
  | ok dealt =>
    obtain ⟨batches, warning⟩ := dealt
    cases warning <;> exact ⟨rfl, rfl⟩

variable {parameters : List Value}

/-- **A script is told**, if its transaction is cleaned up where there is one. -/
theorem isTold_reportScript (hd : d.Delivers) (htime : w.AlwaysHasTime)
    (hidle : w.outside.pool.idle = []) (hparameters : ∀ v ∈ parameters, v.HasJson)
    (source script : String)
    (hclean : ¬ (strict = true ∧ (placeholderCounts (parseScript script)).sum < parameters.length) →
      parseScript script ≠ [] → d.CleansUp w.outside (dealt (parseScript script) parameters)) :
    IsTold d w ((runner d loader strict).reportScript source script parameters w) := by
  have hcases := allocate_cases (parseScript script) parameters strict
  -- batches hold parameters only, and where there are batches the parameters were not refused
  have hvalues : ∀ batches, (allocate (parseScript script) parameters strict).map (·.1) =
      .ok batches → ∀ batch ∈ batches, ∀ v ∈ batch, v.HasJson := by
    intro batches hbatches batch hbatch v hv
    cases hallocate : allocate (parseScript script) parameters strict with
    | error f =>
      rw [hallocate] at hbatches
      cases hbatches
    | ok dealt =>
      rw [hallocate] at hbatches
      obtain rfl : dealt.1 = batches := Except.ok.inj hbatches
      rw [Runner.batches_of_allocate hallocate] at hbatch
      exact hparameters v (mem_of_mem_batches hbatch hv)
  have hitems : ∀ batches, (allocate (parseScript script) parameters strict).map (·.1) =
      .ok batches → parseScript script ≠ [] →
      d.CleansUp w.outside ((parseScript script).zip batches) := by
    intro batches hbatches hunits
    split at hcases
    · obtain ⟨left, taken, hallocate⟩ := hcases
      rw [hallocate] at hbatches
      cases hbatches
    · rename_i hfine
      obtain ⟨batches', hallocate, hitems⟩ := hcases
      rw [hallocate] at hbatches
      rw [← Except.ok.inj hbatches, hitems]
      exact hclean hfine hunits
  exact isTold_report hd htime hidle
    ((runner d loader strict).yields_allocateBatches (parseScript script) parameters)
    (allocateBatches_quiet (runner d loader strict) (parseScript script) parameters)
    (fun _ => Responder.length_of_allocate) hvalues hitems source parameters

/-- **A single statement is told**, if its transaction is cleaned up where there is one. -/
theorem isTold_reportStatement (hd : d.Delivers) (htime : w.AlwaysHasTime)
    (hidle : w.outside.pool.idle = []) (hparameters : ∀ v ∈ parameters, v.HasJson) (text : String)
    (hclean : split text ≠ [] →
      d.CleansUp w.outside (Responder.statementItems text parameters)) :
    IsTold d w ((runner d loader strict).reportStatement text parameters w) := by
  unfold Runner.reportStatement
  unfold Responder.statementItems at hclean
  split
  · have hdealing : ∀ u : World Call (Session σ), Yields (pure [] : PoolAction σ (List Batch)) u []
        u.outside ((.ok [] : Except Failure (List Batch)).mapError .failure) := Yields.pure []
    refine isTold_report hd htime hidle hdealing (fun _ => ⟨rfl, rfl⟩)
      (fun batches hbatches => ?_) (fun batches hbatches => ?_) (fun _ _ h => absurd rfl h) _ _
    · rw [← Except.ok.inj hbatches]
      rfl
    · rw [← Except.ok.inj hbatches]
      nofun
  · rename_i htext
    rw [if_neg htext] at hclean
    have hdealing : ∀ u : World Call (Session σ), Yields
        (pure [parameters] : PoolAction σ (List Batch)) u [] u.outside
        ((.ok [parameters] : Except Failure (List Batch)).mapError .failure) :=
      Yields.pure [parameters]
    refine isTold_report hd htime hidle hdealing (fun _ => ⟨rfl, rfl⟩)
      (fun batches hbatches => ?_) (fun batches hbatches => ?_)
      (fun batches hbatches _ => ?_) _ _
    · rw [← Except.ok.inj hbatches]
      rfl
    · rw [← Except.ok.inj hbatches]
      intro batch hbatch v hv
      exact hparameters v (List.mem_singleton.1 hbatch ▸ hv)
    · rw [← Except.ok.inj hbatches]
      exact hclean htext

end Sqlite

namespace CommandLine

open SqlScript.Sqlite (Driver Call PoolAction Lease Prepared Pool IsTold IsAfter)

variable {σ : Type} {d : Driver σ} {task : Task} {w : World Call (Sqlite.Session σ)}
  {config : Config} {surroundings : Surroundings} {console : Console}

/-! ## Commands for programs -/

/-- **A command for programs is told**, once it is provided for. -/
theorem isTold_runWith (hd : d.Delivers) (hjson : task.json = true) (htime : w.AlwaysHasTime)
    (hidle : w.outside.pool.idle = []) {p : Session.Provisions} {loader : Loader} {strict : Bool}
    (hparameters : ∀ v ∈ p.parameters, v.HasJson)
    (hclean : ¬ p.IsRefused task strict → split p.text ≠ [] → d.CleansUp w.outside (p.items task))
    (hcommand : task.command ≠ .split) :
    IsTold d w (Session.runWith console task p (Sqlite.runner d loader strict) w) := by
  have hshown : ∀ report : PoolAction σ ScriptReport,
      (report >>= Runner.present console (!task.json)) = report := by
    intro report
    rw [hjson]
    exact bind_pure report
  unfold Session.Provisions.IsRefused Session.Provisions.items at hclean
  unfold Session.runWith
  cases hc : task.command with
  | split => exact absurd hc hcommand
  | exec =>
    rw [hc] at hclean
    rw [show (Sqlite.runner d loader strict).presentStatement console p.text p.parameters
      (!task.json) = (Sqlite.runner d loader strict).reportStatement p.text p.parameters
      from hshown _]
    exact Sqlite.isTold_reportStatement hd htime hidle hparameters p.text
      (hclean fun hrefused => (nomatch hrefused.1))
  | run =>
    rw [hc] at hclean
    rw [show (Sqlite.runner d loader strict).presentScript console
      (Session.sourceName task.argument) p.text p.parameters (!task.json) =
        (Sqlite.runner d loader strict).reportScript (Session.sourceName task.argument) p.text
          p.parameters from hshown _]
    refine Sqlite.isTold_reportScript hd htime hidle hparameters _ p.text fun hfine hunits =>
      hclean (fun hrefused => hfine hrefused.2) fun htext => hunits ?_
    unfold parseScript
    rw [htext]
    rfl

/-- The parameters that a command is provided with have a JSON form. -/
theorem hasJson_of_provide {s : Session Call (Sqlite.Session σ) Lease Prepared}
    {p : Session.Provisions} (h : s.provide task = .ok p) : ∀ v ∈ p.parameters, v.HasJson := by
  intro v hv
  obtain ⟨raw, -, hraw⟩ := exists_of_mem_mapM (of_provide_ok h).2.2 hv
  exact Value.hasJson_ofArgument hraw

/-- **A command that is provided for gives a report**, unless it is interrupted, and prints
nothing before that. -/
theorem told_of_body (hd : d.Delivers) (hjson : task.json = true) (htime : w.AlwaysHasTime)
    (hcommand : task.command ≠ .split) {p : Session.Provisions}
    (hprovide : (sqliteSession d config surroundings console).provide task = .ok p)
    (hclean : ¬ p.IsRefused task config.strictParameters → split p.text ≠ [] →
      d.CleansUp { w.outside with pool := p.pool } (p.items task)) :
    ∃ r u, (sqliteSession d config surroundings console).body task w = (r, u) ∧ IsAfter w u ∧
      (∀ report, r = .ok report → report.IsSerializable) ∧
      ∀ e, r = .error e → e.isOrdinary = false := by
  obtain ⟨log, pool, hbody⟩ := body_apply (sqliteSession d config surroundings console) rfl task w
  rw [hprovide] at hbody
  let start : World Call (Sqlite.Session σ) :=
    { w with log, outside := { w.outside with pool := p.pool } }
  have htold : IsTold d start (Session.runWith console task p
      (Sqlite.runner d (sqliteSession d config surroundings console).loader config.strictParameters)
      start) := isTold_runWith (w := start) hd hjson
    (htime.mono (List.Subset.refl _)) (of_newPool (of_provide_ok hprovide).2.1).1
    (hasJson_of_provide hprovide) hclean hcommand
  cases hrun : Session.runWith console task p
      (Sqlite.runner d (sqliteSession d config surroundings console).loader config.strictParameters)
      start with
  | mk r u =>
    rw [hrun] at htold
    have hafter : IsAfter w u := ⟨htold.after.printed, htold.after.times⟩
    refine ⟨r, (Pool.close d u).2, hbody.trans ?_, hafter.close, htold.report, htold.interrupted⟩
    exact ensure_of_ok hrun (Prod.ext htold.close rfl)

end CommandLine

end SqlScript
