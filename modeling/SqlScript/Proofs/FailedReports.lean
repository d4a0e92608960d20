import SqlScript.Proofs.Statuses

/-!
# Reports of failed runs

A script or a single statement is run with a report. If the run fails, the report is made from the
failure: the statements before the one to blame ran, and those after it were never prepared. That is
what happened, unless the rollback failed too and what it was for blames no statement.

* `failure_of_report`: where the failure in a report comes from.
* `Responder.tellsTruth_iff`: **the report of a failed run tells the truth unless a failed rollback
  blames nobody**, and not then.
-/

namespace SqlScript

open SqlScript.Action
open SqlScript.Runner (executeUnits_nil)

variable {κ τ Conn Stmt : Type}

/-- A report of a failed run is made from its failure, which came from dealing out the parameters or
from running the statements. -/
theorem failure_of_report {r : Runner κ τ Conn Stmt} {source : String} {units : List StatementUnit}
    {parameters : List Value} {allocate : Action (World κ τ) (List Batch)} {w w' : World κ τ}
    {report : ScriptReport} {f : Failure}
    (h : r.report source units parameters allocate w = (.ok report, w'))
    (hf : report.error = some f) :
    ∃ batches count elapsed w₂, report = .ofFailure source units batches f count elapsed ∧
      w'.trace = w₂.trace ∧
      ((batches = [] ∧ allocate w.tick = (.error (.failure f), w₂)) ∨
        ∃ w₁, allocate w.tick = (.ok batches, w₁) ∧
          r.executeUnits units batches w₁ = (.error (.failure f), w₂)) := by
  unfold Runner.report at h
  obtain ⟨start, w₀, hstart, h⟩ := of_bind_ok h
  obtain rfl : w.tick = w₀ := congrArg Prod.snd hstart
  extract_lets elapsed failed at h
  -- neither the clock nor the log leaves a trace
  have helapsed : ∀ {u u' : World κ τ} {ms : Int}, elapsed u = (.ok ms, u') →
      u'.trace = u.trace := by
    intro u u' ms hms
    obtain ⟨finish, u₁, hfinish, hms⟩ := of_bind_ok hms
    obtain rfl : u.tick = u₁ := congrArg Prod.snd hfinish
    obtain rfl : u.tick = u' := congrArg Prod.snd hms
    rfl
  have hfailed : ∀ {batches : List Batch} {e : Fault} {u : World κ τ},
      failed batches e u = (.ok report, w') → e = .failure f ∧ w'.trace = u.trace ∧
        ∃ count elapsed, report = .ofFailure source units batches f count elapsed := by
    intro batches e u hu
    cases e with
    | outside kind message cause => cases congrArg Prod.fst hu
    | failure g =>
      obtain ⟨ms, u₁, hms, hu⟩ := of_bind_ok hu
      obtain ⟨_, u₂, hsay, hu⟩ := of_bind_ok hu
      have hreport := Except.ok.inj (congrArg Prod.fst hu)
      obtain rfl : g = f := by
        rw [← hreport] at hf
        exact Option.some.inj hf
      refine ⟨rfl, ?_, _, ms, hreport.symm⟩
      obtain rfl : u₂ = w' := congrArg Prod.snd hu
      have htrace : u₂.trace = u₁.trace := (congrArg (fun x => x.2.trace) hsay).symm
      rw [htrace, helapsed hms]
  obtain ⟨dealt, w₁, hdealt, h⟩ := of_bind_ok h
  have hallocate := of_attempt_ok hdealt
  cases dealt with
  | error e =>
    obtain ⟨rfl, htrace, count, ms, hreport⟩ := hfailed h
    exact ⟨[], count, ms, w₁, hreport, htrace, .inl ⟨rfl, hallocate⟩⟩
  | ok batches =>
    obtain ⟨ran, w₂, hran, h⟩ := of_bind_ok h
    have hexecute := of_attempt_ok hran
    cases ran with
    | error e =>
      obtain ⟨rfl, htrace, count, ms, hreport⟩ := hfailed h
      exact ⟨batches, count, ms, w₂, hreport, htrace, .inr ⟨w₁, hallocate, hexecute⟩⟩
    | ok outcomes =>
      obtain ⟨ms, u, -, hu⟩ := of_bind_ok h
      rw [← Except.ok.inj (congrArg Prod.fst hu)] at hf
      cases hf

namespace Responder

variable {σ : Type} {d : Responder σ}

/-! ## Runs that end in a report -/

/-- The clock does not fail with a failure of the runner. -/
theorem elapsedMilliseconds_ne_failure (start finish : Float) (f : Failure) :
    elapsedMilliseconds start finish ≠ .error (.failure f) := by
  unfold elapsedMilliseconds
  simp only
  split <;> simp [Fault.of]

/-- A failure of a run is one of its session. -/
theorem result_session_of_executeUnits {loader : Loader} {strict : Bool}
    {units : List StatementUnit} {batches : List Batch} (hlength : batches.length = units.length)
    {w w' : World Request σ} {f : Failure}
    (h : (d.runner loader strict).executeUnits units batches w = (.error (.failure f), w')) :
    units ≠ [] ∧ (d.session w.outside (units.zip batches)).result = .error (.failure f) ∧
      w'.trace = w.trace ++ (d.session w.outside (units.zip batches)).requests := by
  have hunits : units ≠ [] := by
    rintro rfl
    obtain rfl := List.length_eq_zero_iff.1 hlength
    have hnone := (executeUnits_nil (d.runner loader strict) w).result
    rw [h] at hnone
    cases hnone
  obtain ⟨start, finish, hrun⟩ := yields_executeUnits (d := d) loader strict hlength hunits w
  have hresult := hrun.result
  have htrace := hrun.trace
  rw [h] at hresult htrace
  refine ⟨hunits, ?_, htrace⟩
  cases hr : (d.session w.outside (units.zip batches)).result with
  | error e =>
    rw [hr] at hresult
    exact hresult.symm
  | ok outcomes =>
    rw [hr] at hresult
    cases he : elapsedMilliseconds start finish with
    | ok ms => simp [he, Except.bind, Except.map] at hresult
    | error e =>
      simp only [he, Except.bind, Except.map] at hresult
      rw [← Except.error.inj hresult] at he
      exact absurd he (elapsedMilliseconds_ne_failure start finish f)

/-- **A run with a report**, whose parameters are dealt out without asking anything of the
database. -/
theorem tellsTruth_report (hd : d.IsOrderly) {loader : Loader} {strict : Bool} {source : String}
    {units : List StatementUnit} {parameters : List Value}
    {allocate : Action (World Request σ) (List Batch)} (dealt : Except Failure (List Batch))
    (hallocate : ∀ w, Yields allocate w [] w.outside (dealt.mapError .failure))
    (hlength : ∀ batches, dealt = .ok batches → batches.length = units.length)
    (hrefused : ∀ g, dealt = .error g → g.statementIndex = none ∧ g.code ≠ "commit_failed")
    (hindex : ∀ (i : Nat) unit, units[i]? = some unit → unit.index = i)
    {w w' : World Request σ} {report : ScriptReport} {f : Failure}
    (h : (d.runner loader strict).report source units parameters allocate w = (.ok report, w'))
    (hf : report.error = some f) :
    ∃ requests, w'.trace = w.trace ++ requests ∧
      (d.TellsTruth w.outside (units.zip (dealt.toOption.getD [])) requests report ↔
        ¬ BlamesNobody requests f) := by
  obtain ⟨batches, count, elapsed, w₂, rfl, htrace, hend⟩ := failure_of_report h hf
  have hdealt := hallocate w.tick
  rcases hend with ⟨rfl, hrefuse⟩ | ⟨w₁, hdeal, hexecute⟩
  · -- the parameters did not fit
    have hresult := hdealt.result
    have hquiet := hdealt.trace
    rw [hrefuse] at hresult hquiet
    cases dealt with
    | ok batches => cases hresult
    | error g =>
      obtain rfl := Fault.failure.inj (Except.error.inj hresult)
      obtain ⟨hnone, hcode⟩ := hrefused f rfl
      refine ⟨[], htrace.trans hquiet, ?_⟩
      rw [tellsTruth_ofFailure hindex]
      refine ⟨fun _ hb => absurd hb.1 List.not_mem_nil, fun _ i _ => ?_⟩
      rw [statusOf_skipped hnone hcode]
      have hzip : units.zip
          ((Except.error f : Except Failure (List Batch)).toOption.getD []) = [] :=
        List.zip_nil_right
      rw [hzip]
      refine ⟨⟨fun _ => Nat.zero_le i, fun _ => rfl⟩, ⟨(nomatch ·), ?_⟩, ⟨(nomatch ·), ?_⟩⟩
      · rintro ⟨cursor, s', -, hpassed, hstopped⟩
        rw [List.take_nil] at hpassed hstopped
        exact absurd hpassed hstopped
      · rintro ⟨cursor, s', -, hi, -⟩
        exact absurd hi (Nat.not_lt_zero i)
  · -- they did, and the failure is that of the session
    have hresult := hdealt.result
    have hquiet := hdealt.trace
    have houtside := hdealt.outside
    rw [hdeal] at hresult hquiet houtside
    cases dealt with
    | error g => cases hresult
    | ok batches' =>
      obtain rfl := Except.ok.inj hresult
      have hcount := hlength batches rfl
      obtain ⟨hunits, hsession, hrequests⟩ := result_session_of_executeUnits hcount hexecute
      rw [show w₁.outside = w.outside from houtside] at hsession hrequests
      refine ⟨_, ?_, tellsTruth_session hd hcount hunits hindex hsession source count elapsed⟩
      rw [htrace, hrequests]
      simp only at hquiet
      rw [hquiet, List.append_nil]
      rfl

/-- Dealing out parameters asks nothing of the database. -/
theorem yields_allocateBatches (loader : Loader) (strict : Bool) (units : List StatementUnit)
    (parameters : List Value) (w : World Request σ) :
    Yields ((d.runner loader strict).allocateBatches units parameters) w [] w.outside
      (((allocate units parameters strict).map (·.1)).mapError .failure) :=
  (d.runner loader strict).yields_allocateBatches units parameters w

/-- There is a batch for each statement, if the parameters fit. -/
theorem length_of_allocate {units : List StatementUnit} {parameters : List Value} {strict : Bool}
    {batches : List Batch} (h : (allocate units parameters strict).map (·.1) = .ok batches) :
    batches.length = units.length := by
  have hlength := length_deal (units.map (·.placeholderCount)) parameters
  rw [List.length_map] at hlength
  unfold allocate at h
  simp only at h
  split at h
  · rw [← Except.ok.inj h]
    exact hlength
  · split at h
    · cases h
    · rw [← Except.ok.inj h]
      exact hlength

/-- Parameters that do not fit blame no statement. -/
theorem blame_of_allocate {units : List StatementUnit} {parameters : List Value} {strict : Bool}
    {g : Failure} (h : (allocate units parameters strict).map (·.1) = .error g) :
    g.statementIndex = none ∧ g.code ≠ "commit_failed" := by
  have hcode : "excess_parameters" ≠ "commit_failed" := by decide
  unfold allocate at h
  simp only at h
  split at h
  · cases h
  · split at h
    · rw [← Except.error.inj h]
      exact ⟨rfl, hcode⟩
    · cases h

/-- The statements of a script are numbered by their places. -/
theorem index_parseScript {script : String} {i : Nat} {unit : StatementUnit}
    (h : (parseScript script)[i]? = some unit) : unit.index = i := by
  rw [parseScript, List.getElem?_mapIdx] at h
  obtain ⟨sql, -, rfl⟩ := Option.map_eq_some_iff.1 h
  rfl

/-- The statements of a script with their batches; there are none if the parameters do not fit. -/
def scriptItems (script : String) (parameters : List Value) (strict : Bool) :
    List (StatementUnit × Batch) :=
  (parseScript script).zip
    (((allocate (parseScript script) parameters strict).map (·.1)).toOption.getD [])

/-- A single statement with all parameters, if there is one. -/
def statementItems (text : String) (parameters : List Value) : List (StatementUnit × Batch) :=
  if split text = [] then [] else [(parseStatement text, parameters)]

/-- **Reports of failed runs tell the truth**, of scripts and of single statements, unless a
rollback failed too and blames nobody. Statements that ran count as skipped then. -/
theorem tellsTruth_iff (hd : d.IsOrderly) (loader : Loader) (strict : Bool)
    (parameters : List Value) (w w' : World Request σ) (report : ScriptReport) (f : Failure)
    (hf : report.error = some f) :
    (∀ source script,
      (d.runner loader strict).reportScript source script parameters w = (.ok report, w') →
      ∃ requests, w'.trace = w.trace ++ requests ∧
        (d.TellsTruth w.outside (scriptItems script parameters strict) requests report ↔
          ¬ BlamesNobody requests f)) ∧
    ∀ text, (d.runner loader strict).reportStatement text parameters w = (.ok report, w') →
      ∃ requests, w'.trace = w.trace ++ requests ∧
        (d.TellsTruth w.outside (statementItems text parameters) requests report ↔
          ¬ BlamesNobody requests f) := by
  constructor
  · intro source script h
    exact tellsTruth_report hd _
      (yields_allocateBatches loader strict (parseScript script) parameters)
      (fun _ => length_of_allocate) (fun _ => blame_of_allocate) (fun _ _ => index_parseScript) h hf
  · intro text h
    unfold Runner.reportStatement at h
    unfold statementItems
    -- a text that is no statement gets no batch, every other one gets all parameters
    split at h
    · rename_i hempty
      rw [if_pos hempty]
      exact tellsTruth_report hd (.ok []) (Yields.pure [])
        (fun _ hb => by rw [← Except.ok.inj hb]; rfl) (fun _ hg => nomatch hg)
        (fun _ _ hunit => by simp at hunit) h hf
    · rename_i hsome
      rw [if_neg hsome]
      refine tellsTruth_report hd (.ok [parameters]) (Yields.pure [parameters])
        (fun _ hb => by rw [← Except.ok.inj hb]; rfl) (fun _ hg => nomatch hg)
        (fun i unit hunit => ?_) h hf
      cases i with
      | zero =>
        obtain rfl := Option.some.inj hunit
        rfl
      | succ i => cases hunit

/-- A database that fails to execute `DROP` and to commit, and to roll back if `stuck`. -/
def failing (stuck : Bool) : Responder Unit
  | .execute "DROP" _, s => (.error (.of (.database .operational) "no such table"), s)
  | .commit, s => (.error (.of (.database .operational) "disk full"), s)
  | .rollback, s =>
    (if stuck then .error (.of (.database .operational) "gone") else .ok {}, s)
  | _, s => (.ok {}, s)

theorem isOrderly_failing (stuck : Bool) : (failing stuck).IsOrderly where
  closes request s cursor h := by
    unfold failing at h
    split at h
    · cases h
    · cases h
    · simp only at h
      split at h
      · cases h
      · rw [← Except.ok.inj h]
    · rw [← Except.ok.inj h]
  releases s e h := by cases h
  acquires s f h := by cases h

/-- The statuses in the report of a run, and the code of its failure. -/
def statusesOf (r : Except Fault ScriptReport) : Option (List StatementStatus × Option String) :=
  r.toOption.map fun report => (report.statements.map (·.status), report.error.map (·.code))

theorem failed_of_statusesOf {r : Except Fault ScriptReport} {statuses : List StatementStatus}
    {code : String} (h : statusesOf r = some (statuses, some code)) :
    ∃ report f, r = .ok report ∧ report.statements.map (·.status) = statuses ∧
      report.error = some f ∧ f.code = code := by
  cases r with
  | error e => cases h
  | ok report =>
    obtain ⟨hstatuses, hcode⟩ := Prod.mk.inj (Option.some.inj h)
    obtain ⟨f, hf, hfcode⟩ := Option.map_eq_some_iff.1 hcode
    exact ⟨report, f, rfl, hstatuses, hf, hfcode⟩

theorem tellsTruth_failing :
    (failing false).IsOrderly ∧ ∃ report w' f requests,
      ((failing false).runner {} false).reportScript "" "CREATE;DROP;SELECT" [] { outside := () } =
        (.ok report, w') ∧
      report.error = some f ∧
      report.statements.map (·.status) = [.rolledBack, .failed, .skipped] ∧
      w'.trace = [] ++ requests ∧
      (failing false).TellsTruth () (scriptItems "CREATE;DROP;SELECT" [] false) requests
        report := by
  have horderly := isOrderly_failing false
  have hrun : statusesOf (((failing false).runner {} false).reportScript "" "CREATE;DROP;SELECT" []
      { outside := () }).1 = some ([.rolledBack, .failed, .skipped], some "execution_failed") := by
    decide +kernel
  generalize hr : ((failing false).runner {} false).reportScript "" "CREATE;DROP;SELECT" []
    { outside := () } = ran at hrun ⊢
  obtain ⟨r, w'⟩ := ran
  obtain ⟨report, f, rfl, hstatuses, hf, hcode⟩ := failed_of_statusesOf hrun
  obtain ⟨requests, htrace, htruth⟩ :=
    (tellsTruth_iff horderly {} false [] { outside := () } w' report f hf).1 "" _ hr
  refine ⟨horderly, report, w', f, requests, rfl, hf, hstatuses, htrace, htruth.2 fun hb => ?_⟩
  have hcodes := hcode.symm.trans hb.2.1
  exact absurd hcodes (by decide)

/-- A statement that ran counts as skipped if neither committing nor rolling back succeeds. -/
theorem not_tellsTruth_failing :
    (failing true).IsOrderly ∧ ∃ report w' f,
      ((failing true).runner {} false).reportScript "s.sql" "CREATE TABLE t (a)" []
        { outside := () } = (.ok report, w') ∧
      report.error = some f ∧
      report.statements.map (·.status) = [.skipped] ∧
      ¬ (failing true).TellsTruth () (scriptItems "CREATE TABLE t (a)" [] false) w'.trace
        report := by
  have hrun : statusesOf (((failing true).runner {} false).reportScript "s.sql" "CREATE TABLE t (a)"
      [] { outside := () }).1 = some ([.skipped], some "rollback_failed") := by decide +kernel
  have hprepared : prepares (((failing true).runner {} false).reportScript "s.sql"
      "CREATE TABLE t (a)" [] { outside := () }).2.trace = 1 := by decide +kernel
  generalize ((failing true).runner {} false).reportScript "s.sql" "CREATE TABLE t (a)" []
    { outside := () } = ran at hrun hprepared ⊢
  obtain ⟨r, w'⟩ := ran
  obtain ⟨report, f, rfl, hstatuses, hf, -⟩ := failed_of_statusesOf hrun
  refine ⟨isOrderly_failing true, report, w', f, rfl, hf, hstatuses, fun htruth => ?_⟩
  obtain ⟨statement, rest, hcons, hskipped, -⟩ := List.map_eq_cons_iff.1 hstatuses
  have hzero := (htruth 0 statement (by rw [hcons]; rfl)).skipped.1 hskipped
  have hone : prepares w'.trace = 1 := hprepared
  omega

end Responder

end SqlScript
