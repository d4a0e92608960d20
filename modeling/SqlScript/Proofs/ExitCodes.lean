import SqlScript.Proofs.Invocations
import SqlScript.Proofs.PoolAccounts
import SqlScript.Proofs.Printing
import SqlScript.Proofs.Successes

/-!
# Exit codes

A command that ends with the exit code zero had a report of a success, and such a report is made
only of a run that raised nothing. So its text was read, its database was opened, its parameters
were dealt out, and its statements were committed, or there were none. Whatever else happens, a
failure in the report, a value that is not allowed, another fault, gives another exit code or none.

* `Runner.outcomes_of_report`: where a report of a success comes from.
* `Session.of_runTask_zero`: where the exit code zero comes from.
* `Session.committed_of_body`: what a command did that gives a report of a success.
* `committed_of_exit_zero`: **a command that ends with the exit code zero was committed.**
-/

namespace SqlScript

open SqlScript.Action

/-! ## Reports of successes -/

section Reports

variable {κ τ Conn Stmt : Type} {w w' : World κ τ} {report : ScriptReport}

/-- **A report of a success** is made of what running the statements gave, once they had their
batches. -/
theorem Runner.outcomes_of_report {r : Runner κ τ Conn Stmt} {source : String}
    {units : List StatementUnit} {parameters : List Value}
    {allocate : Action (World κ τ) (List Batch)}
    (h : r.report source units parameters allocate w = (.ok report, w'))
    (hsuccess : report.isSuccess = true) :
    ∃ batches outcomes w₁ w₂, allocate w.tick = (.ok batches, w₁) ∧
      r.executeUnits units batches w₁ = (.ok outcomes, w₂) ∧
      w'.trace = w₂.trace ∧ w'.outside = w₂.outside := by
  unfold Runner.report at h
  obtain ⟨start, w₀, hstart, h⟩ := of_bind_ok h
  obtain rfl : w.tick = w₀ := congrArg Prod.snd hstart
  extract_lets elapsed failed at h
  -- a report that is made of a failure tells of it
  have hfailed : ∀ {batches : List Batch} {e : Fault} {u : World κ τ},
      failed batches e u ≠ (.ok report, w') := by
    intro batches e u hu
    cases e with
    | outside kind message cause => cases congrArg Prod.fst hu
    | failure g =>
      obtain ⟨ms, u₁, -, hu⟩ := of_bind_ok hu
      obtain ⟨_, u₂, -, hu⟩ := of_bind_ok hu
      rw [← Except.ok.inj (congrArg Prod.fst hu)] at hsuccess
      cases hsuccess
  obtain ⟨dealt, w₁, hdealt, h⟩ := of_bind_ok h
  cases dealt with
  | error e => exact absurd h hfailed
  | ok batches =>
    obtain ⟨ran, w₂, hran, h⟩ := of_bind_ok h
    cases ran with
    | error e => exact absurd h hfailed
    | ok outcomes =>
      obtain ⟨ms, u, hms, hu⟩ := of_bind_ok h
      obtain ⟨finish, u₁, hfinish, hms⟩ := of_bind_ok hms
      obtain rfl : w₂.tick = u₁ := congrArg Prod.snd hfinish
      obtain rfl : w₂.tick = u := congrArg Prod.snd hms
      obtain rfl : w₂.tick = w' := congrArg Prod.snd hu
      exact ⟨batches, outcomes, w₁, w₂, of_attempt_ok hdealt, of_attempt_ok hran, rfl, rfl⟩

/-- A report that was shown is the report; only what is printed differs. -/
theorem Runner.of_present_ok {c : Console} {shown : Bool} {r : ScriptReport}
    (h : Runner.present c shown r w = (.ok report, w')) :
    report = r ∧ w'.trace = w.trace ∧ w'.outside = w.outside := by
  have hprints := Runner.onlyPrints_present (κ := κ) (τ := τ) c shown r
  obtain ⟨text, q, hprints⟩ := hprints
  obtain ⟨-, rfl⟩ := Prod.mk.inj ((hprints w).symm.trans h)
  refine ⟨?_, rfl, rfl⟩
  unfold Runner.present at h
  cases shown with
  | false => exact (Except.ok.inj (congrArg Prod.fst h)).symm
  | true =>
    obtain ⟨_, u, -, hdone⟩ := of_bind_ok h
    exact (Except.ok.inj (congrArg Prod.fst hdone)).symm

end Reports

namespace Sqlite

variable {σ : Type} {d : Driver σ} {w w' : World Call (Session σ)} {report : ScriptReport}
  {loader : Loader} {strict : Bool}

/-- **Statements whose report is one of a success** were committed, if there are any. -/
theorem settles_of_report {source : String} {units : List StatementUnit} {parameters : List Value}
    {allocate : PoolAction σ (List Batch)} {dealing : Except Fault (List Batch)}
    (hdealing : ∀ u, Yields allocate u [] u.outside dealing)
    (hunits : ∀ unit ∈ units, unit.placeholderCount = countPlaceholders unit.sql)
    (h : (runner d loader strict).report source units parameters allocate w = (.ok report, w'))
    (hsuccess : report.isSuccess = true) :
    ∃ batches calls, dealing = .ok batches ∧ w'.trace = w.trace ++ calls ∧
      Settles d (units.zip batches) w.outside calls w'.outside := by
  obtain ⟨batches, outcomes, w₁, w₂, hallocate, hrun, htrace, houtside⟩ :=
    Runner.outcomes_of_report h hsuccess
  have hyields := hdealing w.tick
  have hsnd : (allocate w.tick).2 = w₁ := congrArg Prod.snd hallocate
  have hbefore : w₁.trace = w.trace := by
    rw [← hsnd, hyields.trace, List.append_nil]
    rfl
  have hsame : w₁.outside = w.outside := by
    rw [← hsnd, hyields.outside]
    rfl
  obtain ⟨calls, hcalls, hsettles⟩ := settles_of_executeUnits_ok hunits hrun
  refine ⟨batches, calls, hyields.result.symm.trans (congrArg Prod.fst hallocate), ?_, ?_⟩
  · rw [htrace, hcalls, hbefore]
  · rw [houtside, ← hsame]
    exact hsettles

/-- **A script whose report is one of a success** was committed with the parameters that were dealt
out, of which none was left over if the runner is strict. -/
theorem settles_of_reportScript {source script : String} {parameters : List Value}
    (h : (runner d loader strict).reportScript source script parameters w = (.ok report, w'))
    (hsuccess : report.isSuccess = true) :
    ¬ (strict = true ∧ (placeholderCounts (parseScript script)).sum < parameters.length) ∧
    ∃ calls, w'.trace = w.trace ++ calls ∧
      Settles d (dealt (parseScript script) parameters) w.outside calls w'.outside := by
  obtain ⟨batches, calls, hdealing, htrace, hsettles⟩ := settles_of_report
    ((runner d loader strict).yields_allocateBatches (parseScript script) parameters)
    (fun _ => placeholderCount_of_mem_parseScript) h hsuccess
  rw [show (runner d loader strict).strictParameters = strict from rfl] at hdealing
  have hcases := allocate_cases (parseScript script) parameters strict
  split at hcases
  · obtain ⟨left, taken, hallocate⟩ := hcases
    rw [hallocate] at hdealing
    cases hdealing
  · rename_i hfine
    obtain ⟨batches', hallocate, hitems⟩ := hcases
    rw [hallocate] at hdealing
    obtain rfl := Except.ok.inj hdealing
    exact ⟨hfine, calls, htrace, hitems ▸ hsettles⟩

/-- **A single statement whose report is one of a success** was committed with all parameters, if
there is one. -/
theorem settles_of_reportStatement {text : String} {parameters : List Value}
    (h : (runner d loader strict).reportStatement text parameters w = (.ok report, w'))
    (hsuccess : report.isSuccess = true) :
    ∃ calls, w'.trace = w.trace ++ calls ∧
      Settles d (Responder.statementItems text parameters) w.outside calls w'.outside := by
  unfold Runner.reportStatement at h
  unfold Responder.statementItems
  split at h
  · rename_i htext
    obtain ⟨batches, calls, -, htrace, hsettles⟩ :=
      settles_of_report (Yields.pure []) (by simp) h hsuccess
    rw [if_pos htext]
    exact ⟨calls, htrace, hsettles⟩
  · rename_i htext
    have hunits : ∀ unit ∈ [parseStatement text],
        unit.placeholderCount = countPlaceholders unit.sql := by
      intro unit hunit
      rw [List.mem_singleton.1 hunit]
      exact placeholderCount_ofText ..
    obtain ⟨batches, calls, hbatches, htrace, hsettles⟩ :=
      settles_of_report (Yields.pure [parameters]) hunits h hsuccess
    obtain rfl := Except.ok.inj hbatches
    rw [if_neg htext]
    exact ⟨calls, htrace, hsettles⟩

/-- Closing a pool asks for the closing of connections only, and for nothing where none waits. -/
theorem trace_close (d : Driver σ) (w : World Call (Session σ)) :
    ∃ given, (Pool.close d w).2.trace = w.trace ++ given ∧ (∀ call ∈ given, ¬ call.Ends) ∧
      (w.outside.pool.idle = [] → given = []) := by
  obtain ⟨given, hgiven, hallowed⟩ := exists_made (fun before =>
    (simulates_trace d (fun call => ¬ call.Ends) before).close (by simp [Call.Ends])) w
  refine ⟨given, hgiven, hallowed, fun hidle => ?_⟩
  rw [CommandLine.close_of_idle_eq_nil hidle] at hgiven
  exact List.self_eq_append_right.1 hgiven

end Sqlite

namespace CommandLine

open SqlScript.Sqlite (Driver Call Commits Settles PoolAction Lease Prepared Pool)

/-! ## Commands -/

section Commands

variable {κ τ Conn Stmt : Type} {s : Session κ τ Conn Stmt} {task : Task} {w w' : World κ τ}

/-- To print an envelope asks nothing of the database. -/
theorem Session.of_printReport_ok {command : Command} {report : ScriptReport} {start : Float}
    {x : Unit} (h : s.printReport command report start w = (.ok x, w')) :
    w'.trace = w.trace := by
  obtain ⟨data, w₁, hdata, h⟩ := of_bind_ok h
  obtain ⟨info, w₂, hinfo, h⟩ := of_bind_ok h
  obtain ⟨finish, w₃, hfinish, hinfo⟩ := of_bind_ok hinfo
  obtain ⟨duration, w₄, hduration, hinfo⟩ := of_bind_ok hinfo
  obtain rfl : w = w₁ := congrArg Prod.snd hdata
  obtain rfl : w.tick = w₃ := congrArg Prod.snd hfinish
  obtain rfl : w.tick = w₄ := congrArg Prod.snd hduration
  obtain rfl : w.tick = w₂ := congrArg Prod.snd hinfo
  exact (congrArg (·.2.trace) h).symm

/-- A failure that is told gives the exit code one, or no exit code. -/
theorem Session.fail_ne_zero {c : Console} {command : Command} {f : Failure} {json : Bool}
    {database : Option String} {start : Float} :
    Session.fail c command f json database start w ≠ (.ok 0, w') := by
  intro h
  unfold Session.fail at h
  split at h
  · obtain ⟨_, w₁, -, h⟩ := of_bind_ok h
    obtain ⟨_, w₂, -, h⟩ := of_bind_ok h
    cases congrArg Prod.fst h
  · obtain ⟨_, w₁, -, h⟩ := of_bind_ok h
    cases congrArg Prod.fst h

/-- **The exit code zero comes from a report of a success.** -/
theorem Session.of_runTask_zero {body : Action (World κ τ) ScriptReport} {start : Float}
    (h : s.runTask task body start w = (.ok 0, w')) :
    ∃ report w₁, body w = (.ok report, w₁) ∧ report.isSuccess = true ∧ w'.trace = w₁.trace := by
  obtain ⟨r, w₁, hattempt, h⟩ := of_bind_ok h
  have hbody := of_attempt_ok hattempt
  cases r with
  | ok report =>
    have hsuccess : Session.exitCode report = 0 → report.isSuccess = true := by
      unfold Session.exitCode
      cases report.isSuccess <;> simp
    refine ⟨report, w₁, hbody, ?_⟩
    simp only at h
    split at h
    · obtain ⟨_, w₂, hprint, hdone⟩ := of_bind_ok h
      obtain ⟨hcode, rfl⟩ := Prod.mk.inj hdone
      exact ⟨hsuccess (Except.ok.inj hcode), Session.of_printReport_ok hprint⟩
    · obtain ⟨hcode, rfl⟩ := Prod.mk.inj h
      exact ⟨hsuccess (Except.ok.inj hcode), rfl⟩
  | error e =>
    cases e with
    | failure f => exact absurd h Session.fail_ne_zero
    | outside kind message cause =>
      simp only at h
      split at h
      · obtain ⟨_, w₂, -, hdone⟩ := of_bind_ok h
        cases congrArg Prod.fst hdone
      · cases congrArg Prod.fst h

end Commands

/-! ## Commands on SQLite databases -/

section Sqlite

variable {σ : Type} {d : Driver σ} {task : Task} {w w' : World Call (Sqlite.Session σ)}

/-- **The statements that a command is to run** with their parameters, in order. -/
def Session.Provisions.items (p : Session.Provisions) (task : Task) :
    List (StatementUnit × Batch) :=
  match task.command with
  | .exec => Responder.statementItems p.text p.parameters
  | .run | .split => dealt (parseScript p.text) p.parameters

/-- Whether a command refuses its parameters, of which some would be left over. -/
def Session.Provisions.IsRefused (p : Session.Provisions) (task : Task) (strict : Bool) : Prop :=
  task.command = .run ∧ strict = true ∧
    (placeholderCounts (parseScript p.text)).sum < p.parameters.length

/-- A command has the statement that it is given, or those of its script. -/
theorem items_cases (p : Session.Provisions) (task : Task) :
    p.items task = Responder.statementItems p.text p.parameters ∨
      p.items task = dealt (parseScript p.text) p.parameters := by
  unfold Session.Provisions.items
  cases task.command with
  | exec => exact .inl rfl
  | run => exact .inr rfl
  | split => exact .inr rfl

theorem items_eq_nil_iff {p : Session.Provisions} : p.items task = [] ↔ split p.text = [] := by
  rcases items_cases p task with hitems | hitems
  · rw [hitems, Responder.statementItems]
    split <;> simp [*]
  · rw [hitems, ← List.map_eq_nil_iff (f := (·.1)), map_fst_dealt, parseScript,
      List.mapIdx_eq_nil_iff]

/-- The statements of a command count their placeholders. -/
theorem placeholderCount_of_mem_items {p : Session.Provisions} {item : StatementUnit × Batch}
    (h : item ∈ p.items task) : item.1.placeholderCount = countPlaceholders item.1.sql := by
  rcases items_cases p task with hitems | hitems
  · rw [hitems, Responder.statementItems] at h
    split at h
    · cases h
    · rw [List.mem_singleton.1 h]
      exact Sqlite.placeholderCount_ofText ..
  · rw [hitems] at h
    have hunit := List.mem_map_of_mem (f := (·.1)) h
    rw [map_fst_dealt] at hunit
    exact placeholderCount_of_mem_parseScript hunit

/-- A command whose run gave a report of a success settled its statements. -/
theorem settles_of_runWith {c : Console} {p : Session.Provisions} {loader : Loader} {strict : Bool}
    {report : ScriptReport}
    (h : Session.runWith c task p (Sqlite.runner d loader strict) w = (.ok report, w'))
    (hsuccess : report.isSuccess = true) :
    ¬ p.IsRefused task strict ∧ ∃ calls, w'.trace = w.trace ++ calls ∧
      Settles d (p.items task) w.outside calls w'.outside := by
  have hscript : (Sqlite.runner d loader strict).presentScript c
      (Session.sourceName task.argument) p.text p.parameters (!task.json) w = (.ok report, w') →
      ¬ (strict = true ∧ (placeholderCounts (parseScript p.text)).sum < p.parameters.length) ∧
      ∃ calls, w'.trace = w.trace ++ calls ∧
        Settles d (dealt (parseScript p.text) p.parameters) w.outside calls w'.outside := by
    intro h
    obtain ⟨r, w₁, hreport, hpresent⟩ := of_bind_ok h
    obtain ⟨rfl, htrace, houtside⟩ := Runner.of_present_ok hpresent
    rw [htrace, houtside]
    exact Sqlite.settles_of_reportScript hreport hsuccess
  unfold Session.runWith at h
  unfold Session.Provisions.IsRefused Session.Provisions.items
  cases hcommand : task.command with
  | exec =>
    rw [hcommand] at h
    obtain ⟨r, w₁, hreport, hpresent⟩ := of_bind_ok h
    obtain ⟨rfl, htrace, houtside⟩ := Runner.of_present_ok hpresent
    rw [htrace, houtside]
    exact ⟨fun hrefused => (nomatch hrefused.1),
      Sqlite.settles_of_reportStatement hreport hsuccess⟩
  | run =>
    rw [hcommand] at h
    exact ⟨fun hrefused => (hscript h).1 hrefused.2, (hscript h).2⟩
  | split =>
    rw [hcommand] at h
    exact ⟨fun hrefused => (nomatch hrefused.1), (hscript h).2⟩

/-- **What a command did that gave a report of a success**: it was provided for, did not refuse its
parameters, and committed its statements, if there are any. -/
theorem committed_of_body {config : Config} {surroundings : Surroundings} {c : Console}
    {report : ScriptReport}
    (h : (sqliteSession d config surroundings c).body task w = (.ok report, w'))
    (hsuccess : report.isSuccess = true) :
    ∃ p calls, (sqliteSession d config surroundings c).provide task = .ok p ∧
      ¬ p.IsRefused task config.strictParameters ∧ w'.trace = w.trace ++ calls ∧
      if split p.text = [] then calls = []
      else Commits d { w.outside with pool := p.pool } (p.items task) calls := by
  obtain ⟨log, pool, hbody⟩ := body_apply (sqliteSession d config surroundings c) rfl task w
  cases hprovide : (sqliteSession d config surroundings c).provide task with
  | error e =>
    rw [hprovide] at hbody
    cases hbody.symm.trans h
  | ok p =>
    rw [hprovide] at hbody
    obtain ⟨w₁, hrun, hclose⟩ := cleanup_of_ensure_ok (hbody.symm.trans h)
    obtain ⟨hfine, calls, hcalls, hsettles⟩ := settles_of_runWith hrun hsuccess
    obtain ⟨given, hgiven, hends, hnone⟩ := Sqlite.trace_close d w₁
    rw [hclose] at hgiven
    refine ⟨p, calls ++ given, rfl, hfine, ?_, ?_⟩
    · rw [hgiven, hcalls, List.append_assoc]
    · unfold Settles at hsettles
      simp only [items_eq_nil_iff] at hsettles
      split at hsettles
      · -- no statement ran, so no connection waits to be closed with the pool
        rename_i htext
        obtain ⟨rfl, houtside⟩ := hsettles
        have hidle : w₁.outside.pool.idle = [] := by
          rw [houtside]
          exact (of_newPool (of_provide_ok hprovide).2.1).1
        rw [if_pos htext, hnone hidle]
        rfl
      · rename_i htext
        rw [if_neg htext]
        exact hsettles.append hends

/-- An ending with the exit code zero is that of a command that gave it. -/
theorem of_ofExit_zero {exit : Except Fault Int} {verbose : Bool}
    (h : (Ending.ofExit exit verbose).exit = .ok 0) : exit = .ok 0 := by
  unfold Ending.ofExit at h
  split at h
  · cases h
  · exact h

/-- **The exit code zero means that the statements were committed.** A script or a statement that
the program runs and ends well with was provided for, and its parameters were not refused. It has no
statement, and then nothing was asked of the database; or each of its statements was executed and
its rows were read, and they were committed, once. -/
theorem committed_of_exit_zero (kit : Toolkit) (d : Driver σ) {surroundings : Surroundings}
    {args : List String} {config : Config} {task : Task}
    (hinvokes : Invokes kit.validation surroundings args config task)
    (hcommand : task.command ≠ .split) (w : World Call (Sqlite.Session σ))
    (hexit : (program kit (backends d) surroundings args w).1.exit = .ok 0) :
    ∃ p calls, (sqliteSession d config surroundings kit.console).provide task = .ok p ∧
      ¬ p.IsRefused task config.strictParameters ∧
      (program kit (backends d) surroundings args w).2.trace = w.trace ++ calls ∧
      if split p.text = [] then calls = []
      else Commits d { w.outside with pool := p.pool } (p.items task) calls ∧
        calls.countP Call.isCommit = 1 := by
  obtain ⟨verbose, hprogram⟩ := hinvokes.program_eq d w
  rw [hprogram] at hexit ⊢
  have hzero := of_ofExit_zero hexit
  rw [perform_of_ne_split _ hcommand] at hzero ⊢
  obtain ⟨report, w₁, hbody, hsuccess, htrace⟩ := Session.of_runTask_zero (Prod.ext hzero rfl)
  obtain ⟨p, calls, hprovide, hfine, hcalls, hcommits⟩ := committed_of_body hbody hsuccess
  refine ⟨p, calls, hprovide, hfine, htrace.trans hcalls, ?_⟩
  split at hcommits
  · rename_i htext
    rwa [if_pos htext]
  · rename_i htext
    rw [if_neg htext]
    exact ⟨hcommits, hcommits.once⟩

/-- A statement with a parameter, and a driver that raises nothing. -/
theorem committed_of_exit_zero_silent :
    let args := ["exec", "SELECT ?", "-p", "1", "--json"]
    let task : Task :=
      { command := .exec, argument := "SELECT ?", parameters := ["1"], json := true }
    let d : Driver Unit := .silent
    let w : World Call (Sqlite.Session Unit) := { outside := { driver := () } }
    Invokes .lenient {} args {} task ∧ task.command ≠ .split ∧
      (program .standard (backends d) {} args w).1.exit = .ok 0 ∧
      ∃ p calls, (sqliteSession d {} {} .terminal).provide task = .ok p ∧ ¬ p.IsRefused task false ∧
        (program .standard (backends d) {} args w).2.trace = w.trace ++ calls ∧
        if split p.text = [] then calls = []
        else Commits d { w.outside with pool := p.pool } (p.items task) calls ∧
          calls.countP Call.isCommit = 1 := by
  intro args task d w
  have hinvokes : Invokes .lenient {} args {} task := invokes_parameter
  have hcommand : task.command ≠ .split := nofun
  have hexit : (program .standard (backends d) {} args w).1.exit = .ok 0 :=
    eq_ok_of_toOption (by decide +kernel)
  exact ⟨hinvokes, hcommand, hexit, committed_of_exit_zero .standard d hinvokes hcommand w hexit⟩

end Sqlite

end CommandLine

end SqlScript
