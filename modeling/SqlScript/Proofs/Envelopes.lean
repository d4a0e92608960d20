import SqlScript.Proofs.JsonText
import SqlScript.Proofs.OneLine
import SqlScript.Proofs.ToldRuns

/-!
# Envelopes

What a command prints for programs. Once it is provided for, or fails to be, it prints one envelope
on one line: a JSON object whose fields tell its failure and its exit code. But a fault before the
run that is no failure of the runner, such as a database of an unknown kind, is an obstacle: it is
told to people, or to nobody, and there is no envelope.

* `Tidings`: what a command has to tell.
* `TellsFailure`, `Tells`: JSON objects that tell a failure, and all there is to tell.
* `PrintsEnvelope`: commands that print such an object.
* `tells_toJson`: the JSON form of an envelope is such an object.
* `Session.obstacle?`, `EndsAt`: what keeps a command from its envelope, and how it ends then.
* `printsEnvelope_of_report`, `printsEnvelope_of_failure`, `printsEnvelope_of_split`: the places
  where envelopes are printed.
* `prints_envelope`: **a command for programs prints one envelope, unless there is an obstacle.**
-/

namespace SqlScript.CommandLine

open SqlScript.Action
open SqlScript.Sqlite (Driver Call PoolAction Lease Prepared Pool IsAfter)

/-! ## What is told -/

/-- **What a command has to tell**: its failure, if there is one, and how many parameters it
discarded. -/
structure Tidings where
  failure : Option Failure := none
  discarded : Int := 0

/-- What there is to tell of a result. Faults that are no failures go on. -/
def Tidings.of {α : Type} (tell : α → Tidings) : Except Fault α → Except Fault Tidings
  | .ok x => .ok (tell x)
  | .error (.failure f) => .ok { failure := some f }
  | .error e => .error e

/-- What there is to tell of a report. -/
def Tidings.ofReport (r : ScriptReport) : Tidings := ⟨r.error, r.discardedParameters⟩

/-- **A JSON object that tells a failure**: its code, its message, and by name its kind, the
statement to blame and what is behind it. -/
structure TellsFailure (f : Failure) (j : Json) : Prop where
  code : j.field? "code" = some (.string f.code)
  message : j.field? "message" = some (.string f.message)
  details : ∃ details, j.field? "details" = some details ∧
    details.field? "type" = some (.string f.kind.name) ∧
    details.field? "statementIndex" = f.statementIndex.map .int ∧
    details.field? "cause" = f.cause.map (.string ·.message) ∧
    details.field? "originalError" =
      if f.kind = .rollback then f.trigger.map (.string ·.message) else none

/-- **A JSON object that tells of a command**: an envelope. -/
structure Tells (j : Json) (command : Command) (t : Tidings) (code : Int) : Prop where
  /-- No field comes twice. -/
  fields : ∃ fields, j = .object fields ∧ (fields.map (·.1)).Nodup
  version : j.field? "schemaVersion" = some (.string "1")
  command : j.field? "command" = some (.string command.name)
  /-- It is a success exactly if the exit code is zero. -/
  status : j.field? "status" = some (.string (if code = 0 then "success" else "error"))
  failed : t.failure = none ↔ code = 0
  data : (j.field? "data").isSome = true
  /-- The failure is the only error. -/
  errors : ∃ errors, j.field? "errors" = some (.array errors) ∧
    List.Forall₂ TellsFailure t.failure.toList errors
  warnings : ∃ warnings, j.field? "warnings" = some (.array warnings) ∧
    (warnings ≠ [] ↔ t.discarded ≠ 0)
  info : ∃ info, j.field? "meta" = some info ∧ info.field? "exitCode" = some (.int code)

/-- **A command that prints one envelope**, on one line, and ends with its exit code. -/
structure PrintsEnvelope {κ τ : Type} (w : World κ τ) (ended : Except Fault Int × World κ τ)
    (command : Command) (t : Tidings) (j : Json) : Prop where
  printed : ∃ text : String, ended.2.printed = w.printed ++ (text ++ "\n") ∧
    j.IsText text.toList ∧ '\n' ∉ text.toList
  exit : ∃ code, ended.1 = .ok code ∧ Tells j command t code

/-- What is printed tells the same after a step that prints nothing. -/
theorem PrintsEnvelope.of_printed {κ τ : Type} {w u : World κ τ}
    {ended : Except Fault Int × World κ τ} {command : Command} {t : Tidings} {j : Json}
    (h : PrintsEnvelope u ended command t j) (hprinted : u.printed = w.printed) :
    PrintsEnvelope w ended command t j :=
  ⟨hprinted ▸ h.printed, h.exit⟩

/-! ## The printed object -/

/-- **The JSON form of a failure tells it.** -/
theorem tellsFailure_toJson (f : Failure) : TellsFailure f (EnvelopeError.ofFailure f).toJson := by
  refine ⟨rfl, rfl, _, rfl, rfl, ?_, ?_, ?_⟩
  -- every fact but the kind of the failure may be missing
  all_goals
    cases f.statementIndex <;> cases f.cause <;> cases f.trigger <;>
      by_cases hkind : f.kind = .rollback <;> simp [Json.field?, hkind]

/-- **The JSON form of an envelope tells of a command** if the envelope has its failure, and an exit
code that says whether there is one. -/
theorem tells_toJson {e : Envelope} {command : Command} {t : Tidings}
    (hcommand : e.command = command.name) (herror : e.error = t.failure.map EnvelopeError.ofFailure)
    (hstatus : t.failure = none ↔ e.info.exitCode = 0)
    (hwarnings : e.warnings ≠ [] ↔ t.discarded ≠ 0) :
    Tells e.toJson command t e.info.exitCode where
  fields := by
    have hnames : ["schemaVersion", "command", "status", "data", "warnings", "errors",
        "meta"].Nodup := by decide
    exact ⟨_, rfl, hnames⟩
  version := rfl
  command := congrArg (fun name => some (Json.string name)) hcommand
  status := by
    have hnone : e.error.isNone = decide (e.info.exitCode = 0) := by
      rw [herror, Option.isNone_map, ← Bool.coe_iff_coe, Option.isNone_iff_eq_none, hstatus,
        decide_eq_true_iff]
    show some (Json.string (if e.error.isNone then _ else _)) = _
    rw [hnone]
    simp only [decide_eq_true_eq]
  failed := hstatus
  data := rfl
  errors := by
    refine ⟨_, rfl, ?_⟩
    rw [herror]
    cases t.failure with
    | none => exact .nil
    | some f => exact .cons (tellsFailure_toJson f) .nil
  warnings := ⟨_, rfl, by rw [ne_eq, List.map_eq_nil_iff]; exact hwarnings⟩
  info := ⟨_, rfl, rfl⟩

/-- **Printing an envelope** prints one line. -/
theorem printsEnvelope_of_tells {κ τ : Type} {u : World κ τ} {e : Envelope} {command : Command}
    {t : Tidings} (h : Tells e.toJson command t e.info.exitCode) :
    PrintsEnvelope u ((Session.printEnvelope e >>= fun _ => pure e.info.exitCode) u)
      command t e.toJson :=
  ⟨⟨e.line, rfl, Json.isText_line e.toJson, (Json.isPrintable_line e.toJson).newline_not_mem⟩,
    _, rfl, h⟩

section Printing

variable {κ τ Conn Stmt : Type} {s : Session κ τ Conn Stmt} {w u : World κ τ}
  (htime : w.AlwaysHasTime) (hu : u.times ⊆ w.times)

include htime hu

/-- How a command ran is known, if time can be told. -/
theorem info_apply (database : Option String) (code : Int) :
    ∃ duration, Session.info database w.now code u =
      (.ok { duration, database, exitCode := code }, u.tick) := by
  obtain ⟨ms, hms⟩ := htime _ w.now_mem_times _ (hu u.now_mem_times)
  refine ⟨ms, ?_⟩
  unfold Session.info
  rw [bind_of_ok (show World.readClock u = (.ok u.now, u.tick) from rfl),
    bind_of_ok (show Action.ofExcept (elapsedMilliseconds w.now u.now) u.tick = (.ok ms, u.tick) by
      rw [hms]; rfl)]
  rfl

/-- **A report is told by an envelope**, if it has a JSON form. -/
theorem printsEnvelope_report {report : ScriptReport} (hreport : report.IsSerializable)
    (command : Command) :
    ∃ j, PrintsEnvelope u ((s.printReport command report w.now >>= fun _ =>
      pure (Session.exitCode report)) u) command (.ofReport report) j := by
  obtain ⟨data, hdata⟩ := ScriptReport.exists_toJson hreport
  obtain ⟨duration, hinfo⟩ := info_apply htime hu (some s.config.databaseUrl)
    (Session.exitCode report)
  have hread : Action.ofExcept report.toJson u = (.ok data, u) := by
    rw [hdata]
    rfl
  let e : Envelope := {
    command := command.name, data, warnings := Session.warnings report
    error := report.error.map EnvelopeError.ofFailure
    info := {
      duration, database := some s.config.databaseUrl, exitCode := Session.exitCode report } }
  have htells : Tells e.toJson command (.ofReport report) e.info.exitCode := by
    refine tells_toJson rfl rfl ?_ ?_
    · show report.error = none ↔ Session.exitCode report = 0
      unfold Session.exitCode ScriptReport.isSuccess
      cases report.error <;> simp
    · show Session.warnings report ≠ [] ↔ report.discardedParameters ≠ 0
      unfold Session.warnings
      split <;> simp [*]
  have hprint : s.printReport command report w.now u = Session.printEnvelope e u.tick :=
    (bind_of_ok hread).trans (bind_of_ok hinfo)
  rw [bind_apply, hprint]
  exact ⟨e.toJson, (printsEnvelope_of_tells htells).of_printed (u := u.tick) rfl⟩

/-- **A failure is told by an envelope.** -/
theorem printsEnvelope_fail (c : Console) (command : Command) (f : Failure)
    (database : Option String) :
    ∃ j, PrintsEnvelope u (Session.fail c command f true database w.now u) command
      { failure := some f } j := by
  obtain ⟨duration, hinfo⟩ := info_apply htime hu database 1
  unfold Session.fail
  rw [if_pos rfl, bind_of_ok hinfo]
  refine ⟨_, (printsEnvelope_of_tells ?_).of_printed (u := u.tick) rfl⟩
  exact tells_toJson rfl rfl (by simp) (by simp)

/-- **The statements of a script are told by an envelope.** -/
theorem printsEnvelope_showUnits (c : Console) {task : Task} (hjson : task.json = true)
    (script : String) :
    ∃ j, PrintsEnvelope u (Session.showUnits c task script w.now u) task.command {} j := by
  obtain ⟨duration, hinfo⟩ := info_apply htime hu none 0
  unfold Session.showUnits
  simp only [hjson, if_true]
  rw [bind_of_ok hinfo]
  refine ⟨_, (printsEnvelope_of_tells ?_).of_printed (u := u.tick) rfl⟩
  exact tells_toJson rfl rfl (by simp) (by simp)

end Printing

/-! ## Obstacles -/

/-- The fault of a result that is no failure of the runner, if there is one. -/
def obstacleOf {α : Type} : Except Fault α → Option Fault
  | .error (.outside kind message cause) => some (.outside kind message cause)
  | _ => none

/-- **What keeps a command from its envelope**: a fault before there is anything to tell that is no
failure of the runner. One that splits a script reads its text only. -/
def Session.obstacle? {σ : Type} (s : Session Call (Sqlite.Session σ) Lease Prepared)
    (task : Task) : Option Fault :=
  match task.command with
  | .split => obstacleOf (s.scriptText task.argument)
  | .run | .exec => obstacleOf (s.provide task)

/-- What a command has to tell: of the statements of a script nothing goes wrong. -/
def Session.tidings {σ : Type} (s : Session Call (Sqlite.Session σ) Lease Prepared) (task : Task)
    (w : World Call (Sqlite.Session σ)) : Except Fault Tidings :=
  match task.command with
  | .split => Tidings.of (fun _ => {}) (s.scriptText task.argument)
  | .run | .exec => Tidings.of .ofReport (s.body task w.tick).1

/-- **How a command ends that meets an obstacle**: one that runs something tells it to people on a
console if it is about a value. Else the fault goes on. -/
def EndsAt {κ τ : Type} (c : Console) (w : World κ τ) (ended : Except Fault Int × World κ τ)
    (command : Command) (e : Fault) : Prop :=
  if command ≠ .split ∧ e.isValueError then
    ended.1 = (Session.printError c e.message w).1.map (fun _ => 1) ∧
      ended.2.printed = (Session.printError c e.message w).2.printed
  else ended.1 = .error e ∧ ended.2.printed = w.printed

section Obstacles

variable {κ τ Conn Stmt : Type} {s : Session κ τ Conn Stmt} {w u : World κ τ} {task : Task}

/-- What is printed for people is up to what was printed before only. -/
theorem printError_congr (c : Console) (message : String) (h : u.printed = w.printed) :
    (Session.printError c message u).1 = (Session.printError c message w).1 ∧
      (Session.printError c message u).2.printed = (Session.printError c message w).2.printed := by
  obtain ⟨text, r, hprints⟩ := Console.onlyPrints_markup (κ := κ) (τ := τ) c
    s!"[red]✗ Error:[/red] {c.escape message}"
  unfold Session.printError
  rw [hprints, hprints, h]
  exact ⟨rfl, rfl⟩

/-- A command that runs something ends at an obstacle to it. -/
theorem endsAt_runTask {body : Action (World κ τ) ScriptReport} {v : World κ τ} {start : Float}
    {kind : Fault.Kind} {message : String} {cause : Option Fault} (hcommand : task.command ≠ .split)
    (hbody : body v = (.error (.outside kind message cause), u)) (hu : u.printed = w.printed) :
    EndsAt s.console w (s.runTask task body start v) task.command
      (.outside kind message cause) := by
  unfold Session.runTask EndsAt
  rw [bind_of_ok (attempt_of_apply hbody)]
  simp only [hcommand, ne_eq, not_false_eq_true, true_and]
  split
  · -- printing the error may raise a fault of its own, and then that is how it ends
    obtain ⟨hresult, hprinted⟩ := printError_congr s.console message hu
    cases hprint : Session.printError s.console message u with
    | mk r v =>
      rw [hprint] at hresult hprinted
      have hended : (Session.printError s.console message >>= fun _ => pure (1 : Int)) u =
          (r.map fun _ => 1, v) := by
        cases r with
        | error e => exact bind_of_error hprint
        | ok x => exact bind_of_ok hprint
      exact ⟨(congrArg Prod.fst hended).trans (congrArg (Except.map _) hresult),
        (congrArg (fun ended => ended.2.printed) hended).trans hprinted⟩
  · exact ⟨rfl, hu⟩

/-- An interrupt goes on as it is. -/
theorem runTask_of_interrupt {body : Action (World κ τ) ScriptReport} {v : World κ τ}
    {start : Float} {e : Fault} (hbody : body v = (.error e, u)) (he : e.isOrdinary = false) :
    s.runTask task body start v = (.error e, u) := by
  unfold Session.runTask
  rw [bind_of_ok (attempt_of_apply hbody)]
  cases e with
  | failure f => cases he
  | outside kind message cause => cases kind <;> first | rfl | cases he

end Obstacles

/-! ## Commands -/

section Commands

variable {κ τ Conn Stmt : Type} {s : Session κ τ Conn Stmt} {w u v : World κ τ} {task : Task}
  (htime : w.AlwaysHasTime) (htimes : u.times ⊆ w.times) (hprinted : u.printed = w.printed)
  (hjson : task.json = true)

include htime htimes hprinted hjson

/-- **A command that gives a report** prints its envelope. -/
theorem printsEnvelope_of_report {body : Action (World κ τ) ScriptReport} {report : ScriptReport}
    (hbody : body v = (.ok report, u)) (hreport : report.IsSerializable) :
    ∃ j, PrintsEnvelope w (s.runTask task body w.now v) task.command (.ofReport report) j := by
  obtain ⟨e, he⟩ := printsEnvelope_report (s := s) htime htimes hreport task.command
  refine ⟨e, PrintsEnvelope.of_printed ?_ hprinted⟩
  unfold Session.runTask
  rw [bind_of_ok (attempt_of_apply hbody)]
  simp only [hjson, if_true]
  exact he

/-- **A command that fails before a report** prints the envelope of its failure. -/
theorem printsEnvelope_of_failure {body : Action (World κ τ) ScriptReport} {f : Failure}
    (hbody : body v = (.error (.failure f), u)) :
    ∃ j, PrintsEnvelope w (s.runTask task body w.now v) task.command { failure := some f } j := by
  obtain ⟨e, he⟩ := printsEnvelope_fail htime htimes s.console task.command f
    (some s.config.databaseUrl)
  refine ⟨e, PrintsEnvelope.of_printed ?_ hprinted⟩
  unfold Session.runTask
  rw [bind_of_ok (attempt_of_apply hbody)]
  simp only [hjson]
  exact he

/-- **A script that is split** is shown in an envelope, or its failure to be read is; other faults
go on. -/
theorem printsEnvelope_of_split {r : Except Fault String}
    (hread : s.readScript task.argument v = (r, u)) :
    match obstacleOf r with
    | none => ∃ t j, Tidings.of (fun _ => {}) r = .ok t ∧
        PrintsEnvelope w (s.split task w.now v) task.command t j
    | some fault => s.split task w.now v = (.error fault, u) := by
  unfold Session.split
  rw [bind_of_ok (attempt_of_apply hread)]
  cases r with
  | ok script =>
    obtain ⟨e, he⟩ := printsEnvelope_showUnits htime htimes s.console hjson script
    exact ⟨_, e, rfl, he.of_printed hprinted⟩
  | error fault =>
    cases fault with
    | outside kind message cause => rfl
    | failure f =>
      obtain ⟨e, he⟩ := printsEnvelope_fail htime htimes s.console task.command f none
      refine ⟨_, e, rfl, PrintsEnvelope.of_printed ?_ hprinted⟩
      simp only [hjson]
      exact he

end Commands

/-! ## Commands on SQLite databases -/

section Sqlite

variable {σ : Type} {d : Driver σ} {config : Config} {surroundings : Surroundings}
  {console : Console} {task : Task} {w : World Call (Sqlite.Session σ)}

/-- An ending that is no interrupt is that of the command. -/
theorem exit_ofExit {exit : Except Fault Int} (h : ∀ e, exit = .error e → e.isOrdinary = true)
    (verbose : Bool) : (Ending.ofExit exit verbose).exit = exit := by
  unfold Ending.ofExit
  split
  · cases h _ rfl
  · rfl

/-- **How a command for programs ends.** There is an obstacle, and it ends at that; or it prints one
envelope of what it has to tell. -/
def EndsWell (s : Session Call (Sqlite.Session σ) Lease Prepared) (task : Task)
    (w : World Call (Sqlite.Session σ))
    (ended : Except Fault Int × World Call (Sqlite.Session σ)) : Prop :=
  match s.obstacle? task with
  | none => ∃ t j, s.tidings task w = .ok t ∧ PrintsEnvelope w ended task.command t j
  | some fault => EndsAt s.console w ended task.command fault

/-- **A script is split** for programs: it prints one envelope, unless there is an obstacle. -/
theorem endsWell_split (s : Session Call (Sqlite.Session σ) Lease Prepared)
    (hcommand : task.command = .split) (hjson : task.json = true) (htime : w.AlwaysHasTime) :
    EndsWell s task w (s.perform task w) := by
  obtain ⟨log, hread⟩ := s.readScript_apply task.argument w.tick
  have hperform : s.perform task w = s.split task w.now w.tick := by
    unfold Session.perform
    rw [bind_of_ok (show World.readClock w = (.ok w.now, w.tick) from rfl), hcommand]
  have hsplit := printsEnvelope_of_split htime w.times_tick_subset (u := { w.tick with log }) rfl
    hjson hread
  unfold EndsWell Session.obstacle? Session.tidings
  rw [hperform]
  simp only [hcommand] at hsplit ⊢
  cases hobstacle : obstacleOf (s.scriptText task.argument) with
  | none =>
    rw [hobstacle] at hsplit
    exact hsplit
  | some fault =>
    rw [hobstacle] at hsplit
    have hends : EndsAt s.console w (s.split task w.now w.tick) .split fault := by
      unfold EndsAt
      rw [if_neg (fun h => h.1 rfl), hsplit]
      exact ⟨rfl, rfl⟩
    exact hends

/-- **A script or a statement is run** for programs: it prints one envelope, unless there is an
obstacle. -/
theorem endsWell_of_ne_split (hcommand : task.command ≠ .split) (hjson : task.json = true)
    (htime : w.AlwaysHasTime) (hd : d.Delivers)
    (hclean : ∀ p, (sqliteSession d config surroundings console).provide task = .ok p →
      ¬ p.IsRefused task config.strictParameters → split p.text ≠ [] →
      d.CleansUp { w.outside with pool := p.pool } (p.items task))
    (hcalm : ∀ e, ((sqliteSession d config surroundings console).perform task w).1 = .error e →
      e.isOrdinary = true) :
    EndsWell (sqliteSession d config surroundings console) task w
      ((sqliteSession d config surroundings console).perform task w) := by
  let s := sqliteSession d config surroundings console
  have hobstacle : s.obstacle? task = obstacleOf (s.provide task) := by
    unfold Session.obstacle?
    cases hc : task.command <;> first | rfl | exact absurd hc hcommand
  have htidings : s.tidings task w = Tidings.of .ofReport (s.body task w.tick).1 := by
    unfold Session.tidings
    cases hc : task.command <;> first | rfl | exact absurd hc hcommand
  unfold EndsWell
  rw [perform_of_ne_split _ hcommand] at hcalm ⊢
  rw [show (sqliteSession d config surroundings console).obstacle? task = _ from hobstacle,
    show (sqliteSession d config surroundings console).tidings task w = _ from htidings]
  cases hprovide : s.provide task with
  | ok p =>
    -- nothing is in the way any more: the run gives a report, or it is interrupted
    obtain ⟨r, u, hbody, hafter, hreport, hinterrupted⟩ := told_of_body (w := w.tick) hd hjson
      (htime.mono w.times_tick_subset) hcommand hprovide (hclean p hprovide)
    have htimes : u.times ⊆ w.times := List.Subset.trans hafter.times w.times_tick_subset
    rw [show s.body task w.tick = (r, u) from hbody]
    cases r with
    | ok report =>
      obtain ⟨e, he⟩ := printsEnvelope_of_report (s := s) htime htimes hafter.printed hjson hbody
        (hreport report rfl)
      exact ⟨_, e, rfl, he⟩
    | error e =>
      have hordinary := hcalm e
        (congrArg Prod.fst (runTask_of_interrupt hbody (hinterrupted e rfl)))
      rw [hinterrupted e rfl] at hordinary
      cases hordinary
  | error e =>
    -- nothing was printed so far, and how the command ends is up to the kind of the fault
    obtain ⟨log, pool, hbody⟩ := body_apply s rfl task w.tick
    rw [hprovide] at hbody
    let stopped : World Call (Sqlite.Session σ) :=
      { w.tick with log, outside := { w.tick.outside with pool } }
    change s.body task w.tick = (.error e, stopped) at hbody
    cases e with
    | failure f =>
      obtain ⟨e, he⟩ := printsEnvelope_of_failure (s := s) (u := stopped) htime
        w.times_tick_subset rfl hjson hbody
      rw [hbody]
      exact ⟨_, e, rfl, he⟩
    | outside kind message cause => exact endsAt_runTask hcommand hbody rfl

/-- **A command for programs prints one envelope, unless there is an obstacle.** Time can be told,
cursors deliver values with a JSON form, and connections, cursors and the pool are given up without
a fault; and nobody interrupts the command. Then it prints one line, an envelope that tells its
failure, if it has one, and its exit code. Only if the text cannot be decoded, the database cannot
be opened or a parameter is not allowed, there is none, and an error for people instead, or
nothing. -/
theorem prints_envelope (kit : Toolkit) (d : Driver σ) {args : List String}
    (hinvokes : Invokes kit.validation surroundings args config task) (hjson : task.json = true)
    (w : World Call (Sqlite.Session σ)) (htime : w.AlwaysHasTime) (hd : d.Delivers)
    (hclean : task.command ≠ .split → ∀ p,
      (sqliteSession d config surroundings kit.console).provide task = .ok p →
      ¬ p.IsRefused task config.strictParameters → split p.text ≠ [] →
      d.CleansUp { w.outside with pool := p.pool } (p.items task))
    (hcalm : ∀ e, ((sqliteSession d config surroundings kit.console).perform task w).1 = .error e →
      e.isOrdinary = true) :
    EndsWell (sqliteSession d config surroundings kit.console) task w
      ((program kit (backends d) surroundings args w).1.exit,
        (program kit (backends d) surroundings args w).2) := by
  obtain ⟨verbose, hprogram⟩ := hinvokes.program_eq d w
  rw [hprogram]
  simp only [exit_ofExit hcalm]
  by_cases hcommand : task.command = .split
  · exact endsWell_split _ hcommand hjson htime
  · exact endsWell_of_ne_split hcommand hjson htime hd (hclean hcommand) hcalm

/-- **A driver that raises nothing cleans up** after every command that is provided for. -/
theorem cleansUp_of_provide (hquiet : ∀ e, ¬ d.Raises e)
    {s : Session Call (Sqlite.Session σ) Lease Prepared} {p : Session.Provisions}
    (hprovide : s.provide task = .ok p) (before : Sqlite.Session σ) :
    d.CleansUp { before with pool := p.pool } (p.items task) := by
  obtain ⟨-, hopen, n, hfree, hsize⟩ := of_newPool (of_provide_ok hprovide).2.1
  exact Driver.cleansUp_of_quiet hquiet hopen hfree hsize fun _ => placeholderCount_of_mem_items

/-- A driver that raises nothing delivers nothing. -/
theorem delivers_silent : (Driver.silent : Driver σ).Delivers where
  closes _ _ _ _ h := by
    rw [← Except.ok.inj (congrArg Prod.fst h)]
  values _ _ _ _ h := by
    rw [← Except.ok.inj (congrArg Prod.fst h)]
    exact fun _ hrow => nomatch hrow

/-- Time can be told of a clock that stands still. -/
theorem alwaysHasTime_of_clock_eq_nil {u : World Call (Sqlite.Session σ)} (h : u.clock = []) :
    u.AlwaysHasTime := by
  have hzero : ∃ ms, elapsedMilliseconds 0 0 = .ok ms := by
    have htime : ({ outside := () } : World Call Unit).HasTime := by decide +kernel
    exact htime
  have htimes : u.times = [0] := by
    rw [World.times, h]
    rfl
  intro start hstart finish hfinish
  rw [htimes] at hstart hfinish
  rw [List.mem_singleton.1 hstart, List.mem_singleton.1 hfinish]
  exact hzero

/-- A statement with a parameter, and a driver that raises nothing. -/
theorem prints_envelope_silent :
    let args := ["exec", "SELECT ?", "-p", "1", "--json"]
    let task : Task :=
      { command := .exec, argument := "SELECT ?", parameters := ["1"], json := true }
    let d : Driver Unit := .silent
    let s := sqliteSession d {} {} .terminal
    let w : World Call (Sqlite.Session Unit) := { outside := { driver := () } }
    Invokes .lenient {} args {} task ∧ task.json = true ∧ w.AlwaysHasTime ∧ d.Delivers ∧
      (task.command ≠ .split → ∀ p, s.provide task = .ok p → ¬ p.IsRefused task false →
        split p.text ≠ [] → d.CleansUp { w.outside with pool := p.pool } (p.items task)) ∧
      (∀ e, (s.perform task w).1 = .error e → e.isOrdinary = true) ∧
      EndsWell s task w ((program .standard (backends d) {} args w).1.exit,
        (program .standard (backends d) {} args w).2) := by
  intro args task d s w
  have hinvokes : Invokes .lenient {} args {} task := invokes_parameter
  have htime : w.AlwaysHasTime := alwaysHasTime_of_clock_eq_nil rfl
  have hclean : task.command ≠ .split → ∀ p, s.provide task = .ok p → ¬ p.IsRefused task false →
      split p.text ≠ [] → d.CleansUp { w.outside with pool := p.pool } (p.items task) :=
    fun _ _ hprovide _ _ => cleansUp_of_provide Driver.not_raises_silent hprovide w.outside
  have hperform : (s.perform task w).1 = .ok 0 := eq_ok_of_toOption (by decide +kernel)
  have hcalm : ∀ e, (s.perform task w).1 = .error e → e.isOrdinary = true := by
    intro e he
    cases hperform.symm.trans he
  exact ⟨hinvokes, rfl, htime, delivers_silent, hclean, hcalm,
    prints_envelope .standard d hinvokes rfl w htime delivers_silent hclean hcalm⟩

/-- A database of a kind that the program does not know is an obstacle: the error is told to people
who asked for an envelope. -/
theorem not_prints_envelope_unknown :
    let surroundings : Surroundings :=
      { environment := [("SQLRUNNER_DATABASE_URL", "mysql://localhost/db")] }
    let args := ["exec", "SELECT 1", "--json"]
    let config : Config := { databaseUrl := "mysql://localhost/db" }
    let task : Task := { command := .exec, argument := "SELECT 1", json := true }
    let d : Driver Unit := .silent
    let w : World Call (Sqlite.Session Unit) := { outside := { driver := () } }
    let ended := program .standard (backends d) surroundings args w
    Invokes .lenient surroundings args config task ∧ task.json = true ∧ w.AlwaysHasTime ∧
      d.Delivers ∧
      (∀ p, (sqliteSession d config surroundings .terminal).provide task = .ok p →
        d.CleansUp { w.outside with pool := p.pool } (p.items task)) ∧
      ended.1.exit = .ok 1 ∧
      ended.2.printed =
        "✗ Error: No database backend for scheme 'mysql'. Available backends: sqlite\n" ∧
      ¬ ∃ t j, PrintsEnvelope w (ended.1.exit, ended.2) task.command t j := by
  intro surroundings args config task d w ended
  have hrequest : readRequest surroundings.files args =
      .ok (.command {} .exec ["SELECT 1", "--json"]) := by cbv
  have hconfig : Config.ofSources .lenient surroundings.environment (Globals.overrides {}) =
      .ok config := by cbv
  have htask : readTask .exec ["SELECT 1", "--json"] = .ok (some task) :=
    eq_ok_of_toOption (by decide +kernel)
  have hprinted : ended.2.printed =
      "✗ Error: No database backend for scheme 'mysql'. Available backends: sqlite\n" := by
    decide +kernel
  refine ⟨.intro hrequest hconfig htask, rfl, alwaysHasTime_of_clock_eq_nil rfl, delivers_silent,
    fun p hprovide => cleansUp_of_provide Driver.not_raises_silent hprovide w.outside,
    eq_ok_of_toOption (by decide +kernel), hprinted, ?_⟩
  -- the text of an object begins with a brace, and what is printed does not
  rintro ⟨t, j, ⟨⟨text, hwritten, htext, -⟩, code, -, htells⟩⟩
  obtain ⟨fields, rfl, -⟩ := htells.fields
  have hline := congrArg String.toList (hprinted.symm.trans hwritten)
  have hbrace := htext.head?_object
  cases hchars : text.toList with
  | nil => simp [hchars] at hbrace
  | cons c cs =>
    rw [hchars, List.head?_cons, Option.some.injEq] at hbrace
    rw [String.toList_append, String.toList_append, hchars, hbrace] at hline
    cases congrArg List.head? hline

end Sqlite

end SqlScript.CommandLine
