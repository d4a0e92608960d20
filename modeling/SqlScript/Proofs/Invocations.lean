import SqlScript.CommandLine.Program
import SqlScript.Proofs.Executions
import SqlScript.Proofs.PoolStep

/-!
# What an invocation comes to

To run a script or a statement the program reads its text, opens the database, and reads the
parameters. Each of these can fail, and then nothing was asked of the database; else a runner takes
over, and the pool is closed after it.

* `Invokes`: what arguments ask for.
* `Session.provide`: what a command needs before a runner takes over.
* `Session.body_of_provide_ok`, `Session.body_of_provide_error`: **a command is what it is provided
  with, and then its run.**
-/

namespace SqlScript.CommandLine

open SqlScript.Action
open SqlScript.Sqlite (Pool Lease Prepared Driver Call PoolAction)

variable {σ : Type}

/-! ## Arguments -/

deriving instance DecidableEq for CommandLine.Task

/-- A result that there is, told without the faults there could be. -/
theorem eq_ok_of_toOption {ε α : Type} {r : Except ε α} {x : α} (h : r.toOption = some x) :
    r = .ok x := by
  cases r with
  | error e => cases h
  | ok y => exact congrArg Except.ok (Option.some.inj h)

/-- **What arguments ask for**: a command with its options, under a configuration. -/
inductive Invokes (v : Config.Validation) (surroundings : Surroundings) (args : List String) :
    Config → Task → Prop
  | intro {globals : Globals} {command : Command} {rest : List String} {config : Config}
      {task : Task} :
      readRequest surroundings.files args = .ok (.command globals command rest) →
      Config.ofSources v surroundings.environment globals.overrides = .ok config →
      readTask command rest = .ok (some task) → Invokes v surroundings args config task

/-- A statement with a parameter, executed for programs. -/
theorem invokes_parameter : Invokes .lenient {} ["exec", "SELECT ?", "-p", "1", "--json"] {}
    { command := .exec, argument := "SELECT ?", parameters := ["1"], json := true } := by
  have hrequest : readRequest {} ["exec", "SELECT ?", "-p", "1", "--json"] =
      .ok (.command {} .exec ["SELECT ?", "-p", "1", "--json"]) := by cbv
  have hconfig : Config.ofSources .lenient [] (Globals.overrides {}) = .ok {} := by cbv
  exact .intro hrequest hconfig (eq_ok_of_toOption (by decide +kernel))

/-- The session of a command on SQLite databases. -/
abbrev sqliteSession (d : Driver σ) (config : Config) (surroundings : Surroundings)
    (console : Console) : Session Call (Sqlite.Session σ) Lease Prepared :=
  ⟨backends d, config, surroundings, console⟩

/-- The program performs the command that its arguments ask for. -/
theorem Invokes.program_eq {kit : Toolkit} {surroundings : Surroundings} {args : List String}
    {config : Config} {task : Task} (h : Invokes kit.validation surroundings args config task)
    (d : Driver σ) (w : World Call (Sqlite.Session σ)) :
    ∃ verbose, program kit (backends d) surroundings args w =
      (.ofExit ((sqliteSession d config surroundings kit.console).perform task w).1 verbose,
        ((sqliteSession d config surroundings kit.console).perform task w).2) := by
  cases h with
  | @intro globals command rest config task hrequest hconfig htask =>
    refine ⟨globals.verbose, ?_⟩
    unfold program dispatch
    simp only [hrequest, hconfig, htask]

namespace Session

/-! ## Texts -/

section Texts

variable {κ τ Conn Stmt : Type} (s : Session κ τ Conn Stmt)

/-- **The text of a script**, or why it cannot be read. -/
def scriptText (script : String) : Except Fault String :=
  if script = standardInput then s.readInput
  else s.loader.read s.surroundings.files (.ofString script)

/-- To read a script changes the log at most. -/
theorem readScript_apply (script : String) (w : World κ τ) :
    ∃ log, s.readScript script w = (s.scriptText script, { w with log }) := by
  unfold readScript scriptText
  split
  · exact ⟨w.log, rfl⟩
  · exact ⟨_, rfl⟩

/-- The text that a command is about: one that executes a statement is given it. -/
def textOf (task : Task) : Except Fault String :=
  match task.command with
  | .exec => .ok task.argument
  | .run | .split => s.scriptText task.argument

end Texts

/-! ## Before a runner takes over -/

/-- **What a command is provided with.** -/
structure Provisions where
  text : String
  pool : Pool
  parameters : List Value

variable (s : Session Call (Sqlite.Session σ) Lease Prepared)

/-- The new pool of a database, or why it cannot be opened. -/
def newPool : Except Fault Pool := do
  let (_, location) ← s.registry.resolve s.config.databaseUrl
  (Pool.ofConfig location s.config).1

/-- What a command needs besides its text. -/
def provideFor (task : Task) (text : String) : Except Fault Provisions := do
  let pool ← s.newPool
  let parameters ← task.parameters.mapM Value.ofArgument
  return { text, pool, parameters }

/-- **What a command needs** to run, or the first reason why it cannot be had. -/
def provide (task : Task) : Except Fault Provisions := do
  let text ← s.textOf task
  s.provideFor task text

/-- What a command that runs something gives. -/
def body (task : Task) : PoolAction σ ScriptReport :=
  match task.command with
  | .exec => s.exec task
  | .run | .split => s.run task

/-- What a command has a runner do. -/
def runWith (c : Console) (task : Task) (p : Provisions)
    (r : Runner Call (Sqlite.Session σ) Lease Prepared) : PoolAction σ ScriptReport :=
  match task.command with
  | .exec => r.presentStatement c p.text p.parameters (!task.json)
  | .run | .split =>
    r.presentScript c (sourceName task.argument) p.text p.parameters (!task.json)

end Session

/-! ## A command as a whole -/

section Commands

variable {d : Driver σ} {config : Config} {surroundings : Surroundings} {task : Task}
  {w : World Call (Sqlite.Session σ)} {p : Session.Provisions} {e : Fault}

/-- The program opens SQLite databases, and no others. -/
theorem resolve_backends (d : Driver σ) (url : String) :
    (∃ location, (backends d).resolve url = .ok (openSqlite d, location)) ∨
      ∃ e, (backends d).resolve url = .error e := by
  unfold Registry.resolve
  extract_lets parts
  cases hopener : (backends d).get? parts.scheme with
  | none => exact .inr ⟨_, rfl⟩
  | some opener =>
    refine .inl ⟨parts.location, ?_⟩
    obtain ⟨entry, hentry, rfl⟩ := Option.map_eq_some_iff.1 hopener
    rw [List.mem_singleton.1 (List.mem_of_find?_eq_some hentry)]

/-- A database is opened with a new pool, if there can be one. -/
theorem openSqlite_apply (d : Driver σ) (location : String) (config : Config)
    (w : World Call (Sqlite.Session σ)) :
    ∃ log, openSqlite d location config w = match (Pool.ofConfig location config).1 with
      | .ok pool => (.ok (Sqlite.backend d), { w with log, outside := { w.outside with pool } })
      | .error e => (.error e, { w with log }) := by
  unfold openSqlite
  cases Pool.ofConfig location config with
  | mk pool note =>
    cases note <;> cases pool <;> exact ⟨_, rfl⟩

/-- **A runner for an action** is on a new pool, which is closed after it. Where there can be no
pool there is no runner. -/
theorem withRunner_apply {α : Type} (s : Session Call (Sqlite.Session σ) Lease Prepared)
    (hs : s.registry = backends d)
    (action : Runner Call (Sqlite.Session σ) Lease Prepared → PoolAction σ α)
    (w : World Call (Sqlite.Session σ)) :
    ∃ log, s.withRunner action w = match s.newPool with
      | .ok pool => Action.ensure
          (action (Sqlite.runner d s.loader s.config.strictParameters)) (Pool.close d)
          { w with log, outside := { w.outside with pool } }
      | .error e => (.error e, { w with log }) := by
  unfold Session.withRunner Session.newPool Registry.openUrl
  rw [hs]
  rcases resolve_backends d s.config.databaseUrl with ⟨location, hresolve⟩ | ⟨e, hresolve⟩
  · obtain ⟨log, hopened⟩ := openSqlite_apply d location s.config w
    refine ⟨log, ?_⟩
    rw [hresolve]
    show ((openSqlite d location s.config >>= _ : PoolAction σ α)) w =
      match (Pool.ofConfig location s.config).1 with | .ok pool => _ | .error e => _
    cases hpool : (Pool.ofConfig location s.config).1 with
    | ok pool =>
      rw [hpool] at hopened
      exact bind_of_ok hopened
    | error e =>
      rw [hpool] at hopened
      exact bind_of_error hopened
  · rw [hresolve]
    exact ⟨w.log, rfl⟩

/-- A pool that is sized by a configuration has a slot. -/
theorem exists_units_of_ofConfig {location : String} {config : Config} {pool : Pool}
    (h : (Pool.ofConfig location config).1 = .ok pool) :
    ∃ n, pool.size.units? = some (n + 1) := by
  unfold Pool.ofConfig Pool.create at h
  extract_lets single note size at h
  have hwhole : ∃ k, size = .whole k := by
    by_cases hsingle : single
    · exact ⟨1, if_pos hsingle⟩
    · exact ⟨config.poolSize, if_neg hsingle⟩
  obtain ⟨k, hk⟩ := hwhole
  split at h
  · cases h
  · rename_i hbelow
    rw [← Except.ok.inj h, hk]
    rw [hk] at hbelow
    have hone : 1 ≤ k := by simpa [Sqlite.Amount.isBelowOne] using hbelow
    exact ⟨k.toNat - 1, congrArg some (by omega)⟩

/-- **A new pool** has no connections yet, and all of its slots are free. -/
theorem of_newPool {s : Session Call (Sqlite.Session σ) Lease Prepared} {pool : Pool}
    (h : s.newPool = .ok pool) : pool.idle = [] ∧ pool.closed = false ∧
      ∃ n, pool.free = some (n + 1) ∧ pool.size.units? = some (n + 1) := by
  unfold Session.newPool at h
  cases hresolve : s.registry.resolve s.config.databaseUrl with
  | error e =>
    rw [hresolve] at h
    cases h
  | ok found =>
    rw [hresolve] at h
    obtain ⟨hfree, hidle, -, hopen⟩ := Pool.of_create h
    obtain ⟨n, hn⟩ := exists_units_of_ofConfig h
    exact ⟨hidle, hopen, n, hfree.trans hn, hn⟩

/-- **What a command is provided with** is its text, a new pool, and the values of its
arguments. -/
theorem of_provide_ok {s : Session Call (Sqlite.Session σ) Lease Prepared}
    (h : s.provide task = .ok p) : s.textOf task = .ok p.text ∧ s.newPool = .ok p.pool ∧
      task.parameters.mapM Value.ofArgument = .ok p.parameters := by
  unfold Session.provide at h
  cases htext : s.textOf task with
  | error e =>
    rw [htext] at h
    cases h
  | ok text =>
    rw [htext] at h
    change s.provideFor task text = .ok p at h
    unfold Session.provideFor at h
    cases hpool : s.newPool with
    | error e =>
      rw [hpool] at h
      cases h
    | ok pool =>
      rw [hpool] at h
      cases hparameters : task.parameters.mapM Value.ofArgument with
      | error e =>
        rw [hparameters] at h
        cases h
      | ok parameters =>
        rw [hparameters] at h
        rw [← Except.ok.inj h]
        exact ⟨rfl, rfl, rfl⟩

/-- A pool in which no connection waits is closed without a request. -/
theorem close_of_idle_eq_nil (h : w.outside.pool.idle = []) :
    Pool.close d w = (.ok (), { w with outside := { w.outside with
      pool := { w.outside.pool with closed := true } } }) := by
  show Pool.closeIdle d w.outside.pool.idle _ = _
  rw [h]
  rfl

/-- A runner that is given the parameters of a command, once its text is known. -/
theorem withRunner_parameters (task : Task) (s : Session Call (Sqlite.Session σ) Lease Prepared)
    (hs : s.registry = backends d) (text : String)
    (action : Runner Call (Sqlite.Session σ) Lease Prepared → String → List Value →
      PoolAction σ ScriptReport) (w : World Call (Sqlite.Session σ)) :
    ∃ log pool, s.withRunner (fun r => do
        let parameters ← Session.readParameters task
        action r text parameters) w = match s.provideFor task text with
      | .ok p => Action.ensure
          (action (Sqlite.runner d s.loader s.config.strictParameters) p.text p.parameters)
          (Pool.close d) { w with log, outside := { w.outside with pool := p.pool } }
      | .error e => (.error e, { w with log, outside := { w.outside with pool } }) := by
  obtain ⟨log, hrun⟩ := withRunner_apply s hs
    (fun r => Session.readParameters task >>= action r text) w
  unfold Session.provideFor
  cases hpool : s.newPool with
  | error e =>
    rw [hpool] at hrun
    exact ⟨log, w.outside.pool, hrun⟩
  | ok pool =>
    rw [hpool] at hrun
    refine ⟨log, { pool with closed := true }, hrun.trans ?_⟩
    unfold Session.readParameters
    cases hparameters : task.parameters.mapM Value.ofArgument with
    | ok parameters => rfl
    | error e =>
      -- the new pool is closed again: no connection waits in it
      let u : World Call (Sqlite.Session σ) := { w with log, outside := { w.outside with pool } }
      have hclose : Pool.close d u = _ := close_of_idle_eq_nil (of_newPool hpool).1
      show Action.ensure (Action.ofExcept (.error e) >>= _) (Pool.close d) u = _
      unfold Action.ensure
      rw [bind_of_error (show Action.ofExcept (.error e) u = (.error e, u) from rfl)]
      simp only [hclose]
      rfl

/-- **A command is what it is provided with, and then its run**, on a new pool that is closed after
it. A command that is not provided for asks nothing of the database. -/
theorem body_apply (s : Session Call (Sqlite.Session σ) Lease Prepared)
    (hs : s.registry = backends d) (task : Task) (w : World Call (Sqlite.Session σ)) :
    ∃ log pool, s.body task w = match s.provide task with
      | .ok p => Action.ensure
          (Session.runWith s.console task p (Sqlite.runner d s.loader s.config.strictParameters))
          (Pool.close d) { w with log, outside := { w.outside with pool := p.pool } }
      | .error e => (.error e, { w with log, outside := { w.outside with pool } }) := by
  have hscript : ∃ log pool, s.run task w = match (do
        let text ← s.scriptText task.argument
        s.provideFor task text : Except Fault Session.Provisions) with
      | .ok p => Action.ensure
          ((Sqlite.runner d s.loader s.config.strictParameters).presentScript s.console
            (Session.sourceName task.argument) p.text p.parameters (!task.json))
          (Pool.close d) { w with log, outside := { w.outside with pool := p.pool } }
      | .error e => (.error e, { w with log, outside := { w.outside with pool } }) := by
    unfold Session.run
    obtain ⟨log, hread⟩ := s.readScript_apply task.argument w
    cases htext : s.scriptText task.argument with
    | error e =>
      rw [htext] at hread
      exact ⟨log, w.outside.pool, bind_of_error hread⟩
    | ok text =>
      rw [htext] at hread
      obtain ⟨log', pool, hrun⟩ := withRunner_parameters task s hs text
        (fun r text parameters =>
          r.presentScript s.console (Session.sourceName task.argument) text parameters
            (!task.json))
        { w with log }
      exact ⟨log', pool, (bind_of_ok hread).trans hrun⟩
  unfold Session.body Session.runWith Session.provide Session.textOf
  cases task.command with
  | exec =>
    exact withRunner_parameters task s hs task.argument
      (fun r text parameters => r.presentStatement s.console text parameters (!task.json)) w
  | run => exact hscript
  | split => exact hscript

/-- A command that runs something reads the clock first. -/
theorem perform_of_ne_split (s : Session Call (Sqlite.Session σ) Lease Prepared)
    (h : task.command ≠ .split) (w : World Call (Sqlite.Session σ)) :
    s.perform task w = s.runTask task (s.body task) w.now w.tick := by
  have hstart : World.readClock w = (.ok w.now, w.tick) := rfl
  unfold Session.perform Session.body
  rw [bind_of_ok hstart]
  cases hcommand : task.command with
  | run => rfl
  | exec => rfl
  | split => exact absurd hcommand h

end Commands

end SqlScript.CommandLine
