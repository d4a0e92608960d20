import SqlScript.Files.Tree
import SqlScript.Request
import SqlScript.Sqlite.Driver

/-!
# Rehearsals

A stand-in for a database, to try out scripts without one. What it answers is laid down by rules;
where no rule applies, a request succeeds and there is no row set.

* `Rule`, `Occasion`: the rules, and what they look at.
* `Rule.pick`: the rule that applies.
* `responder`, `sqliteDriver`: the stand-ins.
-/

namespace SqlScript.Rehearsal

/-- The kinds of requests that rules tell apart. -/
inductive Verb where
  | acquire
  | connect
  | prepare
  | bind
  | execute
  | commit
  | rollback
  | release
  | close
  | closePool
  deriving DecidableEq, Repr

/-- What a rule can look at. -/
structure Occasion where
  verb : Verb
  sql : Option String := none
  connection : Option Nat := none
  /-- The number of parameters. -/
  parameters : Nat := 0

/-- **A rule**: when it applies, and what happens then. -/
structure Rule where
  verb : Verb
  /-- The text that it waits for, if not any. -/
  sql : Option String := none
  /-- The connection that it waits for, if not any. -/
  connection : Option Nat := none
  /-- How often it is passed over before it applies. -/
  skip : Nat := 0
  /-- How often it applies, if not always. -/
  times : Option Nat := none
  /-- What it raises. -/
  fault : Option Fault := none
  /-- The only number of parameters that it takes. -/
  arity : Option Nat := none
  /-- What it answers. -/
  cursor : Option Cursor := none
  /-- What the connection is in after it executed a text: a transaction or none. -/
  inTransaction : Option Bool := none

namespace Rule

/-- Whether a rule is about an occasion. -/
def isAbout (r : Rule) (o : Occasion) : Bool :=
  r.verb == o.verb && (r.sql.isNone || r.sql == o.sql)
    && (r.connection.isNone || r.connection == o.connection)

/-- **The first rule that applies** to an occasion, and the rules as they are afterwards. -/
def pick (o : Occasion) : List Rule → Option Rule × List Rule
  | [] => (none, [])
  | r :: rules =>
    let pass (r : Rule) : Option Rule × List Rule :=
      let (picked, rules) := pick o rules
      (picked, r :: rules)
    if !r.isAbout o then pass r
    else if 0 < r.skip then pass { r with skip := r.skip - 1 }
    else match r.times with
      | none => (some r, r :: rules)
      | some 0 => pass r
      | some (n + 1) => (some r, { r with times := some n } :: rules)

/-- The fault of a wrong number of parameters. -/
def wrongArity (takes given : Nat) : Fault :=
  .of (.database .programming) <| "Incorrect number of bindings supplied. "
    ++ s!"The current statement uses {takes}, and there are {given} supplied."

/-- What a rule answers. -/
def reply (r : Rule) (o : Occasion) : Except Fault Cursor :=
  match r.fault, r.arity with
  | some e, _ => .error e
  | none, some n =>
    if o.parameters = n then .ok (r.cursor.getD {}) else .error (wrongArity n o.parameters)
  | none, none => .ok (r.cursor.getD {})

end Rule

/-- What is answered on an occasion. -/
def replyOn (o : Occasion) (picked : Option Rule) : Except Fault Cursor :=
  match picked with
  | some r => r.reply o
  | none => .ok {}

/-! ## A plain database -/

/-- The occasion of a request. -/
def occasion : Request → Option Occasion
  | .acquire => some { verb := .acquire }
  | .prepare sql => some { verb := .prepare, sql := some sql }
  | .bind sql _ _ => some { verb := .bind, sql := some sql }
  | .execute sql parameters =>
    some { verb := .execute, sql := some sql, parameters := parameters.length }
  | .closeCursor => none
  | .commit => some { verb := .commit }
  | .rollback => some { verb := .rollback }
  | .release => some { verb := .release }
  | .close => some { verb := .closePool }

/-- **A plain database** that follows rules. -/
def responder : Responder (List Rule) := fun request rules =>
  match occasion request with
  | none => (.ok {}, rules)
  | some o =>
    let (picked, rules) := Rule.pick o rules
    (replyOn o picked, rules)

/-! ## SQLite -/

/-- The state of a rehearsed SQLite. -/
structure Stage where
  rules : List Rule := []
  /-- The connections inside a transaction. -/
  inTransaction : List Nat := []
  files : FileTree := {}

namespace Stage

/-- Notes whether a connection is inside a transaction. -/
def setInTransaction (s : Stage) (connection : Nat) (inside : Bool) : Stage :=
  let others := s.inTransaction.filter (· != connection)
  { s with inTransaction := if inside then connection :: others else others }

/-- The text that begins a transaction. -/
def beginText : String := "BEGIN IMMEDIATE"

/-- Whether a connection is inside a transaction after a successful request, if that changes it.
What a rule says of a text that is executed goes before the text. -/
def transactionAfter (picked : Option Rule) : Sqlite.Call → Option (Nat × Bool)
  | .execute connection sql _ =>
    match picked.bind (·.inTransaction) with
    | some inside => some (connection, inside)
    | none => if sql = beginText then some (connection, true) else none
  | .commit connection | .rollback connection => some (connection, false)
  | _ => none

/-- The occasion of a request on a connection. -/
def occasion : Sqlite.Call → Option Occasion
  | .connect n _ _ => some { verb := .connect, connection := some n }
  | .execute n sql parameters => some ⟨.execute, some sql, some n, parameters.length⟩
  | .commit n => some { verb := .commit, connection := some n }
  | .rollback n => some { verb := .rollback, connection := some n }
  | .close n => some { verb := .close, connection := some n }
  | .closeCursor => none

/-- The state after the answer to a request: one that fails changes nothing. -/
def settle (s : Stage) (picked : Option Rule) (call : Sqlite.Call)
    (reply : Except Fault Cursor) : Stage :=
  match reply, transactionAfter picked call with
  | .ok _, some (connection, inside) => s.setInTransaction connection inside
  | _, _ => s

/-- **Answers a request.** -/
def answer (call : Sqlite.Call) (s : Stage) : Except Fault Cursor × Stage :=
  match occasion call with
  | none => (.ok {}, s)
  | some o =>
    let (picked, rules) := Rule.pick o s.rules
    let s := { s with rules }
    let reply := replyOn o picked
    (reply, s.settle picked call reply)

/-- Makes a directory with those above it. -/
def makeDirectories (p : Path) (s : Stage) : Except Fault Unit × Stage :=
  let (reply, files) := s.files.makeDirectories p
  (reply, { s with files })

end Stage

/-- **A SQLite driver** that follows rules. -/
def sqliteDriver : Sqlite.Driver Stage where
  answer := Stage.answer
  makeDirectories := Stage.makeDirectories
  inTransaction s connection := s.inTransaction.contains connection

end SqlScript.Rehearsal
