import SqlScript.Sqlite.Pool
import SqlScript.Statement
import SqlScript.Text.Blank
import SqlScript.Text.LetterCase

/-!
# Prepared statements

SQLite compiles a statement when it is executed. To prepare a statement is therefore to have it
explained, which compiles it and does nothing else; a statement that asks for an explanation itself
is left alone.

* `Prepared`: a statement with the values bound to it.
* `Prepared.prepare`, `Prepared.bind`, `Prepared.execute`: the operations.
* `Sqlite.backend`: the backend of a pool.
-/

namespace SqlScript.Sqlite

variable {σ : Type}

/-- **A prepared statement** on a connection. -/
structure Prepared where
  connection : Nat
  sql : String
  parameterCount : Nat
  bindings : Bindings := []

namespace Prepared

/-- The word that a statement begins with which asks for an explanation. -/
def explainWord : List Char := "EXPLAIN".toList

/-- **Whether a statement asks for an explanation itself**: after blanks at its start. -/
def asksExplanation (sql : String) : Bool :=
  Text.spells explainWord ((Text.trimLeft sql.toList).take explainWord.length)

/-- The text that has a statement explained. -/
def explanation (sql : String) : String := "EXPLAIN " ++ sql

/-- Has a statement compiled, with nulls for its parameters. -/
def compile (d : Driver σ) (connection : Nat) (sql : String) (parameterCount : Nat) :
    PoolAction σ Unit := do
  if asksExplanation sql then return ()
  else
    let cursor ← d.ask
      (.execute connection (explanation sql) (List.replicate parameterCount .null))
    World.closeCursor .closeCursor cursor

/-- **Prepares a statement.** -/
def prepare (d : Driver σ) (connection : Nat) (sql : String) : PoolAction σ Prepared := do
  let parameterCount := countPlaceholders sql
  compile d connection sql parameterCount
  return { connection, sql, parameterCount }

/-- **Binds a value** to a position, counted from one. -/
def bind (s : Prepared) (position : Int) (value : Value) : Except Fault Prepared :=
  if position < 1 then
    .error (.of .badIndex s!"Parameter index must be 1-based, got {position}")
  else .ok { s with bindings := s.bindings.bind position value }

/-- **Executes a statement** with the bound values in the order of their positions. -/
def execute (d : Driver σ) (s : Prepared) : PoolAction σ Cursor :=
  d.ask (.execute s.connection s.sql s.bindings.values)

end Prepared

/-- **The backend** of a pool of connections. -/
def backend (d : Driver σ) : Backend Call (Session σ) Lease Prepared where
  acquire := Pool.acquire d
  release := Pool.release d
  prepare l := Prepared.prepare d l.connection
  bind s position value := Action.ofExcept (s.bind position value)
  execute := Prepared.execute d
  closeCursor := World.closeCursor .closeCursor
  commit l := d.tell (.commit l.connection)
  rollback l := d.tell (.rollback l.connection)
  close := Pool.close d

end SqlScript.Sqlite
