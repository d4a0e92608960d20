import SqlScript.Backend
import SqlScript.Files.Path
import SqlScript.Number.Format

/-!
# The SQLite driver

What a connection pool asks of SQLite: to open connections, to execute SQL on them, and to end
their transactions. Connections are known by the number of the request that opened them.

* `Sqlite.Amount`: sizes and times.
* `Sqlite.Call`: the requests.
* `Sqlite.Driver`: whatever answers them.
-/

namespace SqlScript.Sqlite

/-- **An amount** as a caller gives it: the size of a pool, or a time to wait in seconds. It is
shown in the form in which it was given; a truth value counts as one or zero. -/
inductive Amount where
  | flag (b : Bool)
  | whole (n : Int)
  | fractional (x : Float)

namespace Amount

/-- The amount as a value. -/
def value : Amount → Value
  | flag b => .bool b
  | whole n => .int n
  | fractional x => .float x

/-- The text of an amount. -/
def text (a : Amount) : String := a.value.display

/-- Whether an amount is exactly one. -/
def isOne : Amount → Bool
  | flag b => b
  | whole n => n == 1
  | fractional x => x == 1

/-- Whether an amount is less than one. What is no number is not. -/
def isBelowOne : Amount → Bool
  | flag b => !b
  | whole n => n < 1
  | fractional x => x < 1

/-- How often one can be taken from an amount until exactly nothing is left, if that is ever so. -/
def units? : Amount → Option Nat
  | flag b => some b.toNat
  | whole n => some n.toNat
  | fractional x =>
    if Number.isWhole x then some (Number.truncate x).toNat else none

/-- The fault of a time that is too long to wait for: a clock counts nanoseconds in 63 bits. -/
def overlong : Fault := .of .overflow "timestamp too large to convert to C _PyTime_t"

/-- Why nobody can wait for an amount of seconds, if nobody can. What is no number is waited for
without end, and nothing is said of that here. -/
def unwaitable? : Amount → Option Fault
  | flag _ => none
  | whole n =>
    if !Number.isFinite (Number.ofInt n) then
      some (.of .overflow "int too large to convert to float")
    else if (Number.wordLimit : Int) ≤ n * 1000000000 then some overlong
    else none
  | fractional x => if Number.ofInt Number.wordLimit ≤ x * 1e9 then some overlong else none

end Amount

/-- **A request** to SQLite. -/
inductive Call where
  /-- Opens a database on a new connection; locked databases are waited for up to `timeout`. -/
  | connect (connection : Nat) (database : String) (timeout : Amount)
  | execute (connection : Nat) (sql : String) (parameters : List Value)
  | commit (connection : Nat)
  | rollback (connection : Nat)
  | close (connection : Nat)
  | closeCursor

/-- **A driver** with states `σ`: it answers requests, makes directories for databases, and tells
which connections are inside a transaction. -/
structure Driver (σ : Type) where
  answer : Call → σ → Except Fault Cursor × σ
  makeDirectories : Path → σ → Except Fault Unit × σ
  inTransaction : σ → Nat → Bool

end SqlScript.Sqlite
