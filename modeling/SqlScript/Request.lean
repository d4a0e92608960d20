import SqlScript.Backend

/-!
# Requests

A backend that passes each of its operations on to a database as one request, and keeps nothing
itself but the statements.

* `Request`: the requests.
* `Responder`: a database that answers them.
* `Responder.backend`: the backend.
-/

namespace SqlScript

/-- **A request** to a database. -/
inductive Request where
  | acquire
  | prepare (sql : String)
  | bind (sql : String) (position : Int) (value : Value)
  /-- Executes a statement with the values bound to it. -/
  | execute (sql : String) (parameters : List Value)
  | closeCursor
  | commit
  | rollback
  | release
  | close

/-- **A database** that answers requests: with a fault or a cursor, in each of its states `σ`. -/
abbrev Responder (σ : Type) := Request → σ → Except Fault Cursor × σ

namespace Responder

variable {σ : Type}

/-- Makes a request. -/
def ask (r : Responder σ) (request : Request) : Action (World Request σ) Cursor := fun w =>
  match r request w.outside with
  | (reply, s) => (reply, { w with outside := s, trace := w.trace ++ [request] })

/-- Makes a request whose answer does not matter. -/
def tell (r : Responder σ) (request : Request) : Action (World Request σ) Unit := do
  let _ ← r.ask request

/-- A statement with the values bound to it. -/
structure Prepared where
  sql : String
  bindings : Bindings := []

/-- **The backend** of a database that answers requests. What closing a cursor raises is known to
the cursor. -/
def backend (r : Responder σ) : Backend Request σ Unit Prepared where
  acquire := r.tell .acquire
  release _ := r.tell .release
  prepare _ sql := do
    r.tell (.prepare sql)
    return { sql }
  bind s position value := do
    r.tell (.bind s.sql position value)
    return { s with bindings := s.bindings.bind position value }
  execute s := r.ask (.execute s.sql s.bindings.values)
  closeCursor cursor := World.closeCursor .closeCursor cursor
  commit _ := r.tell .commit
  rollback _ := r.tell .rollback
  close := r.tell .close

end Responder

end SqlScript
