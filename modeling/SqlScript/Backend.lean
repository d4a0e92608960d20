import SqlScript.Cursor
import SqlScript.World

/-!
# Backends

What a runner needs from a database: connections that are inside a transaction already, statements
that are prepared, bound by position and executed, and cursors that are closed.

* `Backend`: the operations.
* `World.closeCursor`: closing a cursor, which raises what the cursor says.
* `Bindings`: the values bound to the positions of a statement.
-/

namespace SqlScript

/-- Closes a cursor, which is a request `call` too. -/
def World.closeCursor {κ τ : Type} (call : κ) (cursor : Cursor) :
    Action (World κ τ) Unit := fun w =>
  let w := { w with trace := w.trace ++ [call] }
  match cursor.closeFault with
  | none => (.ok (), w)
  | some e => (.error e, w)

/-- **A backend**: `Conn` are its connections and `Stmt` its prepared statements. -/
structure Backend (κ τ Conn Stmt : Type) where
  /-- Gives out a connection with an open transaction. -/
  acquire : Action (World κ τ) Conn
  /-- Takes back a connection. -/
  release : Conn → Action (World κ τ) Unit
  prepare : Conn → String → Action (World κ τ) Stmt
  /-- Binds a value to a position, counted from one. -/
  bind : Stmt → Int → Value → Action (World κ τ) Stmt
  execute : Stmt → Action (World κ τ) Cursor
  closeCursor : Cursor → Action (World κ τ) Unit
  commit : Conn → Action (World κ τ) Unit
  rollback : Conn → Action (World κ τ) Unit
  /-- Closes the source of the connections. -/
  close : Action (World κ τ) Unit

/-- **Bindings**: values by position, the positions in increasing order. -/
abbrev Bindings := List (Int × Value)

namespace Bindings

/-- Binds a value to a position; a value bound there before is replaced. -/
def bind (b : Bindings) (position : Int) (value : Value) : Bindings :=
  match b with
  | [] => [(position, value)]
  | (p, v) :: rest =>
    if position < p then (position, value) :: (p, v) :: rest
    else if position = p then (position, value) :: rest
    else (p, v) :: bind rest position value

/-- The bound values in the order of their positions. -/
def values (b : Bindings) : List Value := b.map (·.2)

/-- The positions with a value. -/
def positions (b : Bindings) : List Int := b.map (·.1)

/-- The value that is bound to a position. -/
def get? (b : Bindings) (position : Int) : Option Value :=
  (b.find? (·.1 == position)).map (·.2)

theorem get?_cons (p : Int) (v : Value) (b : Bindings) (position : Int) :
    get? ((p, v) :: b) position = if p = position then some v else b.get? position := by
  by_cases h : p = position <;> simp [get?, h]

/-- A position has the value that was bound to it last. -/
theorem get?_bind (b : Bindings) (position : Int) (value : Value) (other : Int) :
    (b.bind position value).get? other = if position = other then some value else b.get? other := by
  induction b with
  | nil => rw [bind, get?_cons]
  | cons e rest ih =>
    obtain ⟨p, v⟩ := e
    rw [bind]
    split
    · rw [get?_cons]
    · split
      · rename_i h; subst h
        rw [get?_cons, get?_cons]
        split <;> rfl
      · rename_i h
        rw [get?_cons, get?_cons, ih]
        by_cases hp : p = other
        · rw [if_pos hp, if_pos hp, if_neg fun e => h (e.trans hp.symm)]
        · rw [if_neg hp, if_neg hp]

end Bindings

end SqlScript
