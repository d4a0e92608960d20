import SqlScript.Cursor
import SqlScript.Failure
import SqlScript.World

/-!
# Snapshots

A copy of a statement's row set that outlives its connection. Reading the rows can fail at any
row; the cursor is closed whether it does or not.

* `Row`, `Row.ofCells`: a row by the labels of its columns.
* `Snapshot`, `Snapshot.read`: the copy, and what reading a cursor gives.
* `Snapshot.toList`, `Snapshot.first?`, `Snapshot.scalar`: what is handed out of it.
* `Snapshot.materialize`: reading a cursor and closing it.
-/

namespace SqlScript

/-- A row: each label with its value, in the order of the columns. No label stands twice. -/
abbrev Row := List (String × Value)

namespace Row

/-- Sets the value of a label; a label that is there already keeps its place. -/
def put (row : Row) (label : String) (value : Value) : Row :=
  match row with
  | [] => [(label, value)]
  | (l, v) :: rest => if l = label then (l, value) :: rest else (l, v) :: put rest label value

/-- The value of a label. -/
def get? (row : Row) (label : String) : Option Value :=
  (row.find? (·.1 == label)).map (·.2)

/-- Adds cells to a row, each under its label. Labels without a cell and cells without a label
are left out. -/
def addCells (row : Row) : List String → List Value → Except Fault Row
  | label :: labels, cell :: cells => do
    let value ← cell.normalize
    addCells (row.put label value) labels cells
  | _, _ => .ok row

/-- **A row from its cells**: a label that stands twice keeps its first place and its last
value. -/
def ofCells (labels : List String) (cells : List Value) : Except Fault Row :=
  addCells [] labels cells

theorem keys_put (row : Row) (label : String) (value : Value) :
    (row.put label value).map (·.1) =
      if label ∈ row.map (·.1) then row.map (·.1) else row.map (·.1) ++ [label] := by
  induction row with
  | nil => simp [put]
  | cons p rest ih =>
    obtain ⟨l, v⟩ := p
    by_cases h : l = label
    · simp [put, h]
    · have h' : label ≠ l := fun e => h e.symm
      simp only [put, h, if_false, List.map_cons, ih, List.mem_cons, h', false_or]
      split <;> simp

theorem get?_cons (l : String) (v : Value) (row : Row) (label : String) :
    get? ((l, v) :: row) label = if l = label then some v else row.get? label := by
  by_cases h : l = label <;> simp [get?, h]

theorem get?_put (row : Row) (label : String) (value : Value) (other : String) :
    (row.put label value).get? other = if label = other then some value else row.get? other := by
  induction row with
  | nil => rw [put, get?_cons]
  | cons p rest ih =>
    obtain ⟨l, v⟩ := p
    rw [put]
    by_cases h : l = label
    · subst h
      rw [if_pos rfl, get?_cons, get?_cons]
      split <;> rfl
    · rw [if_neg h, get?_cons, get?_cons, ih]
      by_cases h' : l = other
      · rw [if_pos h', if_pos h', if_neg fun e => h (h'.trans e.symm)]
      · rw [if_neg h', if_neg h']

end Row

/-- **A snapshot**: the labels of the columns and the rows, in the order of the cursor. -/
structure Snapshot where
  columns : List String
  rows : List Row

namespace Snapshot

/-- What reading a cursor to its end gives. -/
def read (cursor : Cursor) : Except Fault Snapshot := do
  let columns := (cursor.columns.getD []).map Value.display
  let rows ← cursor.rows.mapM (Row.ofCells columns)
  match cursor.readFault with
  | some e => throw e
  | none => return ⟨columns, rows⟩

/-- The rows as they are handed out one after the other. Rows are values, so that what becomes of
them elsewhere does not change the snapshot. -/
def toList (s : Snapshot) : List Row := s.rows

/-- The first row. -/
def first? (s : Snapshot) : Option Row := s.rows.head?

/-- The first column of the first row; null where there is none. A first row that is too short to
have the column is a fault. -/
def scalar (s : Snapshot) : Except Fault Value :=
  match s.rows, s.columns with
  | row :: _, label :: _ =>
    match row.get? label with
    | some value => .ok value
    | none => .error (.of .missingKey (Text.quoted label))
  | _, _ => .ok .null

/-- **Reads a cursor to its end and closes it.** An ordinary fault of reading is reported for the
statement at `index`; closing happens in any case. -/
def materialize {κ τ : Type} (close : Cursor → Action (World κ τ) Unit) (cursor : Cursor)
    (index : Option Int) : Action (World κ τ) Snapshot := do
  let snapshot ← Action.ensure
    (Action.reporting (Failure.materializationFailed index) (Action.ofExcept (read cursor)))
    (close cursor)
  let n := snapshot.rows.length
  let columns := Text.quotedList snapshot.columns
  World.say .debug s!"Materialized {n} row(s) with columns {columns}"
  return snapshot

end Snapshot

end SqlScript
