import SqlScript.Value

/-!
# Cursors

What executing a statement gives: the labels of its columns if it has a row set, the rows that
will be delivered, and the faults that reading and closing will raise.

* `Cursor`: the type.
-/

namespace SqlScript

/-- **A cursor** before its first row. -/
structure Cursor where
  /-- The labels of the columns, or `none` if the statement has no row set. -/
  columns : Option (List Value) := none
  /-- The rows that are delivered. -/
  rows : List (List Value) := []
  rowCount : Int := -1
  /-- What is raised after the delivered rows, if anything. -/
  readFault : Option Fault := none
  /-- What closing raises, if anything. -/
  closeFault : Option Fault := none
  deriving Inhabited

end SqlScript
