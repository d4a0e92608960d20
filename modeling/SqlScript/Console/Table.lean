import SqlScript.Console.Screen
import SqlScript.Console.Wrap
import SqlScript.Text.Lines

/-!
# Tables

A table for a terminal: a box with a header in heavy lines and rows in light ones. Each column is
as wide as its widest line, and each row as high as its highest cell.

* `Table`: the texts of the header and the cells.
* `Table.text`: the box.
-/

namespace SqlScript

open Console (StyledText)

/-- **A table**: the texts of its header and of the cells of its rows. -/
structure Table where
  header : List StyledText
  rows : List (List StyledText)

namespace Table

/-- **The width of a cell**: that of its widest line, where any line break ends a line. -/
def cellWidth (t : StyledText) : Nat :=
  ((Text.splitBy Text.isLineBreak t.chars).map Text.width).foldl max 0

/-- The lines of a cell in a column: those that newlines end, each in as many as it needs. Their
styles are read for them. A column without width has room for no line. -/
def cellLines (columns : Nat) (t : StyledText) : Except Fault (List (List Char)) := do
  let lines := if columns = 0 then [] else (Screen.lines t).flatMap (Wrap.lines columns)
  lines.forM StyledText.readStyles
  return lines.map (·.chars)

/-- Where a cell stands in a row that is higher than it. -/
inductive Placement where
  | top
  | bottom

/-- The lines of a cell, with empty ones up to the height of its row. -/
def Placement.fill (place : Placement) (height : Nat) (lines : List (List Char)) :
    List (List Char) :=
  let missing := List.replicate (height - lines.length) []
  match place with
  | top => lines ++ missing
  | bottom => missing ++ lines

/-- The widths of the columns, for those that the header has. -/
def widths (t : Table) : List Nat :=
  t.header.mapIdx fun i label =>
    t.rows.foldl (fun w row => max w (cellWidth (row.getD i ⟨[], []⟩))) (cellWidth label)

/-- The characters that one horizontal line of the box is made of. -/
structure Border where
  left : Char
  fill : Char
  middle : Char
  right : Char

/-- A horizontal line of the box. -/
def Border.line (b : Border) (ws : List Nat) : List Char :=
  let parts := ws.map fun w => List.replicate (w + 2) b.fill
  b.left :: [b.middle].intercalate parts ++ [b.right, '\n']

/-- The lines of a row: `bar` stands between its cells. -/
def rowText (bar : Char) (place : Placement) (ws : List Nat) (cells : List StyledText) :
    Except Fault (List Char) := do
  let columns ← (ws.zip cells).mapM fun (w, cell) => do return (w, ← cellLines w cell)
  let height := (columns.map (·.2.length)).foldl max 1
  return (List.range height).flatMap fun i =>
    let parts := columns.map fun (w, lines) =>
      ' ' :: Wrap.pad w ((place.fill height lines).getD i []) ++ [' ']
    bar :: [bar].intercalate parts ++ [bar, '\n']

/-- The line above the header. -/
def top : Border := ⟨'┏', '━', '┳', '┓'⟩

/-- The line between the header and the rows. -/
def belowHeader : Border := ⟨'┡', '━', '╇', '┩'⟩

/-- The line below the rows. -/
def bottom : Border := ⟨'└', '─', '┴', '┘'⟩

/-- **The table as text.** The labels of the header stand just above its line, the cells of a row at
its top. Without columns it is an empty line. -/
def text (t : Table) : Except Fault String := do
  if t.header.isEmpty then return "\n"
  else
    let ws := t.widths
    let header ← rowText '┃' .bottom ws t.header
    let rows ← t.rows.mapM (rowText '│' .top ws)
    return String.ofList
      (top.line ws ++ header ++ belowHeader.line ws ++ rows.flatten ++ bottom.line ws)

end Table

end SqlScript
