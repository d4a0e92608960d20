import SqlScript.Console.StyledText
import SqlScript.Text.Width

/-!
# The screen

What of a printed text is seen on the screen of a terminal.

* `Screen.visible`: a text without control characters.
* `Screen.expandTabs`: a line with blanks for its tabs.
* `Screen.lines`, `Screen.line`: the lines of a text, and the text as it is printed.
-/

namespace SqlScript.Screen

open Console

/-- A control character that a terminal is not sent: the bell, and what moves the cursor. -/
def isMotion (c : Char) : Bool := [7, 8, 11, 12, 13].contains c.toNat

/-- The text without characters that move the cursor. -/
def visible (cs : List Char) : List Char := cs.filter (!isMotion ·)

/-- The columns between two stops of a tab. -/
def tabStop : Nat := 8

/-- The parts of a line, each but the last with the tab that ends it. -/
def tabParts (cs : List Char) : List (List Char) :=
  let parts := Text.splitAtChar '\t' cs
  parts.dropLast.map (· ++ ['\t']) ++ parts.drop (parts.length - 1)

/-- Joins the parts of a line, the first of which starts in a column, with blanks for the tabs at
their ends. -/
def joinTabs (column : Nat) : List StyledText → StyledText
  | [] => ⟨[], []⟩
  | [part] => part
  | part :: parts =>
    -- a tab is at least one blank
    let part := { part with chars := part.chars.dropLast ++ [' '] }
    let reached := column + Text.width part.chars
    let next := (reached + tabStop - 1) / tabStop * tabStop
    (part.extend (next - reached)).append (joinTabs next parts)

/-- **Blanks for the tabs of a line**, up to the next stop. -/
def expandTabs (t : StyledText) : StyledText :=
  if t.chars.contains '\t' then joinTabs 0 (t.slices 0 0 (tabParts t.chars)) else t

/-- The lines of a printed text, as they are seen. -/
def lines (t : StyledText) : List StyledText := t.splitLines.map expandTabs

/-- **A printed text**, with the newline after it. Its styles are read for it. -/
def line (t : StyledText) : Except Fault String := do
  let lines := lines t
  lines.forM StyledText.readStyles
  return String.ofList (['\n'].intercalate (lines.map (·.chars)) ++ ['\n'])

end SqlScript.Screen
