import SqlScript.Console
import SqlScript.Console.Markup
import SqlScript.Console.Table

/-!
# Terminals

The console of the program: a terminal without colors that is wide enough for all that is printed.

* `Console.terminal`: the console.
-/

namespace SqlScript.Console

/-- A line of markup on a terminal. -/
def terminalMarkup (markup : String) : Except Fault String := do
  Screen.line (← Markup.render markup)

/-- A line without markup on a terminal. Codes of emoji have a meaning nevertheless. -/
def terminalText (text : String) : Except Fault String :=
  Screen.line ⟨Screen.visible (showEmoji text.toList), []⟩

/-- A table on a terminal. The labels are read before the rows. -/
def terminalTable (header : List String) (rows : List (List String)) : Except Fault String := do
  let labels ← header.mapM Markup.render
  let rows ← rows.mapM fun row => row.mapM Markup.render
  Table.text ⟨labels, rows⟩

/-- **The console of a terminal.** -/
def terminal : Console where
  escape := Markup.escape
  markup := terminalMarkup
  text := terminalText
  table := terminalTable

end SqlScript.Console
