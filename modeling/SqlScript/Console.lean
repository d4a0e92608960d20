import SqlScript.World

/-!
# Consoles

What reports are printed with. A console reads the lines and the tables that it is given as markup,
with tags for styles, and tells how to escape a text that is no markup. How it lays them out is
its own affair.

* `Console`: a console.
* `Console.printMarkup`, `Console.printText`, `Console.printTable`: printing on it.
-/

namespace SqlScript

/-- **A console**, by what it makes of texts. Each gives what is printed for them, or a fault. -/
structure Console where
  /-- The markup that stands for a text. -/
  escape : String → String
  /-- A line of markup. -/
  markup : String → Except Fault String
  /-- A line in which tags have no meaning. -/
  text : String → Except Fault String
  /-- A table with markup for its column labels, and for the cells of each row. -/
  table : List String → List (List String) → Except Fault String

namespace Console

variable {κ τ : Type}

/-- Prints a line that is read as markup. -/
def printMarkup (c : Console) (markup : String) : Action (World κ τ) Unit := do
  World.print (← Action.ofExcept (c.markup markup))

/-- Prints a line in which tags have no meaning. -/
def printText (c : Console) (text : String) : Action (World κ τ) Unit := do
  World.print (← Action.ofExcept (c.text text))

/-- Prints a table whose texts are read as markup. -/
def printTable (c : Console) (header : List String) (rows : List (List String)) :
    Action (World κ τ) Unit := do
  World.print (← Action.ofExcept (c.table header rows))

end Console

end SqlScript
