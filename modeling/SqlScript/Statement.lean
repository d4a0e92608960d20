import SqlScript.Splitter

/-!
# Statement units

A unit is one executable statement with its place in the script and the number of its positional
placeholders. Placeholders are the question marks outside quotes and comments.

* `countPlaceholders`: the number of placeholders of a text.
* `parseScript`: the units of a script.
* `parseStatement`: a text as one unit, without splitting it.
-/

namespace SqlScript

/-- Counts the placeholders of a text that is read from the reader `s` on. -/
def countPlaceholdersFrom (s : Lexer) : List Char → Nat
  | [] => 0
  | c :: cs =>
    (if s.region = .normal ∧ c = '?' then 1 else 0) + countPlaceholdersFrom (s.advance c) cs

/-- **The placeholders of a text**: the question marks outside quotes and comments. -/
def countPlaceholders (statement : String) : Nat := countPlaceholdersFrom {} statement.toList

/-- One executable statement of a script. -/
structure StatementUnit where
  index : Int
  sql : String
  placeholderCount : Nat
  deriving DecidableEq, Repr

/-- The unit of a statement at a place of its script. -/
def StatementUnit.ofText (index : Nat) (sql : String) : StatementUnit :=
  ⟨index, sql, countPlaceholders sql⟩

/-- **The units of a script**, numbered from zero. -/
def parseScript (script : String) : List StatementUnit :=
  (split script).mapIdx StatementUnit.ofText

/-- The text that is sent for a statement given on its own: without blanks at its ends and without
one semicolon at its end. Comments stay. -/
def statementText (cs : List Char) : List Char :=
  let text := Text.trim cs
  if text.getLast? = some ';' then Text.trimRight text.dropLast else text

/-- **A text as one unit.** It is not split, so semicolons inside it stay. -/
def parseStatement (text : String) : StatementUnit :=
  .ofText 0 (String.ofList (statementText text.toList))

end SqlScript
