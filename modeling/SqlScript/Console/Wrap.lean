import SqlScript.Console.StyledText
import SqlScript.Text.Blank
import SqlScript.Text.Grapheme

/-!
# Wrapping

Lines that are broken between words, so that each fits into a number of columns. A word takes the
blanks behind it along, and they may stand out over the last column.

* `Wrap.words`: the words of a line, with their blanks.
* `Wrap.fill`: the lines that words fill.
* `Wrap.fit`: a line made no wider than its columns.
* `Wrap.flatten_words`, `Wrap.flatten_fill`: nothing is lost before lines are made to fit.
-/

namespace SqlScript.Wrap

open Console (StyledText)

/-- The runs of a line: each is one word with the blanks behind it, but the first may be blanks
alone. -/
def runs : List Char → List (List Char)
  | [] => []
  | c :: cs =>
    match runs cs with
    | [] => [[c]]
    | [] :: rest => [c] :: rest
    | (d :: run) :: rest =>
      if Text.isBlank c && !Text.isBlank d then [c] :: (d :: run) :: rest
      else (c :: d :: run) :: rest

/-- **The words of a line**, each with the blanks behind it; the first has those before it too. -/
def words (cs : List Char) : List (List Char) :=
  match runs cs with
  | first :: second :: rest =>
    if first.all Text.isBlank then (first ++ second) :: rest else first :: second :: rest
  | rest => rest

/-- **The lines that words fill**, after a line that holds `line` in `used` columns. A word that
does not fit goes on the next line; one that fits on no line has a line of its own. -/
def fill (columns : Nat) (line : List Char) (used : Nat) : List (List Char) → List (List Char)
  | [] => [line]
  | word :: rest =>
    let needed := Text.width (Text.trimRight word)
    if used + needed ≤ columns then fill columns (line ++ word) (used + Text.width word) rest
    else if line.isEmpty then fill columns word (Text.width word) rest
    else if columns < needed ∨ 0 < used then line :: fill columns word (Text.width word) rest
    else fill columns (line ++ word) used rest

/-- A text with blanks up to a number of columns. -/
def pad (columns : Nat) (cs : List Char) : List Char :=
  cs ++ List.replicate (columns - Text.width cs) ' '

/-- The text without blanks at its end that make it longer than a number of characters. -/
def dropExcess (most : Nat) (t : StyledText) : StyledText :=
  let blanks := t.chars.length - (Text.trimRight t.chars).length
  t.take (t.chars.length - min blanks (Text.size t.chars - most))

/-- **A line made no wider than its columns**: if it is too wide, it is cut and ends in an
ellipsis. -/
def fit (columns : Nat) (t : StyledText) : StyledText :=
  let t := dropExcess columns t
  if columns < Text.width t.chars then
    t.reword (Text.startOf (columns - 1) (Text.graphemes t.chars) ++ ['…'])
  else t

/-- **A line in lines** of a number of columns. -/
def lines (columns : Nat) (t : StyledText) : List StyledText :=
  (t.divide (fill columns [] 0 (words t.chars))).map (fit columns)

/-- No character is lost among runs. -/
theorem flatten_runs (cs : List Char) : (runs cs).flatten = cs := by
  fun_induction runs cs with
  | case1 => rfl
  | case2 c cs h ih => simp_all
  | case3 c cs rest h ih => simp_all
  | case4 c cs d run rest h _ ih => simp_all
  | case5 c cs d run rest h _ ih => simp_all

/-- No character is lost among words. -/
theorem flatten_words (cs : List Char) : (words cs).flatten = cs := by
  have h := flatten_runs cs
  unfold words
  split
  · split <;> simp_all
  · exact h

/-- Words fill lines with all their characters. -/
theorem flatten_fill (columns : Nat) (line : List Char) (used : Nat) (ws : List (List Char)) :
    (fill columns line used ws).flatten = line ++ ws.flatten := by
  induction ws generalizing line used with
  | nil => simp [fill]
  | cons word rest ih =>
    simp only [fill]
    split
    · simp [ih]
    · split
      · rename_i h
        simp [ih, List.isEmpty_iff.mp h]
      · split <;> simp [ih]

end SqlScript.Wrap
