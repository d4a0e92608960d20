import SqlScript.Lexer
import SqlScript.Text.Blank

/-!
# Splitting a script into statements

A semicolon outside quotes and comments ends a statement. Comments are removed, line breaks and
tabs outside quotes become separators, and quoted text is kept as it is.

* `Splitter`, `Splitter.step`: the splitter and its step.
* `splitChars`, `split`: the statements of a script.
-/

namespace SqlScript

/-- **The splitter**: its reader, the statement being collected (last character first), and the
statements that are finished (last one first). -/
structure Splitter where
  lexer : Lexer := {}
  buffer : List Char := []
  finished : List (List Char) := []
  deriving DecidableEq, Repr

namespace Splitter

/-- The characters that outside quotes only separate words: newline, carriage return, tab. -/
def isSeparator (c : Char) : Bool := c == '\n' || c == '\r' || c == '\t'

/-- Adds a separating space unless the collected text is empty or ends in a blank. -/
def addSpace (buffer : List Char) : List Char :=
  match buffer with
  | [] => []
  | c :: _ => if Text.isBlank c then buffer else ' ' :: buffer

/-- Ends the statement being collected; one without any text is dropped. -/
def finish (s : Splitter) : Splitter :=
  let statement := Text.trim s.buffer.reverse
  { s with
    buffer := []
    finished := if statement.isEmpty then s.finished else statement :: s.finished }

/-- **One step of the splitter.** The second character of a comment's opener takes the first one
back out of the collected text; a comment that ends leaves at most one space behind. -/
def step (s : Splitter) (c : Char) : Splitter :=
  let after := s.lexer.advance c
  let s' := { s with lexer := after }
  match s.lexer.region with
  | .normal =>
    if after.region.isComment then { s' with buffer := s.buffer.tail }
    else if c = ';' then s'.finish
    else if isSeparator c then { s' with buffer := addSpace s.buffer }
    else { s' with buffer := c :: s.buffer }
  | .doubleQuote | .singleQuote => { s' with buffer := c :: s.buffer }
  | .blockComment | .lineComment =>
    if after.region = .normal then { s' with buffer := addSpace s.buffer } else s'

/-- The splitter after a text. -/
def scan (s : Splitter) (cs : List Char) : Splitter := cs.foldl step s

@[simp] theorem scan_nil (s : Splitter) : s.scan [] = s := rfl

@[simp] theorem scan_cons (s : Splitter) (c : Char) (cs : List Char) :
    s.scan (c :: cs) = (s.step c).scan cs := rfl

theorem scan_append (s : Splitter) (as bs : List Char) :
    s.scan (as ++ bs) = (s.scan as).scan bs := List.foldl_append

/-- The statements collected so far, the unfinished one included. -/
def statements (s : Splitter) : List (List Char) := s.finish.finished.reverse

/-- The splitter's reader is the reader of the text. -/
theorem lexer_step (s : Splitter) (c : Char) : (s.step c).lexer = s.lexer.advance c := by
  unfold step finish
  cases s.lexer.region <;> simp only <;> repeat' split
  all_goals rfl

theorem lexer_scan (s : Splitter) (cs : List Char) : (s.scan cs).lexer = s.lexer.scan cs := by
  induction cs generalizing s with
  | nil => rfl
  | cons c cs ih => simp [ih, lexer_step]

end Splitter

/-- The statements of a script: trimmed, none empty, in the order of the text. -/
def splitChars (cs : List Char) : List (List Char) := (Splitter.scan {} cs).statements

/-- **The statements of a script.** -/
def split (script : String) : List String := (splitChars script.toList).map String.ofList

end SqlScript
