import SqlScript.Console.Style
import SqlScript.Text.Split
import SqlScript.Text.Surrogate

/-!
# Styled texts

A text with stretches that have a style. A style is known by its description, which is read only
when the text is shown, so that a stretch that was cut off does no harm.

* `Span`, `StyledText`: a stretch, and a text with its stretches.
* `StyledText.slice`, `StyledText.divide`, `StyledText.splitLines`: parts of a text.
* `StyledText.append`, `StyledText.take`, `StyledText.extend`: changes at its end.
* `StyledText.readStyles`: the look at its styles.
-/

namespace SqlScript.Console

/-- A stretch of a text, from one place up to another, with the description of its style. -/
structure Span where
  start : Nat
  stop : Nat
  style : List Char
  deriving DecidableEq, Repr

/-- **A text with styles.** Of two faulty styles the first in the list counts. -/
structure StyledText where
  chars : List Char
  spans : List Span := []
  deriving DecidableEq, Repr

namespace Span

/-- The part of a stretch inside a slice, unless it is empty. -/
def slice? (s : Span) (start stop : Nat) : Option Span :=
  let first := max s.start start
  let last := min s.stop stop
  if first < last then some { s with start := first - start, stop := last - start } else none

/-- The part of a stretch that begins in the first `n` characters. -/
def take? (s : Span) (n : Nat) : Option Span :=
  if s.start < n then some { s with stop := min s.stop n } else none

/-- A stretch `n` places further on. -/
def shift (s : Span) (n : Nat) : Span := { s with start := s.start + n, stop := s.stop + n }

end Span

namespace StyledText

/-- The characters from one place up to another, with the stretches that are not empty there. -/
def slice (t : StyledText) (start stop : Nat) : StyledText where
  chars := (t.chars.drop start).take (stop - start)
  spans := t.spans.filterMap (·.slice? start stop)

/-- Slices one after the other, from a place on, as long as `pieces`. After each one, `gap`
characters are left out. -/
def slices (t : StyledText) (gap start : Nat) : List (List Char) → List StyledText
  | [] => []
  | piece :: pieces =>
    let stop := start + piece.length
    t.slice start stop :: t.slices gap (stop + gap) pieces

/-- **A text in pieces**, which make it up. A text in one piece keeps even empty stretches. -/
def divide (t : StyledText) (pieces : List (List Char)) : List StyledText :=
  if pieces.length ≤ 1 then [t] else t.slices 0 0 pieces

/-- **The lines of a text.** A text of one line keeps even empty stretches. -/
def splitLines (t : StyledText) : List StyledText :=
  let lines := Text.splitAtChar '\n' t.chars
  if lines.length ≤ 1 then [t] else t.slices 1 0 lines

/-- A text with another one behind it. -/
def append (t u : StyledText) : StyledText where
  chars := t.chars ++ u.chars
  spans := t.spans ++ u.spans.map (·.shift t.chars.length)

/-- A text with `n` blanks behind it, over which the stretches at its end reach. -/
def extend (t : StyledText) (n : Nat) : StyledText where
  chars := t.chars ++ List.replicate n ' '
  spans := t.spans.map fun s => if t.chars.length ≤ s.stop then { s with stop := s.stop + n } else s

/-- The first characters of a text, with the stretches that begin there. A text that is not longer
stays as it is. -/
def take (t : StyledText) (n : Nat) : StyledText :=
  if n < t.chars.length then ⟨t.chars.take n, t.spans.filterMap (·.take? n)⟩ else t

/-- A text that starts like another one and has its stretches, those that begin in it if it is
shorter. -/
def reword (t : StyledText) (cs : List Char) : StyledText :=
  if Text.size cs < Text.size t.chars then ⟨cs, t.spans.filterMap (·.take? cs.length)⟩
  else { t with chars := cs }

/-- **Reads the styles of a text.** What describes no style is as good as a style, but a color that
cannot be read is not. -/
def readStyles (t : StyledText) : Except Fault Unit :=
  t.spans.forM fun s => do
    let _ ← Style.ofText s.style

end StyledText

end SqlScript.Console
