import SqlScript.Text.Width

/-!
# Graphemes

The pieces of a text that a terminal shows as one: a character with all that fills no column behind
it, with what a joiner ties to it, and with its emoji selector.

* `Grapheme`: characters, with the columns that they fill together.
* `graphemes`: the graphemes of a text.
* `startOf`: the start of graphemes in a number of columns.
* `flatten_graphemes`: no character is lost.
-/

namespace SqlScript.Text

/-- **A grapheme**: characters that are shown as one, with the columns that they fill. -/
structure Grapheme where
  chars : List Char
  columns : Nat
  deriving DecidableEq, Repr

/-- The grapheme with more characters that fill no column. -/
def Grapheme.join (g : Grapheme) (cs : List Char) : Grapheme := { g with chars := g.chars ++ cs }

/-- The graphemes from `g` on, which a text continues. `last` is the character that a selector
would widen. -/
def graphemesFrom (g : Grapheme) (last : Option Char) : List Char → List Grapheme
  | [] => [g]
  | c :: cs =>
    if isJoiner c then
      match cs with
      | [] => [g.join [c]]
      | d :: cs => graphemesFrom (g.join [c, d]) last cs
    else if isEmojiSelector c then
      if last.any (isIn selectableRanges) then
        graphemesFrom { g.join [c] with columns := g.columns + 1 } none cs
      else graphemesFrom (g.join [c]) last cs
    else if charWidth c = 0 then graphemesFrom (g.join [c]) last cs
    else g :: graphemesFrom ⟨[c], charWidth c⟩ (some c) cs

/-- **The graphemes of a text.** Only the first can be without columns. -/
def graphemes : List Char → List Grapheme
  | [] => []
  | c :: cs => graphemesFrom ⟨[c], charWidth c⟩ (if charWidth c = 0 then none else some c) cs

/-- **The start of graphemes** that fills a number of columns. Half of a wide one is a blank, and
no column holds nothing at all. -/
def startOf : Nat → List Grapheme → List Char
  | 0, _ | _, [] => []
  | columns, g :: gs =>
    if g.columns ≤ columns then g.chars ++ startOf (columns - g.columns) gs else [' ']

/-- No character is lost from a grapheme on. -/
theorem flatten_graphemesFrom (g : Grapheme) (last : Option Char) (cs : List Char) :
    ((graphemesFrom g last cs).map Grapheme.chars).flatten = g.chars ++ cs := by
  fun_induction graphemesFrom g last cs <;> simp_all [Grapheme.join]

/-- No character is lost among graphemes. -/
theorem flatten_graphemes (cs : List Char) :
    ((graphemes cs).map Grapheme.chars).flatten = cs := by
  cases cs with
  | nil => rfl
  | cons c cs => simp [graphemes, flatten_graphemesFrom]

end SqlScript.Text
