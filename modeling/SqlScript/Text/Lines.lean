/-!
# Lines

Two readings of line breaks. Input texts come with any of the three usual line endings and are
read as if every line ended in a newline. A statement's label is its first line, where the
separators and the line and paragraph breaks of Unicode end a line too.

* `unifyNewlines`: the three line endings read as one.
* `firstLine`: the text up to the first break.
-/

namespace SqlScript.Text

/-- **Line endings as newlines**: a carriage return, with or without a newline after it, is read
as a newline. -/
def unifyNewlines : List Char → List Char
  | [] => []
  | '\r' :: '\n' :: rest => '\n' :: unifyNewlines rest
  | '\r' :: rest => '\n' :: unifyNewlines rest
  | c :: rest => c :: unifyNewlines rest

/-- A character that ends a line of a label. -/
def isLineBreak (c : Char) : Bool :=
  let n := c.toNat
  (10 ≤ n && n ≤ 13) || (0x1c ≤ n && n ≤ 0x1e) || n == 0x85 || n == 0x2028 || n == 0x2029

/-- The text before its first line break. -/
def firstLine (cs : List Char) : List Char := cs.takeWhile fun c => !isLineBreak c

end SqlScript.Text
