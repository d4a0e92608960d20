/-!
# Blank characters

The characters that count as blank space when a statement is trimmed, and when the
splitter decides whether a separator is still needed.

* `isBlank`: the class.
* `trim`, `trimLeft`, `trimRight`: a text without blanks at its ends.
* `unpadded`: the text of a number without the blanks around it.
* `isBlank_of_isWhitespace`: the class holds all of ASCII's white space.
* `exists_trimLeft`, `exists_trimRight`: trimming takes away blanks, and nothing else.
* `trim_trim`: a trimmed text has nothing more to trim.
-/

namespace SqlScript.Text

/-- **Blank space**: the ASCII white space with the four separators from U+001C, the next-line
character, and the space separators and line breaks of Unicode. The zero-width space and the
byte order mark are not blank. -/
def isBlank (c : Char) : Bool :=
  let n := c.toNat
  (9 ≤ n && n ≤ 13) || (0x1c ≤ n && n ≤ 0x20) || n == 0x85 || n == 0xa0 || n == 0x1680
    || (0x2000 ≤ n && n ≤ 0x200a) || n == 0x2028 || n == 0x2029 || n == 0x202f || n == 0x205f
    || n == 0x3000

/-- The text without the blanks at its start. -/
def trimLeft (cs : List Char) : List Char := cs.dropWhile isBlank

/-- The text without the blanks at its end. -/
def trimRight (cs : List Char) : List Char := (cs.reverse.dropWhile isBlank).reverse

/-- The text without the blanks at its ends. -/
def trim (cs : List Char) : List Char := trimRight (trimLeft cs)

/-- Blanks around numbers: all but the four separators from U+001C. -/
def isPadding (c : Char) : Bool := isBlank c && !(0x1c ≤ c.toNat && c.toNat ≤ 0x1f)

/-- The text of a number without padding at its ends. -/
def unpadded (cs : List Char) : List Char :=
  ((cs.dropWhile isPadding).reverse.dropWhile isPadding).reverse

/-- Every character that ASCII calls white space is blank. -/
theorem isBlank_of_isWhitespace {c : Char} (h : c.isWhitespace = true) : isBlank c = true := by
  simp only [Char.isWhitespace, Bool.or_eq_true, decide_eq_true_eq] at h
  rcases h with ((h | h) | h) | h <;> subst h <;> decide

/-! ## What trimming takes away -/

/-- Trimming at the start takes away blanks. -/
theorem exists_trimLeft (cs : List Char) :
    ∃ blanks, (∀ c ∈ blanks, isBlank c = true) ∧ cs = blanks ++ trimLeft cs := by
  refine ⟨cs.takeWhile isBlank, ?_, List.takeWhile_append_dropWhile.symm⟩
  exact List.all_eq_true.1 List.all_takeWhile

/-- Trimming at the end takes away blanks. -/
theorem exists_trimRight (cs : List Char) :
    ∃ blanks, (∀ c ∈ blanks, isBlank c = true) ∧ cs = trimRight cs ++ blanks := by
  obtain ⟨blanks, hblanks, h⟩ := exists_trimLeft cs.reverse
  refine ⟨blanks.reverse, fun c hc => hblanks c (List.mem_reverse.1 hc), ?_⟩
  calc cs = cs.reverse.reverse := (List.reverse_reverse cs).symm
    _ = (blanks ++ trimLeft cs.reverse).reverse := by rw [← h]
    _ = trimRight cs ++ blanks.reverse := List.reverse_append

/-- A text that does not begin with a blank has nothing to trim at its start. -/
theorem trimLeft_of_head? {cs : List Char} (h : ∀ c, cs.head? = some c → isBlank c = false) :
    trimLeft cs = cs := by
  cases cs with
  | nil => rfl
  | cons c cs => exact List.dropWhile_cons_of_neg (by rw [h c rfl]; decide)

theorem isBlank_of_head?_trimLeft {cs : List Char} {c : Char} (h : (trimLeft cs).head? = some c) :
    isBlank c = false := by
  have hnot := List.head?_dropWhile_not isBlank cs
  rw [trimLeft] at h
  rw [h] at hnot
  simpa using hnot

theorem trimLeft_trimLeft (cs : List Char) : trimLeft (trimLeft cs) = trimLeft cs :=
  trimLeft_of_head? fun _ h => isBlank_of_head?_trimLeft h

theorem trimRight_trimRight (cs : List Char) : trimRight (trimRight cs) = trimRight cs := by
  show (trimLeft (trimLeft cs.reverse).reverse.reverse).reverse = (trimLeft cs.reverse).reverse
  rw [List.reverse_reverse, trimLeft_trimLeft]

/-- **A trimmed text has nothing more to trim.** -/
theorem trim_trim (cs : List Char) : trim (trim cs) = trim cs := by
  have hleft : trimLeft (trim cs) = trim cs := by
    -- what is left begins as it did before its end was trimmed
    refine trimLeft_of_head? fun c hc => ?_
    obtain ⟨blanks, -, h⟩ := exists_trimRight (trimLeft cs)
    have hhead : (trimLeft cs).head? = some c := by
      rw [h, List.head?_append]
      exact Option.or_eq_some_iff.2 (.inl hc)
    exact isBlank_of_head?_trimLeft hhead
  rw [trim, hleft, trim, trimRight_trimRight]

end SqlScript.Text
