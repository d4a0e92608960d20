/-!
# Similar texts

How much of two texts agrees, and which names come close to one that is misspelt. Two texts agree
in their longest common run, and on both sides of it in whatever agrees there.

* `commonStart`: the length of the common start of two texts.
* `Run`, `longestRun`: the longest common run.
* `agreement`: the number of characters in which two texts agree.
* `similarNames`: the names that come close to a text.
-/

namespace SqlScript.Text

/-- The length of the common start of two texts. -/
def commonStart : List Char → List Char → Nat
  | a :: as, b :: bs => if a = b then commonStart as bs + 1 else 0
  | _, _ => 0

/-- A common run of two texts: where it starts in each, and its length. -/
structure Run where
  left : Nat
  right : Nat
  size : Nat
  deriving DecidableEq, Repr

/-- The longer of the best run so far and the runs that start at `left` and, in the second text, at
`right` or later. -/
def longestRunAt (cs : List Char) (left right : Nat) (best : Run) : List Char → Run
  | [] => best
  | b :: bs =>
    let size := commonStart cs (b :: bs)
    let best := if best.size < size then ⟨left, right, size⟩ else best
    longestRunAt cs left (right + 1) best bs

/-- The longer of the best run so far and the runs that start in the first text at `left` or
later. -/
def longestRunFrom (bs : List Char) (left : Nat) (best : Run) : List Char → Run
  | [] => best
  | a :: as => longestRunFrom bs (left + 1) (longestRunAt (a :: as) left 0 best bs) as

/-- **The longest common run**: of several the first in the first text, and of those the first in
the second. -/
def longestRun (as bs : List Char) : Run := longestRunFrom bs 0 ⟨0, 0, 0⟩ as

/-- **The number of characters in which two texts agree.** -/
def agreement (as bs : List Char) : Nat :=
  match longestRun as bs with
  | ⟨left, right, size⟩ =>
    if 0 < size ∧ left < as.length then
      agreement (as.take left) (bs.take right) + size
        + agreement (as.drop (left + size)) (bs.drop (right + size))
    else 0
termination_by as.length
decreasing_by
  · rw [List.length_take]; omega
  · rw [List.length_drop]; omega

/-- A name with its likeness to a text: twice the characters in which they agree, out of all
characters of both. -/
structure Likeness where
  agreeing : Nat
  total : Nat
  name : String

/-- The likeness of a name to a text. -/
def Likeness.of (text : List Char) (name : String) : Likeness :=
  ⟨2 * agreement name.toList text, name.length + text.length, name⟩

/-- Whether a name goes before another: by its likeness, and then by its letters from the end of
the alphabet. -/
def Likeness.before (a b : Likeness) : Bool :=
  let left := a.agreeing * b.total
  let right := b.agreeing * a.total
  right < left || left == right && !(a.name < b.name)

/-- **The names that come close to a text**: at most three whose likeness is three fifths or more,
in alphabetical order. -/
def similarNames (text : List Char) (names : List String) : List String :=
  let close := (names.map (Likeness.of text)).filter fun l => 3 * l.total ≤ 5 * l.agreeing
  (((close.mergeSort Likeness.before).take 3).map (·.name)).mergeSort (· ≤ ·)

end SqlScript.Text
