import SqlScript.Text.Split

/-!
# Paths

File paths in their tidy form: no empty component, no component `.`, no slash at the end. A path
starts at the root, at the root written with two slashes, or nowhere.

* `Path`, `Path.ofString`, `Path.text`: the paths and their texts.
* `Path.join`, `Path.parent`: the operations on them.
-/

namespace SqlScript

/-- Where a path starts. -/
inductive PathStart where
  | relative
  | root
  /-- The root, written with exactly two slashes. -/
  | doubleRoot
  deriving DecidableEq, Repr

/-- **A path** in its tidy form. -/
structure Path where
  start : PathStart
  parts : List String
  deriving DecidableEq, Repr

namespace Path

/-- Where the path of a text starts. Three slashes or more count as one. -/
def startOf (cs : List Char) : PathStart :=
  match (cs.takeWhile (· == '/')).length with
  | 0 => .relative
  | 2 => .doubleRoot
  | _ => .root

/-- **The path of a text.** -/
def ofString (s : String) : Path :=
  let parts := (Text.splitAtChar '/' s.toList).filter fun part => !part.isEmpty && part != ['.']
  ⟨startOf s.toList, parts.map String.ofList⟩

/-- Whether the path starts at the root. -/
def isAbsolute (p : Path) : Bool := p.start != .relative

/-- The text of a start. -/
def startText : PathStart → String
  | .relative => ""
  | .root => "/"
  | .doubleRoot => "//"

/-- **The text of a path**; the path of nothing is the dot. -/
def text (p : Path) : String :=
  if p.start = .relative ∧ p.parts = [] then "." else startText p.start ++ "/".intercalate p.parts

/-- A path seen from another one: an absolute path stays as it is. -/
def join (base p : Path) : Path :=
  if p.isAbsolute then p else ⟨base.start, base.parts ++ p.parts⟩

/-- The path without its last component. -/
def parent (p : Path) : Path := ⟨p.start, p.parts.dropLast⟩

/-- Whether the text of the path holds the character that ends a name. -/
def hasNul (p : Path) : Bool := p.parts.any fun part => part.toList.contains (Char.ofNat 0)

theorem join_of_isAbsolute {p : Path} (h : p.isAbsolute = true) (base : Path) :
    base.join p = p := by simp [join, h]

end Path

end SqlScript
