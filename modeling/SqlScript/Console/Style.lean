import SqlScript.Console.Color
import SqlScript.Text.Blank
import SqlScript.Text.LetterCase

/-!
# Styles

A style is described by words: attributes that are set or not, a color, a background and a link.
Two descriptions are the same if their normal forms are.

* `Style`, `Style.ofText`: a style, and the one that a text describes.
* `Style.text`: the normal form of its description.
* `styleName`: the normal form of any text.
-/

namespace SqlScript.Console

/-- The style attributes, in the order in which a style lists them, with their short names. -/
def attributes : List (String × List String) :=
  [("bold", ["b"]), ("dim", ["d"]), ("italic", ["i"]), ("underline", ["u"]), ("blink", []),
    ("blink2", []), ("reverse", ["r"]), ("conceal", ["c"]), ("strike", ["s"]),
    ("underline2", ["uu"]), ("frame", []), ("encircle", []), ("overline", ["o"])]

/-- The attribute that a word names. -/
def attribute? (word : String) : Option String :=
  (attributes.find? fun (name, short) => name == word || short.contains word).map (·.1)

/-- The words of a text. -/
def words : List Char → List (List Char)
  | [] => []
  | c :: cs =>
    if Text.isBlank c then words cs
    else match cs, words cs with
      | d :: _, w :: ws => if Text.isBlank d then [c] :: w :: ws else (c :: w) :: ws
      | _, ws => [c] :: ws

/-- A word in small letters. -/
def small (word : List Char) : String := String.ofList (Text.lower word)

/-- **A style.** -/
structure Style where
  /-- Attributes that are set, and whether they are on. -/
  attributes : List (String × Bool) := []
  color : Option String := none
  background : Option String := none
  link : Option String := none
  deriving DecidableEq, Repr

namespace Style

/-- Sets an attribute. -/
def set (s : Style) (name : String) (on : Bool) : Style :=
  { s with attributes := (name, on) :: s.attributes }

/-- The style that words add to a style, if they describe one. Small and capital letters are the
same, but not in an attribute that is not set, nor in a link. -/
def addWords (s : Style) : List (List Char) → Except Fault (Option Style)
  | [] => .ok (some s)
  | word :: rest =>
    match small word, rest with
    | "on", color :: rest => do
      if ← namesColor (small color) then addWords { s with background := some (small color) } rest
      else return none
    | "not", name :: rest =>
      match attribute? (String.ofList name) with
      | some name => addWords (s.set name false) rest
      | none => .ok none
    | "link", address :: rest => addWords { s with link := some (String.ofList address) } rest
    | word, rest =>
      match attribute? word with
      | some name => addWords (s.set name true) rest
      | none => do
        if ← namesColor word then addWords { s with color := some word } rest
        else return none

/-- **The style that a text describes**, if it describes one. A style of no words is plain, and so
is the one named so. -/
def ofText (cs : List Char) : Except Fault (Option Style) :=
  if Text.trim cs = "none".toList then .ok (some {}) else addWords {} (words cs)

/-- **The description of a style in its normal form.** -/
def text (s : Style) : String :=
  let attributes := Console.attributes.filterMap fun (name, _) =>
    (s.attributes.find? (·.1 == name)).map fun (_, on) => if on then name else "not " ++ name
  let parts := attributes ++ s.color.toList ++ (s.background.toList.map ("on " ++ ·))
    ++ (s.link.toList.map ("link " ++ ·))
  if parts.isEmpty then "none" else " ".intercalate parts

end Style

/-- **The normal form of a text**: attributes by their long names and in order. What describes no
style is known by its small letters. -/
def styleName (cs : List Char) : Except Fault String := do
  match ← Style.ofText cs with
  | some style => return style.text
  | none => return small (Text.trim cs)

end SqlScript.Console
