/-!
# Splitting

Texts in parts: at every occurrence of a character, or at the first one of a mark.

* `splitBy`: the parts between the characters of a class.
* `splitAtChar`: the parts between the occurrences of a character.
* `splitAtMark?`: what stands before and after a mark.
-/

namespace SqlScript.Text

/-- Splits a text at every character of a class. -/
def splitBy (separates : Char → Bool) : List Char → List (List Char)
  | [] => [[]]
  | c :: cs =>
    if separates c then [] :: splitBy separates cs
    else match splitBy separates cs with
      | [] => [[c]]
      | part :: parts => (c :: part) :: parts

/-- Splits a text at every occurrence of a character. -/
def splitAtChar (separator : Char) (cs : List Char) : List (List Char) :=
  splitBy (· == separator) cs

/-- Splits a text at the first place where a mark stands; the mark is in neither part. -/
def splitAtMark? (mark : List Char) : List Char → Option (List Char × List Char)
  | [] => if mark = [] then some ([], []) else none
  | c :: cs =>
    if mark.isPrefixOf (c :: cs) then some ([], (c :: cs).drop mark.length)
    else (splitAtMark? mark cs).map fun (before, after) => (c :: before, after)

end SqlScript.Text
