import SqlScript.Console.EmojiNames
import SqlScript.Json
import SqlScript.Text.Blank
import SqlScript.Text.LetterCase
import SqlScript.Text.Split

/-!
# Emoji codes

A name between colons shows as the emoji of that name. The name can end in a wish for the emoji's
plain or its colored form.

* `emoji?`: the emoji of a name.
* `Code`, `code?`: a code, and the one that a colon begins.
* `showEmoji`: a text with its emoji.
-/

namespace SqlScript.Console

/-- The number that hexadecimal digits stand for; other characters count as zero. -/
def hexValue (ds : List Char) : Nat :=
  ds.foldl (fun n d => 16 * n + (Json.hexDigit? d).getD 0) 0

/-- An entry of the table: the name, and the characters of the emoji. -/
def emojiEntry? (entry : String) : Option (String × List Char) :=
  (Text.splitAtMark? [':'] entry.toList).map fun (name, codes) =>
    (String.ofList name, (Text.splitAtChar '-' codes).map fun ds => Char.ofNat (hexValue ds))

/-- The names of emoji with their emoji. -/
def emojiTable : List (String × List Char) :=
  let entries := (emojiNames.splitOn "\n").flatMap (·.splitOn " ")
  entries.filterMap emojiEntry?

/-- **The emoji of a name**, in letters of any case. -/
def emoji? (name : List Char) : Option (List Char) :=
  let name := String.ofList (Text.lower name)
  (emojiTable.find? (·.1 == name)).map (·.2)

/-- **A code** behind its first colon: the name, the characters that select a form of the emoji,
and how long it is with the last colon. -/
structure Code where
  name : List Char
  selector : List Char
  size : Nat
  deriving DecidableEq, Repr

/-- The marks that end a code, with the characters that they stand for. -/
def codeEnds : List (List Char × List Char) :=
  [("-emoji:".toList, ['\ufe0f']), ("-text:".toList, ['\ufe0e']), ([':'], [])]

/-- The code whose first colon stands in front of a text, if there is one: there is no blank in a
code. -/
def code? : List Char → Option Code
  | [] => none
  | c :: cs =>
    match codeEnds.find? fun (mark, _) => mark.isPrefixOf (c :: cs) with
    | some (mark, selector) => some ⟨[], selector, mark.length⟩
    | none =>
      if Text.isBlank c then none
      else (code? cs).map fun code => ⟨c :: code.name, code.selector, code.size + 1⟩

/-- **A text with its emoji.** A code whose name is unknown shows as it is. -/
def showEmoji (cs : List Char) : List Char :=
  match cs with
  | [] => []
  | c :: rest =>
    match if c = ':' then code? rest else none with
    | none => c :: showEmoji rest
    | some code =>
      let shown := match emoji? code.name with
        | some emoji => emoji ++ code.selector
        | none => c :: rest.take code.size
      shown ++ showEmoji (rest.drop code.size)
  termination_by cs.length
  decreasing_by all_goals (simp; try omega)

end SqlScript.Console
