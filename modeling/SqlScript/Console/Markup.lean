import SqlScript.Fault
import SqlScript.Console.Emoji
import SqlScript.Console.Handler
import SqlScript.Console.Screen

/-!
# Markup

Texts for a console can hold tags in brackets, which set the style of what stands between them. A
tag begins with a small letter, a number sign, a slash or an at sign, and a backslash in front of
it makes it text. This console has no styles, so that tags vanish; but a closing tag has to have a
tag to close.

* `Markup.pieces`: a text as plain pieces and tags.
* `Markup.escape`: the markup that shows a text as it is.
* `Markup.render`: what a markup shows.
-/

namespace SqlScript.Markup

/-! ## Tags -/

/-- A character that a tag can begin with. -/
def startsTag (c : Char) : Bool := ('a' ≤ c && c ≤ 'z') || c == '#' || c == '/' || c == '@'

/-- The inside of a tag whose bracket stands in front of the text. -/
def tagBody? (cs : List Char) : Option (List Char) :=
  let body := cs.takeWhile fun c => c != '[' && c != ']'
  match body, cs.drop body.length with
  | c :: _, ']' :: _ => if startsTag c then some body else none
  | _, _ => none

/-- A piece of a markup. -/
inductive Piece where
  | text (cs : List Char)
  /-- A tag, with its place in the markup. -/
  | tag (position : Nat) (body : List Char)
  deriving DecidableEq, Repr

/-- A backslash. -/
def backslash : Char := '\\'

/-- The pieces of a markup from `position` on. `plain` is the plain text before it, the last
character first; `slashes` are the backslashes after that. Two backslashes in front of a tag show
one, and an odd one makes the tag text. -/
def piecesFrom (position : Nat) (plain : List Char) (slashes : Nat) (cs : List Char) :
    List Piece :=
  match cs with
  | [] => [.text (plain.reverse ++ List.replicate slashes backslash)]
  | c :: rest =>
    if c = backslash then piecesFrom (position + 1) plain (slashes + 1) rest
    else match (if c = '[' then tagBody? rest else none) with
      | none =>
        let plain := c :: (List.replicate slashes backslash ++ plain)
        piecesFrom (position + Text.size [c]) plain 0 rest
      | some body =>
        let after := rest.drop (body.length + 1)
        let next := position + Text.size body + 2
        let before : List Piece :=
          [.text plain.reverse, .text (List.replicate (slashes / 2) backslash)]
        let this : Piece :=
          if slashes % 2 = 1 then .text ('[' :: body ++ [']'])
          else .tag position body
        before ++ this :: piecesFrom next [] 0 after
  termination_by cs.length
  decreasing_by all_goals (simp; try omega)

/-- **The pieces of a markup.** -/
def pieces (cs : List Char) : List Piece := piecesFrom 0 [] 0 cs

/-- The text of a plain piece: a backslash in front of a bracket does not show. -/
def showPlain : List Char → List Char
  | '\\' :: '[' :: rest => '[' :: showPlain rest
  | c :: rest => c :: showPlain rest
  | [] => []

/-! ## Escaping -/

/-- Escapes the rest of a text after `slashes` backslashes. -/
def escapeFrom (slashes : Nat) (cs : List Char) : List Char :=
  match cs with
  | [] => List.replicate slashes backslash
  | c :: rest =>
    if c = backslash then escapeFrom (slashes + 1) rest
    else if c = '[' ∧ (tagBody? rest).isSome then
      List.replicate (2 * slashes + 1) backslash ++ c :: escapeFrom 0 rest
    else List.replicate slashes backslash ++ c :: escapeFrom 0 rest

/-- **The markup of a text**: what would be a tag gets a backslash, and a single backslash at the
end gets a second one. -/
def escape (s : String) : String :=
  let cs := escapeFrom 0 s.toList
  let endsSingle := match cs.reverse with
    | '\\' :: '\\' :: _ => false
    | '\\' :: _ => true
    | _ => false
  String.ofList (if endsSingle then cs ++ [backslash] else cs)

/-! ## Rendering -/

/-- The fault of a closing tag that closes nothing. -/
def closesNothing (position : Nat) (body : List Char) : Fault :=
  let tag := String.ofList body
  .of .markup s!"closing tag '[{tag}]' at position {position} doesn't match any open tag"

/-- The fault of a closing tag without a name where no tag is open. -/
def nothingToClose (position : Nat) : Fault :=
  .of .markup s!"closing tag '[/]' at position {position} has nothing to close"

/-- A tag that is open: the place of the text where it was opened, the normal form of its name, and
its parameters. -/
structure OpenTag where
  start : Nat
  name : String
  /-- What stands behind the equals sign, if there is one. -/
  parameters : Option (List Char)
  deriving DecidableEq, Repr

namespace OpenTag

/-- The tag with a body. -/
def ofBody (start : Nat) (body : List Char) : Except Fault OpenTag := do
  let name := body.takeWhile (· != '=')
  return ⟨start, ← Console.styleName name, (body.drop name.length).tail?⟩

/-- Whether a tag names a handler, and no style. -/
def isHandler (tag : OpenTag) : Bool := tag.name.toList.head? == some '@'

/-- The stretch of a tag that ends at a place. -/
def span (tag : OpenTag) (stop : Nat) : Console.Span :=
  let parameters := match tag.parameters with
    | some cs => ' ' :: cs
    | none => []
  ⟨tag.start, stop, tag.name.toList ++ parameters⟩

end OpenTag

/-- What was rendered so far. -/
structure Rendering where
  chars : List Char := []
  /-- The open tags, the latest first. -/
  opened : List OpenTag := []
  /-- The stretches of closed tags, the latest first. -/
  closed : List Console.Span := []

namespace Rendering

/-- The tag that a closing tag with a body closes, and the other open tags. -/
def closing (r : Rendering) (position : Nat) (body : List Char) :
    Except Fault (OpenTag × List OpenTag) := do
  let name := Text.trim ((body.takeWhile (· != '=')).drop 1)
  if name.isEmpty then
    match r.opened with
    | tag :: opened => return (tag, opened)
    | [] => throw (nothingToClose position)
  else
    let name ← Console.styleName name
    match r.opened.find? (·.name == name) with
    | some tag => return (tag, r.opened.erase tag)
    | none => throw (closesNothing position body)

/-- Renders a closing tag. The arguments of a handler are read here, if there are any. -/
def close (r : Rendering) (position : Nat) (body : List Char) : Except Fault Rendering := do
  let (tag, opened) ← r.closing position body
  if tag.isHandler then
    match tag.parameters with
    | some (c :: cs) => Handler.check (c :: cs)
    | _ => pure ()
    return { r with opened }
  else return { r with opened, closed := tag.span r.chars.length :: r.closed }

/-- Renders one more piece. -/
def add (r : Rendering) : Piece → Except Fault Rendering
  | .text cs =>
    .ok { r with chars := r.chars ++ Screen.visible (Console.showEmoji (showPlain cs)) }
  | .tag position body =>
    if body.head? = some '/' then r.close position body
    else do
      let tag ← OpenTag.ofBody r.chars.length body
      return { r with opened := tag :: r.opened }

/-- Puts a stretch in front of those that do not begin before it. -/
def insertSpan (s : Console.Span) : List Console.Span → List Console.Span
  | [] => [s]
  | t :: ts => if s.start ≤ t.start then s :: t :: ts else t :: insertSpan s ts

/-- The text with its stretches, by the places where they begin. Tags that are still open reach to
its end, and of those that begin at one place the ones closed last come first. -/
def finish (r : Rendering) : Console.StyledText where
  chars := r.chars
  spans :=
    let left := r.opened.reverse.map (·.span r.chars.length)
    (left ++ r.closed).foldr insertSpan []

end Rendering

/-- **What a markup shows.** -/
def render (s : String) : Except Fault Console.StyledText := do
  return (← (pieces s.toList).foldlM Rendering.add {}).finish

end SqlScript.Markup
