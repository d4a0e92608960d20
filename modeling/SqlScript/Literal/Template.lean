import SqlScript.Literal.Quotation
import SqlScript.Literal.Token
import SqlScript.Literal.Tree

/-!
# Templates

Quotations with expressions in braces. An expression can be followed by an equals sign, by a
conversion and by a format, in which there can be braces again. Doubled braces are text.

* `Template`: what does not change while a template is read.
* `Template.read`: reads a template up to its end, or up to the brace that ends a format.
* `join`: what quotations in a row make.
-/

namespace SqlScript.Literal

/-- **A template** that is read. -/
structure Template where
  token : List Char
  line : Nat
  quotation : Quotation
  /-- What stands in front of each message. -/
  heading : String
  /-- Reads the text of an expression that begins in a line. -/
  expression : Nat → List Char → Except String Unit

namespace Template

/-- Ends the reading with a message. -/
def fail (t : Template) (message : String) : Except String α :=
  .error (t.heading ++ "f-string: " ++ message)

/-- The line of the place in front of the rest of a template. -/
def lineOf (t : Template) (rest : List Char) : Nat :=
  let read := t.quotation.opening + t.quotation.inside.length - rest.length
  t.line + (t.token.take read).count '\n'

/-! ## Text between braces -/

/-- How a piece of text ends. -/
inductive PieceEnd where
  /-- At the end of the template, or at a brace. -/
  | brace
  /-- Behind doubled braces. -/
  | doubled
  /-- At a closing brace that closes nothing. -/
  | stray
  deriving DecidableEq, Repr

/-- A piece of text: its characters, how it ends, and the rest of the template. -/
structure Piece where
  chars : List Char
  stop : PieceEnd
  rest : List Char

/-- The piece with more characters in front. -/
def Piece.after (before : List Char) (p : Piece) : Piece := { p with chars := before ++ p.chars }

/-- The piece that ends with a brace. Only outside of formats can a brace be doubled, or be one too
many. -/
def pieceAtBrace (top : Bool) (brace : Char) (rest : List Char) : Piece :=
  if top && rest.head? == some brace then ⟨[brace], .doubled, rest.tail⟩
  else if top && brace == '\x7d' then ⟨[], .stray, rest⟩
  else ⟨[], .brace, brace :: rest⟩

/-- Whether a character is a brace. -/
def isBrace (c : Char) : Bool := c == '\x7b' || c == '\x7d'

/-- The piece of text that a template goes on with. The braces around the name of a character do
not count. -/
def piece (raw top : Bool) (cs : List Char) : Piece :=
  match cs with
  | [] => ⟨[], .brace, []⟩
  | '\\' :: 'N' :: cs =>
    if raw then (piece raw top ('N' :: cs)).after ['\\']
    else
      let count := match cs with
        | '\x7b' :: name => min cs.length ((name.takeWhile (· != '\x7d')).length + 2)
        | _ => min cs.length 1
      (piece raw top (cs.drop count)).after ('\\' :: 'N' :: cs.take count)
  | '\\' :: c :: cs =>
    if raw then (piece raw top (c :: cs)).after ['\\']
    else if isBrace c then (pieceAtBrace top c cs).after ['\\']
    else (piece raw top cs).after ['\\', c]
  | c :: cs => if isBrace c then pieceAtBrace top c cs else (piece raw top cs).after [c]
  termination_by cs.length

/-! ## Expressions in braces -/

/-- Where in the text of an expression a place is. -/
structure FieldPlace where
  /-- The quote of the text that is open, with the number of quotes that close it. -/
  quote : Option (Char × Nat) := none
  /-- The brackets that are open, the latest first. -/
  nested : List Char := []

/-- How far the next step in the text of an expression goes, and where it leads, or `none` at the
end of the expression. -/
def fieldStep (t : Template) (p : FieldPlace) (c : Char) (rest : List Char) :
    Except String (Option (Nat × FieldPlace)) :=
  if c = '\\' then .error (t.heading ++ "f-string expression part cannot include a backslash")
  else match p.quote with
    | some (quote, size) =>
      let closes : Bool := c == quote && rest.take (size - 1) == List.replicate (size - 1) quote
      .ok (some (if closes then (size, { p with quote := none }) else (1, p)))
    | none =>
      if c = '\'' ∨ c = '"' then
        let size := if rest.take 2 = [c, c] then 3 else 1
        .ok (some (size, { p with quote := some (c, size) }))
      else if brackets.any (·.1 == c) then
        if maxBrackets ≤ p.nested.length then t.fail "too many nested parenthesis"
        else .ok (some (1, { p with nested := c :: p.nested }))
      else if c = '#' then .error (t.heading ++ "f-string expression part cannot include '#'")
      else if p.nested.isEmpty && "!=<>".toList.contains c && rest.head? == some '=' then
        .ok (some (2, p))
      else if p.nested.isEmpty && "!:\x7d=".toList.contains c then .ok none
      else if brackets.any (·.2 == c) then
        match p.nested with
        | [] => t.fail s!"unmatched '{c}'"
        | opening :: nested =>
          if brackets.contains (opening, c) then .ok (some (1, { p with nested }))
          else
            t.fail <| s!"closing parenthesis '{c}' does not match "
              ++ s!"opening parenthesis '{opening}'"
      else .ok (some (1, p))

/-- The length of the text of an expression, behind some characters that belong to it. -/
def fieldLength (t : Template) (p : FieldPlace) : Nat → List Char → Except String Nat
  | _, [] =>
    match p.quote, p.nested with
    | some _, _ => t.fail "unterminated string"
    | none, opening :: _ => t.fail s!"unmatched '{opening}'"
    | none, [] => t.fail "expecting '\x7d'"
  | skip + 1, _ :: rest => return (← t.fieldLength p skip rest) + 1
  | 0, c :: rest => do
    match ← t.fieldStep p c rest with
    | none => return 0
    | some (size, p) => return (← t.fieldLength p (size - 1) rest) + 1

/-- Checks the text of an expression, which something ends. -/
def checkExpression (t : Template) (line : Nat) (text : List Char) (stop : Option Char) :
    Except String Unit :=
  if text.all (" \t\n\x0c".toList.contains ·) then
    match stop with
    | some '\x7d' | none => t.fail "empty expression not allowed"
    | some c => t.fail s!"expression required before '{c}'"
  else t.expression line ('(' :: text ++ [')', '\n'])

/-- ASCII's white space. -/
def isSpace (c : Char) : Bool := c == ' ' || (9 ≤ c.toNat && c.toNat ≤ 13)

/-- Leaves out the equals sign behind an expression, if there is one. -/
def afterEquals (t : Template) : List Char → Except String (List Char)
  | '=' :: rest =>
    match rest.dropWhile isSpace with
    | [] => t.fail "expecting '\x7d'"
    | rest => .ok rest
  | rest => .ok rest

/-- Leaves out a conversion, if there is one. -/
def afterConversion (t : Template) : List Char → Except String (List Char)
  | ['!'] => t.fail "expecting '\x7d'"
  | '!' :: c :: rest =>
    if "sra".toList.contains c then .ok rest
    else t.fail "invalid conversion character: expected 's', 'r', or 'a'"
  | rest => .ok rest

/-- How many formats can lie within each other, counted with the template itself. -/
def maxLevels : Nat := 2

mutual

/-- Reads a template or a format with some levels left. What is left of the template begins with
the brace behind the format. Each step takes a character at least. -/
def readFrom (t : Template) (levels : Nat) : Nat → List Char → Except String (List Char)
  | 0, _ => t.fail "expecting '\x7d'"
  | fuel + 1, cs => do
    let top := levels == maxLevels
    let p := piece t.quotation.isRaw top cs
    if p.stop = .stray then t.fail "single '\x7d' is not allowed"
    else
      match if t.quotation.isRaw then none else escapeFault? p.chars with
      | some message => throw (t.heading ++ message)
      | none =>
        if p.stop = .doubled then t.readFrom levels fuel p.rest
        else match p.rest with
          | '\x7b' :: rest => t.readFrom levels fuel (← t.readField levels fuel rest)
          | [] => if top then return [] else t.fail "expecting '\x7d'"
          | rest => return rest

/-- Reads an expression behind its brace, up to behind the brace that closes it. -/
def readField (t : Template) (levels : Nat) : Nat → List Char → Except String (List Char)
  | 0, _ => t.fail "expecting '\x7d'"
  | fuel + 1, cs => do
    if levels = 0 then t.fail "expressions nested too deeply"
    else
      let (text, rest) := cs.splitAt (← t.fieldLength {} 0 cs)
      t.checkExpression (t.lineOf cs) text rest.head?
      let rest ← t.afterConversion (← t.afterEquals rest)
      let rest ← match rest with
        | [':'] => t.fail "expecting '\x7d'"
        | ':' :: rest => t.readFrom (levels - 1) fuel rest
        | rest => .ok rest
      match rest with
      | '\x7d' :: rest => return rest
      | _ => t.fail "expecting '\x7d'"

end

/-- **Reads a template.** -/
def read (t : Template) : Except String Unit := do
  let _ ← t.readFrom maxLevels (2 * t.quotation.inside.length + 2) t.quotation.inside

end Template

/-- Checks a quotation. Messages have a heading, and `expression` reads the text of an expression
that begins in a line. -/
def Quotation.check (q : Quotation) (heading : String)
    (expression : Nat → List Char → Except String Unit) (token : List Char) (line : Nat) :
    Except String Unit :=
  if q.isTemplate then Template.read ⟨token, line, q, heading, expression⟩
  else match q.fault? with
    | some message => .error (heading ++ message)
    | none => .ok ()

/-- **What quotations in a row make.** Byte strings only go with byte strings. -/
def join (heading : String) (expression : Nat → List Char → Except String Unit)
    (tokens : List (List Char × Nat)) : Except String Tree := do
  let quotations := tokens.map fun (text, _) => Quotation.ofToken text
  let bytes := (quotations.head?.map Quotation.isBytes).getD false
  for ((text, line), q) in tokens.zip quotations do
    -- a template is read last, but what else can be wrong with a quotation counts before its kind
    if !q.isTemplate then q.check heading expression text line
    if q.isBytes != bytes then throw (heading ++ "cannot mix bytes and nonbytes literals")
    if q.isTemplate then q.check heading expression text line
  if quotations.any Quotation.isTemplate then return .node .template []
  else return .constant (if bytes then .bytes else .text)

end SqlScript.Literal
