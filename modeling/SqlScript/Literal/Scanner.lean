import SqlScript.Literal.Numeral
import SqlScript.Literal.Token
import SqlScript.Text.Identifier
import SqlScript.Text.Printable

/-!
# The scanner

Splits the text of a literal into tokens. It keeps count of the open brackets, between which line
ends mean nothing, and of the columns in which lines begin.

* `Scanner`: what is known at a place of the text.
* `Scanner.beginLine`, `Scanner.next`: the tokens at the start of a line, and further on in it.
* `scan`: the tokens of a text.
-/

namespace SqlScript.Literal

/-- The column in which a line begins, counted with two widths of a tab, so that lines are only
compared if the widths do not matter. -/
structure Indent where
  /-- With tabs up to the next column that eight divides. -/
  column : Nat
  /-- With tabs that are no wider than blanks. -/
  narrow : Nat
  deriving DecidableEq, Repr

/-- **What is known at a place** of a text. -/
structure Scanner where
  line : Nat
  /-- Whether a line begins here. -/
  atStart : Bool := true
  /-- Whether nothing but a comment stands in the line. -/
  blank : Bool := false
  /-- The open brackets, the latest first. -/
  brackets : List Bracket := []
  /-- The columns that lines are indented to, the deepest first. -/
  indents : List Indent := []
  deriving Repr

namespace Scanner

/-- A fault that counts for more than what is wrong with the tokens before it. -/
def fault (s : Scanner) (message : String) : ScanFault := ⟨message, true, s.brackets.head?⟩

/-- A fault that only counts if the tokens are read up to it. -/
def lateFault (s : Scanner) (message : String) : ScanFault := ⟨message, false, s.brackets.head?⟩

/-- The fault of a text that ends too early. -/
def endFault (s : Scanner) : ScanFault :=
  s.lateFault <| match s.brackets with
    | b :: _ => b.neverClosed
    | [] => "unexpected EOF while parsing"

/-- The fault of a backslash in the middle of a line. -/
def backslashFault (s : Scanner) : ScanFault :=
  s.lateFault "unexpected character after line continuation character"

/-- A token that the rest of the text follows. -/
def token (s : Scanner) (kind : Token.Kind) (text rest : List Char) : Token :=
  ⟨kind, text, s.line, s.brackets.length, rest.isEmpty⟩

/-! ## Starts of lines -/

/-- The start of a line: its column, and the column of its first backslash, if it goes on in the
next line there. -/
structure Margin where
  indent : Indent := ⟨0, 0⟩
  broken : Nat := 0

/-- The margin with one more blank. -/
def Margin.add? (m : Margin) : Char → Option Margin
  | ' ' => some { m with indent := ⟨m.indent.column + 1, m.indent.narrow + 1⟩ }
  | '\t' => some { m with indent := ⟨(m.indent.column / 8 + 1) * 8, m.indent.narrow + 1⟩ }
  | '\x0c' => some { m with indent := ⟨0, 0⟩ }
  | _ => none

/-- Reads the margin of a line. -/
def readMargin (s : Scanner) (m : Margin) : List Char →
    Except ScanFault (Margin × Scanner × List Char)
  | [] => .ok (m, s, [])
  | '\\' :: '\n' :: c :: cs =>
    let broken := if m.broken = 0 then m.indent.column else m.broken
    { s with line := s.line + 1 }.readMargin { m with broken } (c :: cs)
  | ['\\', '\n'] => .error s.endFault
  | c :: cs =>
    match m.add? c with
    | some m => s.readMargin m cs
    | none => if c = '\\' then .error s.backslashFault else .ok (m, s, c :: cs)

/-- Goes to the column of a line. A deeper line is one step deeper than the one before, another
one lies in a column that was there already. -/
def indentTo (s : Scanner) (indent : Indent) (rest : List Char) :
    Except ScanFault (List Token × Scanner) :=
  let left := s.indents.dropWhile (indent.column < ·.column)
  let column := left.headD ⟨0, 0⟩
  let unclear := s.lateFault "inconsistent use of tabs and spaces in indentation"
  if column.column = indent.column then
    if column.narrow = indent.narrow then
      let ended := s.indents.length - left.length
      .ok (List.replicate ended (s.token .dedent [] rest), { s with indents := left })
    else .error unclear
  else if left.length < s.indents.length then
    .error (s.lateFault "unindent does not match any outer indentation level")
  else if maxIndents ≤ left.length then .error (s.lateFault "too many levels of indentation")
  else if indent.narrow ≤ column.narrow then .error unclear
  else .ok ([s.token .indent [] rest], { s with indents := indent :: left })

/-- **The tokens at the start of a line.** Lines without a token of their own have none. -/
def beginLine (s : Scanner) (cs : List Char) :
    Except ScanFault (List Token × Scanner × List Char) := do
  let (m, s, rest) ← s.readMargin {} cs
  let blank := rest.head?.any ("#\n".toList.contains ·)
  let s := { s with atStart := false, blank }
  if blank || !s.brackets.isEmpty then return ([], s, rest)
  let indent := if m.broken = 0 then m.indent else ⟨m.broken, m.broken⟩
  let (tokens, s) ← s.indentTo indent rest
  return (tokens, s, rest)

/-! ## Quotations -/

/-- The letters that can stand in front of a quotation. -/
def quotationLetters : List String := ["", "b", "r", "u", "f", "br", "rb", "fr", "rf"]

/-- The number of letters in front of a quotation, if a text begins with one. -/
def quotationStart? (cs : List Char) : Option Nat :=
  let letters := cs.takeWhile Char.isAlpha
  let quoted := (cs.drop letters.length).head?.any fun c => c == '\'' || c == '"'
  if quoted && quotationLetters.contains (String.ofList (letters.map Char.toLower)) then
    some letters.length
  else none

/-- Reads up to a quote in the same line: how many characters, and whether the quote is there. -/
def upToQuote (quote : Char) : List Char → Nat × Bool
  | [] => (0, false)
  | '\n' :: _ => (1, false)
  | '\\' :: _ :: cs =>
    let (count, found) := upToQuote quote cs
    (count + 2, found)
  | c :: cs =>
    if c = quote then (1, true)
    else
      let (count, found) := upToQuote quote cs
      (count + 1, found)

/-- Reads up to three quotes: how many characters, and whether the quotes are there. -/
def upToQuotes (quote : Char) : List Char → Nat × Bool
  | [] => (0, false)
  | '\\' :: _ :: cs =>
    let (count, found) := upToQuotes quote cs
    (count + 2, found)
  | c :: cs =>
    if c = quote ∧ cs.take 2 = [quote, quote] then (3, true)
    else
      let (count, found) := upToQuotes quote cs
      (count + 1, found)

/-- Reads a quotation behind its letters. -/
def quotation (s : Scanner) (letters : Nat) (cs : List Char) :
    Except ScanFault (List Token × Scanner × List Char) :=
  let body := cs.drop letters
  let quote := body.headD '"'
  let size := if body.take 3 = List.replicate 3 quote then 3 else 1
  let isEmpty : Bool := size == 1 && body.take 2 == [quote, quote]
  let (count, found) :=
    if size = 3 then upToQuotes quote (body.drop size) else upToQuote quote (body.drop size)
  let (text, rest) := cs.splitAt (letters + size + count)
  let line := s.line + text.dropLast.count '\n'
  if found then
    let token := s.token .quotation text rest
    .ok ([{ token with last := token.last && isEmpty }], { s with line }, rest)
  else
    let kind := if size = 3 then "triple-quoted string" else "string"
    .error (s.fault s!"unterminated {kind} literal (detected at line {line})")

/-! ## Other tokens -/

/-- A code point in at least four hexadecimal digits. -/
def codePointText (c : Char) : String :=
  let digits := (Nat.toDigits 16 c.toNat).map Char.toUpper
  "U+" ++ String.ofList (List.replicate (4 - digits.length) '0' ++ digits)

/-- What is said about a character that no token has. -/
def badCharacter (c : Char) : String :=
  if Text.isPrintable c then s!"invalid character '{c}' ({codePointText c})"
  else s!"invalid non-printable character {codePointText c}"

/-- The first character of a word that no name has at its place. -/
def misplaced? : List Char → Option Char
  | [] => none
  | c :: cs => if Text.startsIdentifier c then cs.find? (!Text.continuesIdentifier ·) else some c

/-- Reads a name or a keyword. -/
def word (s : Scanner) (cs : List Char) : Except ScanFault (List Token × Scanner × List Char) :=
  let (text, rest) := cs.span isNameLike
  match misplaced? text with
  | some c => .error (s.fault (badCharacter c))
  | none =>
    let kind := if keywords.contains (String.ofList text) then .keyword else .name
    .ok ([s.token kind text rest], s, rest)

/-- Reads a numeral. -/
def numeral (s : Scanner) (cs : List Char) : Except ScanFault (List Token × Scanner × List Char) :=
  match afterNumeral cs with
  | .ok rest => .ok ([s.token .number (cs.take (cs.length - rest.length)) rest], s, rest)
  | .error message => .error (s.fault message)

/-- The scanner behind a closing bracket. -/
def closeBracket (s : Scanner) (c : Char) : Except ScanFault Scanner :=
  match s.brackets with
  | [] => .error (s.fault s!"unmatched '{c}'")
  | b :: brackets =>
    if Literal.brackets.contains (b.char, c) then .ok { s with brackets }
    else
      let place := if b.line = s.line then "" else s!" on line {b.line}"
      .error <| s.fault <|
        s!"closing parenthesis '{c}' does not match opening parenthesis '{b.char}'" ++ place

/-- The scanner behind an operator of one character. -/
def behind (s : Scanner) (c : Char) : Except ScanFault Scanner :=
  if Literal.brackets.any (·.1 == c) then
    if maxBrackets ≤ s.brackets.length then .error (s.fault "too many nested parentheses")
    else .ok { s with brackets := ⟨c, s.line⟩ :: s.brackets }
  else if Literal.brackets.any (·.2 == c) then s.closeBracket c
  else if Text.isPrintable c then .ok s
  else .error (s.fault (badCharacter c))

/-- Reads an operator, or what stands where one could be. -/
def operator (s : Scanner) (cs : List Char) :
    Except ScanFault (List Token × Scanner × List Char) := do
  let long := longOperators.find? (·.toList.isPrefixOf cs)
  let (text, rest) := cs.splitAt (long.map String.length |>.getD 1)
  let s ← match text with
    | [c] => s.behind c
    | _ => .ok s
  return ([s.token .operator text rest], s, rest)

/-- A blank between tokens. -/
def isGap (c : Char) : Bool := c == ' ' || c == '\t' || c == '\x0c'

/-- **The next token of a line**, if one comes before its end. -/
def next (s : Scanner) (cs : List Char) : Except ScanFault (List Token × Scanner × List Char) :=
  match cs.dropWhile isGap with
  | [] => if s.brackets.isEmpty then .ok ([s.token .finish [] []], s, []) else .error s.endFault
  | '#' :: rest => .ok ([], s, rest.dropWhile (· != '\n'))
  | '\n' :: rest =>
    let after := { s with atStart := true, line := s.line + if rest.isEmpty then 0 else 1 }
    if s.blank || !s.brackets.isEmpty then .ok ([], after, rest)
    else .ok ([{ s.token .newline [] rest with last := false }], after, rest)
  | ['\\', '\n'] => .error s.endFault
  | '\\' :: '\n' :: rest => .ok ([], { s with line := s.line + 1 }, rest)
  | '\\' :: _ => .error s.backslashFault
  | c :: rest =>
    match quotationStart? (c :: rest) with
    | some letters => s.quotation letters (c :: rest)
    | none =>
      if c.isDigit || (c == '.' && rest.head?.any Char.isDigit) then s.numeral (c :: rest)
      else if isNameLike c then s.word (c :: rest)
      else s.operator (c :: rest)

/-- The tokens from a place on. Each step takes characters, but for the one at the start of a
line, so that there are no more than two for each character and two at the end. -/
def run : Nat → Scanner → List Char → List Token × Option ScanFault
  | 0, _, _ => ([], none)
  | fuel + 1, s, cs =>
    match if s.atStart then s.beginLine cs else s.next cs with
    | .error fault => ([], some fault)
    | .ok (tokens, s, rest) =>
      if tokens.any (·.kind == .finish) then (tokens, none)
      else
        let (more, fault) := run fuel s rest
        (tokens ++ more, fault)

end Scanner

/-- **The tokens of a text** that begins in a line. -/
def scan (line : Nat) (cs : List Char) : Tokens :=
  let (tokens, fault) := Scanner.run (2 * cs.length + 2) { line } cs
  ⟨tokens.toArray, fault⟩

end SqlScript.Literal
