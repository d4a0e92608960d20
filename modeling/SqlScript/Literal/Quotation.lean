import SqlScript.Literal.Numeral

/-!
# Quotations

The texts and byte strings of a literal, between their quotes. Escapes are only looked at as far
as they can be wrong, since no text of a literal is ever shown.

* `Quotation`, `Quotation.ofToken`: the letters and the inside of a quotation.
* `escapeFault?`: what is wrong with the escapes of a text.
* `byteEscapeFault?`: what is wrong with the escapes of a byte string.
-/

namespace SqlScript.Literal

/-- **A quotation** without its quotes. -/
structure Quotation where
  isBytes : Bool
  /-- Whether it is a template, with expressions inside. -/
  isTemplate : Bool
  /-- Whether backslashes stand for themselves. -/
  isRaw : Bool
  /-- The number of characters in front of the inside. -/
  opening : Nat
  inside : List Char
  deriving DecidableEq, Repr

/-- The quotation that a token is. -/
def Quotation.ofToken (text : List Char) : Quotation :=
  let letters := text.takeWhile Char.isAlpha
  let body := text.drop letters.length
  let quote := body.headD '"'
  let size := if 6 ≤ body.length ∧ body.take 3 = List.replicate 3 quote then 3 else 1
  let has (c : Char) : Bool := (letters.map Char.toLower).contains c
  { isBytes := has 'b', isTemplate := has 'f', isRaw := has 'r'
    opening := letters.length + size
    inside := (body.drop size).take (body.length - 2 * size) }

/-- A character outside ASCII as an escape, which has ten characters. -/
def longEscape (c : Char) : List Char :=
  let digits := Nat.toDigits 16 c.toNat
  '\\' :: 'U' :: (List.replicate (8 - digits.length) '0' ++ digits)

/-- A text in ASCII, with escapes for all other characters, and for a backslash that would stand
in front of one or at the end. -/
def asciiForm : List Char → List Char
  | [] => []
  | ['\\'] => "\\u005c".toList
  | '\\' :: c :: cs =>
    if c.toNat < 0x80 then '\\' :: c :: asciiForm cs
    else "\\u005c".toList ++ longEscape c ++ asciiForm cs
  | c :: cs => (if c.toNat < 0x80 then [c] else longEscape c) ++ asciiForm cs

/-- A stretch of a text that cannot be decoded. -/
structure Undecodable where
  reason : String
  first : Nat
  last : Nat

/-- What is said about a stretch that cannot be decoded. -/
def Undecodable.message (u : Undecodable) : String :=
  s!"'unicodeescape' codec can't decode bytes in position {u.first}-{u.last}: {u.reason}"

/-- What is wrong with an escape that has a number of hexadecimal digits, the first of which stands
at `start + 2`. -/
def digitsFault? (letter : Char) (count start : Nat) (cs : List Char) : Option Undecodable :=
  let digits := (cs.take count).takeWhile isHexDigit
  if digits.length < count then
    let pattern := String.ofList (letter :: List.replicate count 'X')
    some ⟨s!"truncated \\{pattern} escape", start, start + 1 + digits.length⟩
  else if 0x110000 ≤ baseValue 16 digits then
    some ⟨"illegal Unicode character", start, start + 1 + count⟩
  else none

/-- What is wrong with the name of a character, whose escape begins at `start`. No names are known
here. -/
def nameFault (start : Nat) : List Char → Undecodable
  | '\x7b' :: cs =>
    let name := cs.takeWhile (· != '\x7d')
    if name.length = cs.length then
      ⟨"malformed \\N character escape", start, start + 2 + cs.length⟩
    else if name.isEmpty then ⟨"malformed \\N character escape", start, start + 2⟩
    else ⟨"unknown Unicode character name", start, start + 3 + name.length⟩
  | _ => ⟨"malformed \\N character escape", start, start + 1⟩

/-- The first escape in a text in ASCII that is wrong, from a place on. -/
def undecodable? (place : Nat) : List Char → Option Undecodable
  | '\\' :: c :: cs =>
    let fault := match c with
      | 'x' => digitsFault? c 2 place cs
      | 'u' => digitsFault? c 4 place cs
      | 'U' => digitsFault? c 8 place cs
      | 'N' => some (nameFault place cs)
      | _ => none
    fault <|> undecodable? (place + 2) cs
  | _ :: cs => undecodable? (place + 1) cs
  | [] => none

/-- **What is wrong with the escapes of a text.** -/
def escapeFault? (cs : List Char) : Option String :=
  if cs.contains '\\' then
    (undecodable? 0 (asciiForm cs)).map fun u => s!"(unicode error) {u.message}"
  else none

/-- The place of the first escape in a byte string that is wrong. -/
def badByteEscape? (place : Nat) : List Char → Option Nat
  | '\\' :: 'x' :: cs =>
    if ((cs.take 2).takeWhile isHexDigit).length = 2 then badByteEscape? (place + 2) cs
    else some place
  | '\\' :: _ :: cs => badByteEscape? (place + 2) cs
  | _ :: cs => badByteEscape? (place + 1) cs
  | [] => none

/-- **What is wrong with the escapes of a byte string.** -/
def byteEscapeFault? (cs : List Char) : Option String :=
  (badByteEscape? 0 cs).map fun place =>
    s!"(value error) invalid \\x escape at position {place}"

/-- What is wrong with a quotation that is no template. -/
def Quotation.fault? (q : Quotation) : Option String :=
  if q.isBytes && q.inside.any (0x80 ≤ ·.toNat) then
    some "bytes can only contain ASCII literal characters"
  else if q.isRaw then none
  else if q.isBytes then byteEscapeFault? q.inside
  else escapeFault? q.inside

end SqlScript.Literal
