import SqlScript.Text.Printable
import SqlScript.Text.Surrogate

/-!
# Quoted texts and byte strings

How a text is shown inside a message: between quotes, with what cannot be printed written as an
escape. Single quotes are used unless the text holds single quotes and no double ones.

* `quoted`: a text between quotes.
* `quotedBytes`, `quotedMutableBytes`: byte strings between quotes, with the mark `b` in front.
-/

namespace SqlScript.Text

/-- A number in hexadecimal digits, with zeros in front up to a width. -/
def hex (w n : Nat) : List Char :=
  let ds := Nat.toDigits 16 n
  List.replicate (w - ds.length) '0' ++ ds

/-- The quote for a text: the double one only where that saves escapes. -/
def quoteFor (cs : List Char) : Char :=
  if cs.contains '\'' && !cs.contains '"' then '"' else '\''

/-- The number of a code point as an escape, in as few digits as there are escapes for. -/
def pointEscape (n : Nat) : List Char :=
  if n < 0x100 then '\\' :: 'x' :: hex 2 n
  else if n < 0x10000 then '\\' :: 'u' :: hex 4 n
  else '\\' :: 'U' :: hex 8 n

/-- One code point inside quotes. -/
def quotedPoint (quote : Char) (n : Nat) : List Char :=
  -- half of a surrogate pair has no character, and shows as little as one that cannot be printed
  let c := Char.ofNat n
  if c = quote ∨ c = '\\' then ['\\', c]
  else if c = '\t' then ['\\', 't']
  else if c = '\n' then ['\\', 'n']
  else if c = '\r' then ['\\', 'r']
  else if isPrintable c then [c]
  else pointEscape n

/-- **A text between quotes.** -/
def quoted (s : String) : String :=
  let cs := s.toList
  let quote := quoteFor cs
  String.ofList (quote :: (codePoints cs).flatMap (quotedPoint quote) ++ [quote])

/-- One byte inside quotes: printable ASCII as it is, the rest as escapes. -/
def quotedByte (quote : Char) (b : UInt8) : List Char :=
  if b.toNat < 0x80 then quotedPoint quote b.toNat else pointEscape b.toNat

/-- A byte string between the quotes for it, each byte in a form of its own. -/
def quotedBytesWith (form : Char → UInt8 → List Char) (bs : List UInt8) : String :=
  let quote := quoteFor (bs.map fun b => Char.ofNat b.toNat)
  String.ofList ('b' :: quote :: bs.flatMap (form quote) ++ [quote])

/-- A byte string between quotes. -/
def quotedBytes (bs : List UInt8) : String := quotedBytesWith quotedByte bs

/-- A byte string that can change, between quotes: its single quotes are escaped even between double
ones. -/
def quotedMutableBytes (bs : List UInt8) : String :=
  quotedBytesWith (fun quote b => if b = 39 then ['\\', '\''] else quotedByte quote b) bs

/-- A list of quoted texts between brackets. -/
def quotedList (ss : List String) : String :=
  "[" ++ ", ".intercalate (ss.map quoted) ++ "]"

end SqlScript.Text
