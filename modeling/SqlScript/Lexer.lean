/-!
# Lexical regions of SQL text

A script is read one character at a time. At every moment the reader is in one region: outside
everything, inside a quoted text, or inside a comment. The reader remembers the character before,
since a comment opens and a block comment closes with two.

* `Region`: the five regions.
* `Lexer`, `Lexer.advance`: the reader and its step.
* `Lexer.scan`: the reader after a text.
-/

namespace SqlScript

/-- The lexical regions that a script is made of. -/
inductive Region where
  | normal
  | doubleQuote
  | singleQuote
  | blockComment
  | lineComment
  deriving DecidableEq, Repr

namespace Region

/-- Text in the region is a comment. -/
def isComment : Region → Bool
  | blockComment | lineComment => true
  | _ => false

/-- Text in the region is quoted. -/
def isQuoted : Region → Bool
  | doubleQuote | singleQuote => true
  | _ => false

/-- The quoted region that a character opens from outside, and closes from within. -/
def ofQuote? (c : Char) : Option Region :=
  if c = '"' then some doubleQuote else if c = '\'' then some singleQuote else none

end Region

/-- **The reader**: the region it is in, and the character before unless that character belonged
to a comment delimiter. -/
structure Lexer where
  region : Region := .normal
  previous : Option Char := none
  deriving DecidableEq, Repr

namespace Lexer

/-- Goes on in `r` after a comment delimiter, whose characters count for no other token. -/
def enter (r : Region) : Lexer := ⟨r, none⟩

/-- **One step of the reader.** A doubled quote closes its region and opens it again, so that
the text between stays quoted. A line comment lasts until the newline. -/
def advance (s : Lexer) (c : Char) : Lexer :=
  match s.region with
  | .normal =>
    if c = '*' ∧ s.previous = some '/' then enter .blockComment
    else if c = '-' ∧ s.previous = some '-' then enter .lineComment
    else ⟨(Region.ofQuote? c).getD .normal, some c⟩
  | .doubleQuote | .singleQuote =>
    ⟨if Region.ofQuote? c = some s.region then .normal else s.region, some c⟩
  | .blockComment =>
    if c = '/' ∧ s.previous = some '*' then enter .normal else ⟨.blockComment, some c⟩
  | .lineComment =>
    if c = '\n' then enter .normal else ⟨.lineComment, some c⟩

/-- The reader after a text. -/
def scan (s : Lexer) (cs : List Char) : Lexer := cs.foldl advance s

@[simp] theorem scan_nil (s : Lexer) : s.scan [] = s := rfl

@[simp] theorem scan_cons (s : Lexer) (c : Char) (cs : List Char) :
    s.scan (c :: cs) = (s.advance c).scan cs := rfl

theorem scan_append (s : Lexer) (as bs : List Char) :
    s.scan (as ++ bs) = (s.scan as).scan bs := List.foldl_append

end Lexer

end SqlScript
