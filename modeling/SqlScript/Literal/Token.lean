/-!
# Tokens

The pieces that the text of a literal is made of, as names, numbers, quotations and operators, and
what can be wrong with a text before anything is known of how its pieces belong together.

* `Token`: a piece, with its place.
* `ScanFault`: what ends the tokens early.
* `Tokens`: the tokens of a text.
-/

namespace SqlScript.Literal

/-- The kinds of tokens. -/
inductive Token.Kind where
  | name
  /-- A word with a meaning of its own. -/
  | keyword
  | number
  /-- A text in quotes, with the letters in front of them. -/
  | quotation
  | operator
  /-- The end of a line that holds something. -/
  | newline
  /-- The start of a line that lies deeper than the one before. -/
  | indent
  /-- The end of lines that lie deeper. -/
  | dedent
  /-- The end of the text. -/
  | finish
  deriving DecidableEq, Repr

/-- **A token.** -/
structure Token where
  kind : Token.Kind
  text : List Char
  /-- The line that it ends in; for a quotation the one that it begins in. -/
  line : Nat
  /-- The number of brackets that are open behind it. -/
  depth : Nat
  /-- Whether the end of the text was seen when the end of the token was looked for. -/
  last : Bool
  deriving DecidableEq, Repr

/-- An opening bracket, with its line. -/
structure Bracket where
  char : Char
  line : Nat
  deriving DecidableEq, Repr

/-- What is said about a bracket that is open at the end. -/
def Bracket.neverClosed (b : Bracket) : String := s!"'{b.char}' was never closed"

/-- **What ends the tokens early.** -/
structure ScanFault where
  message : String
  /-- Whether it counts for more than what is wrong with the tokens before it. -/
  overrides : Bool
  /-- The latest bracket that is open. -/
  bracket : Option Bracket
  deriving DecidableEq, Repr

/-- **The tokens of a text**, which end with its end or with a fault. -/
structure Tokens where
  all : Array Token
  fault : Option ScanFault
  deriving Repr

/-- The words with a meaning of their own. -/
def keywords : List String :=
  ["False", "None", "True", "and", "as", "assert", "async", "await", "break", "class", "continue",
    "def", "del", "elif", "else", "except", "finally", "for", "from", "global", "if", "import",
    "in", "is", "lambda", "nonlocal", "not", "or", "pass", "raise", "return", "try", "while",
    "with", "yield"]

/-- The operators of more than one character. -/
def longOperators : List String :=
  ["**=", "//=", "<<=", ">>=", "...", "!=", "%=", "&=", "**", "*=", "+=", "-=", "->", "//", "/=",
    ":=", "<<", "<=", "<>", "==", ">=", ">>", "@=", "^=", "|="]

/-- The opening brackets with their closing ones. -/
def brackets : List (Char × Char) := [('(', ')'), ('[', ']'), ('\x7b', '\x7d')]

/-- Brackets inside brackets, at most. -/
def maxBrackets : Nat := 200

/-- Lines deeper than lines, at most. -/
def maxIndents : Nat := 99

end SqlScript.Literal
