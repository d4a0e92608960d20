import SqlScript.Literal.Numeral

/-!
# Trees

What a literal is made of, once it is known how its tokens belong together. Only constants,
tuples, sets and dictionaries have a value, but everything that could be an expression has a
tree, since what is wrong with a text depends on what it looks like.

* `Tree`: names, constants, and forms with their parts.
* `Tree.description`: what a tree is called when it stands where it cannot.
* `Tree.nonTarget?`, `Tree.firstNonTarget?_eq_none`: what in a tree cannot be assigned to.
-/

namespace SqlScript.Literal

/-- The constants. -/
inductive Constant where
  | number (n : Numeral)
  | text
  | bytes
  | truth (b : Bool)
  | none
  | ellipsis
  deriving DecidableEq, Repr

/-- The forms of expressions, and of what expressions are made of. -/
inductive Form where
  | tuple
  | set
  | dict
  /-- A key of a dictionary with its value. -/
  | entry
  /-- The entries of another dictionary. -/
  | spread
  /-- The items of another expression. -/
  | starred
  | member
  | call
  | arguments
  /-- An argument with its name. -/
  | keyword
  /-- The arguments that a dictionary holds. -/
  | unpacked
  | lambda
  | generator
  | setComprehension
  | dictComprehension
  | yield
  | await
  | conditional
  /-- An expression that is given a name. -/
  | named
  | comparison
  /-- The part of a comparison that asks for membership. -/
  | membership
  /-- Another part of a comparison. -/
  | relation
  | sum
  | difference
  | positive
  | negative
  /-- Another operation on one or two expressions, or on truth values. -/
  | operation
  /-- A quotation with expressions inside. -/
  | template
  deriving DecidableEq, Repr

/-- **A tree.** -/
inductive Tree where
  | name (text : List Char)
  | constant (c : Constant)
  /-- A quotation as it is written, with the line that it begins in. -/
  | quotation (text : List Char) (line : Nat)
  | node (form : Form) (parts : List Tree)
  deriving Repr

/-- What a constant is called. -/
def Constant.description : Constant → String
  | truth true => "True"
  | truth false => "False"
  | none => "None"
  | ellipsis => "ellipsis"
  | _ => "literal"

/-- What an expression of a form is called. -/
def Form.description : Form → String
  | tuple => "tuple"
  | set => "set display"
  | dict => "dict literal"
  | starred => "starred"
  | member => "attribute"
  | call => "function call"
  | lambda => "lambda"
  | generator => "generator expression"
  | setComprehension => "set comprehension"
  | dictComprehension => "dict comprehension"
  | yield => "yield expression"
  | await => "await expression"
  | conditional => "conditional expression"
  | named => "named expression"
  | comparison => "comparison"
  | template => "f-string expression"
  | _ => "expression"

namespace Tree

/-- **What a tree is called** when it stands where it cannot. -/
def description : Tree → String
  | name _ => "name"
  | constant c => c.description
  | quotation .. => "literal"
  | node form _ => form.description

/-- Whether a tree is the name of a statement that became a function. -/
def isFormerStatement : Tree → Bool
  | name text => text == "print".toList || text == "exec".toList
  | _ => false

mutual

/-- **What in a tree cannot be the target of a loop.** A membership test looks like a loop, so that
its left side counts. -/
def nonTarget? : Tree → Option Tree
  | name _ | node .member _ => none
  | node .tuple parts | node .starred parts => firstNonTarget? parts
  | node .comparison (left :: node .membership _ :: _) => left.nonTarget?
  | node .comparison _ => none
  | t => some t

/-- The first of some trees that cannot be the target of a loop. -/
def firstNonTarget? : List Tree → Option Tree
  | [] => none
  | t :: ts => t.nonTarget? <|> firstNonTarget? ts

end

/-- **Trees are targets together** if each is one. -/
theorem firstNonTarget?_eq_none {ts : List Tree} :
    firstNonTarget? ts = none ↔ ∀ t ∈ ts, t.nonTarget? = none := by
  induction ts with
  | nil => simp [firstNonTarget?]
  | cons t ts ih => simp [firstNonTarget?, ih]

end Tree

end SqlScript.Literal
