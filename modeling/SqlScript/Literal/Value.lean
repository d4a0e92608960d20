import SqlScript.Literal.Tree
import SqlScript.Number.Binary64

/-!
# Values

The values of literals: constants, numbers with signs, complex numbers, tuples, sets and
dictionaries. What sets and dictionaries hold must not change, so that they are in no set and are
no keys.

* `Value`: a value, as far as it matters.
* `Tree.value`: the value of a tree.
* `changeable?_tuple`: a tuple is as fixed as its items.
-/

namespace SqlScript.Literal

/-- **The value of a literal**, as far as it matters. -/
inductive Value where
  | number (n : Numeral)
  | constant
  | tuple (items : List Value)
  | set
  | dict

mutual

/-- What is said about a value that can change, in a set or as a key. -/
def Value.changeable? : Value → Option String
  | .set => some "unhashable type: 'set'"
  | .dict => some "unhashable type: 'dict'"
  | .tuple items => firstChangeable? items
  | .number _ | .constant => none

/-- What is said about the first of some values that can change. -/
def firstChangeable? : List Value → Option String
  | [] => none
  | v :: vs => v.changeable? <|> firstChangeable? vs

end

/-- Values cannot change together if each cannot. -/
theorem firstChangeable?_eq_none {vs : List Value} :
    firstChangeable? vs = none ↔ ∀ v ∈ vs, v.changeable? = none := by
  induction vs with
  | nil => simp [firstChangeable?]
  | cons v vs ih => simp [firstChangeable?, ih]

/-- **A tuple cannot change** if its items cannot. -/
theorem changeable?_tuple {vs : List Value} :
    (Value.tuple vs).changeable? = none ↔ ∀ v ∈ vs, v.changeable? = none := by
  rw [Value.changeable?, firstChangeable?_eq_none]

/-- Makes sure that a value cannot change. -/
def Value.checkFixed (v : Value) : Except String Unit :=
  match v.changeable? with
  | some message => .error message
  | none => .ok ()

namespace Tree

/-- What is said about a tree without a value. -/
def malformed : String := "malformed node or string"

/-- The number that a tree is. -/
def number : Tree → Except String Numeral
  | constant (.number n) => .ok n
  | _ => .error malformed

/-- The number with a sign that a tree is. -/
def signedNumber : Tree → Except String Numeral
  | node .positive [t] | node .negative [t] => t.number
  | t => t.number

/-- A complex number of a real part and an imaginary part. -/
def complexNumber (left right : Tree) : Except String Value := do
  match ← left.signedNumber, ← right.number with
  | .whole n, .imaginary =>
    if Number.isFinite (Number.ofInt n) then return .number .imaginary
    else throw "int too large to convert to float"
  | .real, .imaginary => return .number .imaginary
  | _, _ => throw malformed

mutual

/-- **The value of a tree.** -/
def value : Tree → Except String Value
  | constant (.number n) => .ok (.number n)
  | constant _ => .ok .constant
  | node .tuple parts => return .tuple (← values parts)
  | node .set parts => do
    checkItems parts
    return .set
  | node .dict parts => do
    checkEntries parts
    return .dict
  | node .call [name text] => if text == "set".toList then .ok .set else .error malformed
  | node .sum [left, right] | node .difference [left, right] => complexNumber left right
  | t => return .number (← t.signedNumber)

/-- The values of some trees. -/
def values : List Tree → Except String (List Value)
  | [] => .ok []
  | t :: ts => return (← t.value) :: (← values ts)

/-- Checks the items of a set, each before the next is read. -/
def checkItems : List Tree → Except String Unit
  | [] => .ok ()
  | t :: ts => do
    (← t.value).checkFixed
    checkItems ts

/-- Checks the entries of a dictionary, each before the next is read. -/
def checkEntries : List Tree → Except String Unit
  | [] => .ok ()
  | node .entry [key, item] :: ts => do
    let key ← key.value
    let _ ← item.value
    key.checkFixed
    checkEntries ts
  | _ :: _ => .error s!"{malformed}: None"

end

end Tree

end SqlScript.Literal
