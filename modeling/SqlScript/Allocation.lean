import SqlScript.Failure
import SqlScript.Statement
import SqlScript.Value

/-!
# Allocating parameters

One flat list of parameters is dealt out to the statements of a script: each statement takes as
many values as it has placeholders, or whatever is left.

* `deal`: the batches and the parameters left over.
* `allocate`: the batches, and the warning about parameters left over.
-/

namespace SqlScript

/-- The values for the placeholders of one statement. -/
abbrev Batch := List Value

/-- **The batches** for statements with the given numbers of placeholders, and what is left. -/
def deal {α : Type} : List Nat → List α → List (List α) × List α
  | [], parameters => ([], parameters)
  | n :: counts, parameters =>
    let (batches, left) := deal counts (parameters.drop n)
    (parameters.take n :: batches, left)

/-- What allocation gives: the batches, and how many parameters no statement takes. -/
structure Allocation where
  batches : List Batch
  left : Nat
  /-- The number of parameters in the batches. -/
  taken : Nat

/-- The allocation of parameters to statements. -/
def Allocation.of (units : List StatementUnit) (parameters : List Value) : Allocation :=
  let (batches, left) := deal (units.map (·.placeholderCount)) parameters
  ⟨batches, left.length, parameters.length - left.length⟩

/-- **Allocation with its rule for what is left over.** Strictly, nothing may be left; otherwise
the rest is dropped with a warning. -/
def allocate (units : List StatementUnit) (parameters : List Value) (strict : Bool) :
    Except Failure (List Batch × Option String) :=
  let a := Allocation.of units parameters
  if a.left = 0 then .ok (a.batches, none)
  else if strict then .error (.excessParameters a.left a.taken units.length)
  else
    let excess := Failure.excessDescription a.left a.taken units.length
    .ok (a.batches, some (excess ++ "; discarding them."))

/-- There is one batch for each statement. -/
theorem length_deal {α : Type} (counts : List Nat) (parameters : List α) :
    (deal counts parameters).1.length = counts.length := by
  induction counts generalizing parameters with
  | nil => rfl
  | cons n counts ih => simp [deal, ih]

/-- Dealing loses nothing and keeps the order. -/
theorem flatten_deal {α : Type} (counts : List Nat) (parameters : List α) :
    (deal counts parameters).1.flatten ++ (deal counts parameters).2 = parameters := by
  induction counts generalizing parameters with
  | nil => rfl
  | cons n counts ih =>
    simp only [deal, List.flatten_cons, List.append_assoc, ih, List.take_append_drop]

end SqlScript
