import SqlScript.Number.Binary64

/-!
# Shortest decimal digits

The fewest decimal digits that read back as the same double, and of those the nearest to it. The
numbers that read back as a double are those between the midpoints to its neighbours; the ends
belong to it when its mantissa is even.

* `shortest`: digits and place of the first digit.
-/

namespace SqlScript.Number

/-- The exact interval of the numbers that round to a double, in units of `2 ^ scale`. -/
structure Rounding where
  low : Nat
  value : Nat
  high : Nat
  scale : Int
  /-- The ends round to the double too. -/
  closed : Bool

/-- The interval of `mantissa * 2 ^ exponent`. Below a power of two the doubles are twice as
dense. -/
def Rounding.ofFinite (mantissa : Nat) (exponent : Int) : Rounding :=
  let below := if mantissa = 1 <<< 52 ∧ -1074 < exponent then 1 else 2
  ⟨4 * mantissa - below, 4 * mantissa, 4 * mantissa + 2, exponent - 2, mantissa % 2 = 0⟩

/-- `a * 2 ^ scale` as a quotient of whole numbers. -/
def Rounding.quotient (r : Rounding) (a : Nat) : Nat × Nat :=
  if 0 ≤ r.scale then (a <<< r.scale.toNat, 1) else (a, 1 <<< (-r.scale).toNat)

/-- `d * 10 ^ place` as a quotient of whole numbers. -/
def decimalQuotient (d : Nat) (place : Int) : Nat × Nat :=
  if 0 ≤ place then (d * Nat.pow 10 place.toNat, 1) else (d, Nat.pow 10 (-place).toNat)

/-- Compares two quotients. -/
def compareQuotients (a b : Nat × Nat) : Ordering := compare (a.1 * b.2) (b.1 * a.2)

/-- Whether `d * 10 ^ place` lies in the interval. -/
def Rounding.contains (r : Rounding) (d : Nat) (place : Int) : Bool :=
  let x := decimalQuotient d place
  let atLow := compareQuotients (r.quotient r.low) x
  let atHigh := compareQuotients x (r.quotient r.high)
  (atLow == .lt || (r.closed && atLow == .eq)) && (atHigh == .lt || (r.closed && atHigh == .eq))

/-- The number of decimal digits. -/
def digitCount (n : Nat) : Nat := (Nat.toDigits 10 n).length

/-- The place of the first digit of a quotient: the power of ten at or below it. -/
def leadingPlace (x : Nat × Nat) : Int :=
  if x.2 ≤ x.1 then (digitCount (x.1 / x.2) : Int) - 1
  else
    let j := digitCount (x.2 / x.1)
    if x.2 ≤ x.1 * Nat.pow 10 (j - 1) then 1 - (j : Int) else -(j : Int)

/-- The whole number of steps `10 ^ place` in a quotient. -/
def stepsIn (x : Nat × Nat) (place : Int) : Nat :=
  if 0 ≤ place then x.1 / (x.2 * Nat.pow 10 place.toNat) else x.1 * Nat.pow 10 (-place).toNat / x.2

/-- The nearer of the two neighbours `d` and `d + 1` on the decimal grid at `place`, a tie going
to the even one. -/
def nearer (x : Nat × Nat) (d : Nat) (place : Int) : Nat :=
  match compareQuotients x (decimalQuotient (10 * d + 5) (place - 1)) with
  | .lt => d
  | .gt => d + 1
  | .eq => if d % 2 = 0 then d else d + 1

/-- The first grid, from `digits` digits on, that has a point in the interval. -/
def shortestFrom (r : Rounding) (first : Int) : (fuel digits : Nat) → Nat × Int
  | 0, digits => (stepsIn (r.quotient r.value) (first + 1 - digits), first + 1 - digits)
  | fuel + 1, digits =>
    let x := r.quotient r.value
    let place := first + 1 - digits
    let d := stepsIn x place
    match r.contains d place, r.contains (d + 1) place with
    | true, true => (nearer x d place, place)
    | true, false => (d, place)
    | false, true => (d + 1, place)
    | false, false => shortestFrom r first fuel (digits + 1)

/-- **The shortest digits** of `mantissa * 2 ^ exponent`, which is not zero: `(d, place)` with
`d * 10 ^ place` the number that is written. Seventeen digits always suffice. -/
def shortest (mantissa : Nat) (exponent : Int) : Nat × Int :=
  let r := Rounding.ofFinite mantissa exponent
  shortestFrom r (leadingPlace (r.quotient r.value)) 17 1

end SqlScript.Number
