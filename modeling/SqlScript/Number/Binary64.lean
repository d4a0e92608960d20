/-!
# Binary64 numbers

What a double-precision number is, in exact terms: a sign, a whole number and a power of two. The
way back rounds an exact quotient to the nearest double, ties going to the even one.

* `Binary64`, `Binary64.ofFloat`: the exact reading of a double.
* `ofDecimal`: the double nearest to a decimal number.
* `truncate`: the whole part of a double.
-/

namespace SqlScript.Number

/-- A double in exact terms; a finite one is `mantissa * 2 ^ exponent` with its sign. -/
inductive Binary64 where
  | nan
  | infinite (negative : Bool)
  | finite (negative : Bool) (mantissa : Nat) (exponent : Int)
  deriving DecidableEq, Repr

/-- The exact reading of a double. -/
def Binary64.ofFloat (x : Float) : Binary64 :=
  let bits := x.toBits.toNat
  let negative : Bool := 1 <<< 63 ≤ bits
  let biased : Nat := bits / (1 <<< 52) % (1 <<< 11)
  let fraction : Nat := bits % (1 <<< 52)
  if biased = 2047 then
    if fraction = 0 then .infinite negative else .nan
  else if biased = 0 then .finite negative fraction (-1074)
  else .finite negative ((1 <<< 52) + fraction) ((biased : Int) - 1075)

/-- The whole number nearest to `num / den`, a tie going to the even one. -/
def roundDiv (num den : Nat) : Nat :=
  let q := num / den
  let r := num % den
  if 2 * r < den then q
  else if den < 2 * r then q + 1
  else if q % 2 = 0 then q else q + 1

/-- The bits of the positive double nearest to `num / den`, where neither is zero. -/
def bitsOfQuotient (num den : Nat) : Nat :=
  -- the quotient lies between 2 ^ (guess - 1) and 2 ^ (guess + 1)
  let guess : Int := (num.log2 : Int) - den.log2
  let exponentAt (e : Int) : Int := max (e - 52) (-1074)
  let scaled (e : Int) : Nat :=
    if 0 ≤ e then roundDiv num (den <<< e.toNat) else roundDiv (num <<< (-e).toNat) den
  let below : Bool :=
    if 0 ≤ guess then num < den <<< guess.toNat else num <<< (-guess).toNat < den
  let e := exponentAt (if below then guess - 1 else guess)
  min (((e + 1074).toNat <<< 52) + scaled e) (2047 <<< 52)

/-- **The double nearest to a decimal number** `digits * 10 ^ exponent`, with its sign. What is
too large becomes infinite, what is too small becomes zero. -/
def ofDecimal (negative : Bool) (digits : Nat) (exponent : Int) : Float :=
  let size : Int := (digits.log2 : Int) / 4 + exponent
  let bits :=
    if digits = 0 ∨ size < -5000 - (digits.log2 : Int) then 0
    else if 400 < size then 2047 <<< 52
    else if 0 ≤ exponent then bitsOfQuotient (digits * Nat.pow 10 exponent.toNat) 1
    else bitsOfQuotient digits (Nat.pow 10 (-exponent).toNat)
  Float.ofBits (UInt64.ofNat (bits + if negative then 1 <<< 63 else 0))

/-- The double nearest to a whole number. -/
def ofInt (i : Int) : Float := ofDecimal (i < 0) i.natAbs 0

/-- The first whole number that does not fit into 64 bits with its sign. -/
def wordLimit : Nat := 1 <<< 63

/-- The number that is not one. -/
def nan : Float := Float.ofBits 0x7ff8000000000000

/-- Infinity with a sign. -/
def infinity (negative : Bool) : Float :=
  Float.ofBits (if negative then 0xfff0000000000000 else 0x7ff0000000000000)

/-- **The whole part** of a double: its fraction is dropped, whatever its sign. A number that is
not finite has the whole part zero. -/
def truncate (x : Float) : Int :=
  match Binary64.ofFloat x with
  | .finite negative m e =>
    let whole : Nat := if 0 ≤ e then m <<< e.toNat else m >>> (-e).toNat
    if negative then -(whole : Int) else whole
  | _ => 0

/-- Whether a double is finite. -/
def isFinite (x : Float) : Bool :=
  match Binary64.ofFloat x with
  | .finite .. => true
  | _ => false

/-- Whether a finite double is a whole number. -/
def isWhole (x : Float) : Bool :=
  match Binary64.ofFloat x with
  | .finite _ m e => 0 ≤ e || m % (1 <<< (-e).toNat) == 0
  | _ => false

end SqlScript.Number
