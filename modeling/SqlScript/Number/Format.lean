import SqlScript.Number.Shortest

/-!
# Decimal text of doubles

A double is written with its shortest digits, in positional notation while its first digit is
near the point and with an exponent otherwise. The choices of one such style are a record.

* `Style`, `plain`: the choices, and the notation of this library.
* `floatText`: a double in a notation.
-/

namespace SqlScript.Number

/-- The choices of a decimal notation for doubles. -/
structure Style where
  /-- The least place of a first digit that is written positionally. -/
  leastPlace : Int
  /-- The first place of a first digit that is written with an exponent again. -/
  exponentFrom : Int
  /-- The fewest digits of an exponent. -/
  exponentDigits : Nat
  nanText : String
  infinityText : String

/-- **The notation of this library**: positional from `0.0001` to below `10 ^ 16` and always with
a fraction there; exponents have a sign and at least two digits. -/
def plain : Style := ⟨-4, 16, 2, "nan", "inf"⟩

/-- A digit string with zeros in front of it up to a width. -/
def padZeros (w : Nat) (s : String) : String :=
  String.ofList (List.replicate (w - s.length) '0') ++ s

/-- The decimal digits of a number, without the zeros at their end. -/
def significantDigits (d : Nat) : List Char :=
  let ds := Nat.toDigits 10 d
  match (ds.reverse.dropWhile (· == '0')).reverse with
  | [] => ['0']
  | ds => ds

/-- Digits with their first one at a place, in positional notation. -/
def positional (ds : List Char) (first : Int) : String :=
  if first < 0 then
    "0." ++ String.ofList (List.replicate (-first - 1).toNat '0' ++ ds)
  else
    let whole := ds.take (first.toNat + 1)
    let fraction := ds.drop (first.toNat + 1)
    String.ofList (whole ++ List.replicate (first.toNat + 1 - whole.length) '0') ++ "."
      ++ (if fraction.isEmpty then "0" else String.ofList fraction)

/-- Digits with their first one at a place, with an exponent. -/
def scientific (n : Style) (ds : List Char) (first : Int) : String :=
  String.ofList (ds.take 1)
    ++ (if ds.length ≤ 1 then "" else "." ++ String.ofList (ds.drop 1))
    ++ "e" ++ (if first < 0 then "-" else "+")
    ++ padZeros n.exponentDigits (toString first.natAbs)

/-- **A double in a notation.** -/
def Style.text (n : Style) (x : Float) : String :=
  match Binary64.ofFloat x with
  | .nan => n.nanText
  | .infinite negative => (if negative then "-" else "") ++ n.infinityText
  | .finite negative 0 _ => (if negative then "-" else "") ++ "0.0"
  | .finite negative m e =>
    let (d, place) := shortest m e
    let ds := significantDigits d
    let first := place + (digitCount d : Int) - 1
    (if negative then "-" else "") ++
      if n.leastPlace ≤ first ∧ first < n.exponentFrom then positional ds first
      else scientific n ds first

/-- A double in the notation of this library. -/
def floatText (x : Float) : String := plain.text x

end SqlScript.Number
