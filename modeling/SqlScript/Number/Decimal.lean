import SqlScript.Number.Reader

/-!
# Decimals

Exact decimal numbers, which keep the number of their places: `1.10` is not written `1.1`.

* `Decimal`: finite numbers, the infinities, and what is no number.
* `Decimal.text`: the text of a decimal.
* `Decimal.toFloat?`: the nearest double.
-/

namespace SqlScript.Number

/-- **A decimal number.** -/
inductive Decimal where
  | finite (d : DecimalText)
  | infinite (negative : Bool)
  /-- No number. It can be one that no computation accepts, and it can carry a payload. -/
  | nan (negative signaling : Bool) (payload : Nat)
  deriving DecidableEq, Repr

namespace Decimal

instance : Inhabited Decimal := ⟨.finite ⟨false, 0, 0⟩⟩

/-- The digits of a finite number with their point. There is no exponent unless digits before the
point would be missing, or more than five zeros would follow the point. -/
def finiteText (d : DecimalText) : String :=
  let digits := (toString d.digits).toList
  let count : Int := digits.length
  -- the place of the point among the digits, without an exponent
  let point := count + d.exponent
  let place := if d.exponent ≤ 0 ∧ -6 < point then point else 1
  let mantissa :=
    if place ≤ 0 then '0' :: '.' :: (List.replicate (-place).toNat '0' ++ digits)
    else if count ≤ place then digits
    else digits.take place.toNat ++ '.' :: digits.drop place.toNat
  let exponent := point - place
  let mark := if 0 < exponent then "E+" else "E"
  String.ofList mantissa ++ if exponent = 0 then "" else mark ++ toString exponent

/-- **The text of a decimal.** -/
def text : Decimal → String
  | finite d => (if d.negative then "-" else "") ++ finiteText d
  | infinite negative => (if negative then "-" else "") ++ "Infinity"
  | nan negative signaling payload =>
    (if negative then "-" else "") ++ (if signaling then "sNaN" else "NaN")
      ++ if payload = 0 then "" else toString payload

/-- **The nearest double.** What no computation accepts has none. -/
def toFloat? : Decimal → Option Float
  | finite d => some d.toFloat
  | infinite negative => some (infinity negative)
  | nan _ signaling _ => if signaling then none else some Number.nan

end Decimal

end SqlScript.Number
