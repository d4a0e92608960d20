/-!
# Base64 for addresses

Byte strings as text over the alphabet that is safe in addresses: letters, digits, `-` and `_`,
with `=` up to a multiple of four characters.

* `base64`: the text of a byte string.
-/

namespace SqlScript.Bytes

/-- The character for a six-bit number. -/
def base64Char (n : Nat) : Char :=
  if n < 26 then Char.ofNat (65 + n)
  else if n < 52 then Char.ofNat (71 + n)
  else if n < 62 then Char.ofNat (n - 4)
  else if n = 62 then '-' else '_'

/-- **The text of a byte string**: four characters for three bytes. -/
def base64 : List UInt8 → List Char
  | [] => []
  | [a] =>
    let n := a.toNat * 16
    [base64Char (n / 64), base64Char (n % 64), '=', '=']
  | [a, b] =>
    let n := (a.toNat * 256 + b.toNat) * 4
    [base64Char (n / 4096), base64Char (n / 64 % 64), base64Char (n % 64), '=']
  | a :: b :: c :: rest =>
    let n := (a.toNat * 256 + b.toNat) * 256 + c.toNat
    base64Char (n / 262144) :: base64Char (n / 4096 % 64) :: base64Char (n / 64 % 64)
      :: base64Char (n % 64) :: base64 rest

/-- Four characters stand for every three bytes begun. -/
theorem length_base64 (bs : List UInt8) : (base64 bs).length = 4 * ((bs.length + 2) / 3) := by
  fun_induction base64 bs with
  | case1 => rfl
  | case2 => simp
  | case3 => simp
  | case4 a b c rest _ ih => simp only [List.length_cons, ih]; omega

end SqlScript.Bytes
