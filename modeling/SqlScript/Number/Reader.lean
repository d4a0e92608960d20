import SqlScript.Number.Binary64
import SqlScript.Text.Blank

/-!
# Reading numbers

Numbers as people write them in settings: a sign, digits, underscores between them, a fraction, an
exponent.

* `dropUnderscores?`, `withoutUnderscores?`: two rules for underscores.
* `readDigits`, `readWhole`: a whole number, in plain digits or more freely.
* `DecimalText`, `DecimalText.read?`: a decimal number in exact terms.
* `readFloat?`: a double.
-/

namespace SqlScript.Number

/-- Splits a sign off a text; `true` stands for a minus. -/
def splitSign : List Char → Bool × List Char
  | '-' :: cs => (true, cs)
  | '+' :: cs => (false, cs)
  | cs => (false, cs)

/-- The value of a string of ASCII digits. -/
def asciiValue (ds : List Char) : Nat := ds.foldl (fun n c => 10 * n + (c.toNat - 48)) 0

/-- The text without its underscores, if each stands alone between two digits. -/
def dropUnderscores? : List Char → Option (List Char)
  | [] => some []
  | '_' :: _ => none
  | c :: '_' :: d :: rest =>
    if c.isDigit && d.isDigit then (dropUnderscores? (d :: rest)).map (c :: ·) else none
  | c :: rest => (dropUnderscores? rest).map (c :: ·)

/-- The text without its underscores, unless one stands at an end or beside another. -/
def withoutUnderscores? (cs : List Char) : Option (List Char) :=
  let paired := (cs.zip (cs.drop 1)).any fun (a, b) => a == '_' && b == '_'
  if cs.head? == some '_' || cs.getLast? == some '_' || paired then none
  else some (cs.filter (· != '_'))

/-! ## Whole numbers -/

/-- The most digits of a whole number in a text. -/
def maxWholeDigits : Nat := 4300

/-- Why a text is no whole number. -/
inductive WholeError where
  | unreadable
  | oversized
  deriving DecidableEq, Repr

/-- What follows zeros and underscores, of which `last` is the latest. If that is nothing or a
point, `last` stays. -/
def afterZeros? (last : Char) : List Char → Option (List Char)
  | [] => some [last]
  | c :: cs =>
    if c == '0' || c == '_' then afterZeros? c cs
    else if c.isDigit || c == '-' then some (c :: cs)
    else if c == '.' then some (last :: c :: cs)
    else none

/-- The text without the zeros at its start; it has to begin with a digit or a minus. -/
def withoutZeros? : List Char → Option (List Char)
  | [] => none
  | '0' :: cs => afterZeros? '0' cs
  | c :: cs => if c.isDigit || c == '-' then some (c :: cs) else none

/-- The text before its point, if zeros follow and nothing else. -/
def withoutZeroFraction (cs : List Char) : List Char :=
  match cs.span (· != '.') with
  | (whole, _ :: zero :: zeros) => if (zero :: zeros).all (· == '0') then whole else cs
  | _ => cs

/-- Reads a minus, if there is one, and at most `most` digits without a zero too many. Too many
digits are worse than what follows them. -/
def readDigits (most : Nat) (cs : List Char) : Except WholeError Int :=
  let (negative, cs) := match cs with
    | '-' :: cs => (true, cs)
    | cs => (false, cs)
  let (ds, rest) := cs.span Char.isDigit
  match ds with
  | [] | '0' :: _ :: _ => .error .unreadable
  | _ =>
    if most < ds.length then .error .oversized
    else if !rest.isEmpty then .error .unreadable
    else .ok (if negative then -(asciiValue ds : Int) else asciiValue ds)

/-- The plain digits of a whole number that is written more freely: with padding around it, a plus,
zeros in front, single underscores between its digits, and a fraction of zeros. -/
def plainDigits? (cs : List Char) : Option (List Char) :=
  let found := match Text.unpadded cs with
    | '-' :: cs => (withoutZeros? cs).map ('-' :: ·)
    | '+' :: '-' :: _ => none
    | '+' :: cs => withoutZeros? cs
    | cs => withoutZeros? cs
  found.map fun cs =>
    let whole := withoutZeroFraction cs
    (withoutUnderscores? whole).getD whole

/-- **Reads a whole number** of at most `most` digits, plain or written more freely. Only a plain
one can be too large. -/
def readWhole (most : Nat) (cs : List Char) : Except WholeError Int :=
  match readDigits most cs with
  | .error .unreadable =>
    match (plainDigits? cs).map (readDigits most) with
    | some (.ok i) => .ok i
    | _ => .error .unreadable
  | found => found

/-! ## Decimal numbers -/

/-- A decimal number in exact terms: `digits * 10 ^ exponent` with its sign. -/
structure DecimalText where
  negative : Bool
  digits : Nat
  exponent : Int
  deriving DecidableEq, Repr

namespace DecimalText

/-- The exponent that a text is, if it is one: nothing, or the mark, a sign and digits. -/
def exponent? : List Char → Option Int
  | [] => some 0
  | e :: cs =>
    let (negative, ds) := splitSign cs
    if (e = 'e' ∨ e = 'E') ∧ !ds.isEmpty ∧ ds.all Char.isDigit then
      some (if negative then -(asciiValue ds : Int) else asciiValue ds)
    else none

/-- **Reads a decimal number.** There has to be a digit before or after the point. -/
def read? (cs : List Char) : Option DecimalText :=
  let (negative, cs) := splitSign cs
  let (whole, rest) := cs.span Char.isDigit
  let (fraction, rest) := match rest with
    | '.' :: rest => rest.span Char.isDigit
    | rest => ([], rest)
  if whole.isEmpty && fraction.isEmpty then none
  else (exponent? rest).map fun e =>
    ⟨negative, asciiValue (whole ++ fraction), e - fraction.length⟩

/-- The double nearest to a decimal number. -/
def toFloat (d : DecimalText) : Float := ofDecimal d.negative d.digits d.exponent

/-- The whole number that a decimal number is, if it is one. -/
def toInt? (d : DecimalText) : Option Int :=
  let signed (n : Nat) : Int := if d.negative then -(n : Int) else n
  if 0 ≤ d.exponent then some (signed (d.digits * Nat.pow 10 d.exponent.toNat))
  else
    let unit := Nat.pow 10 (-d.exponent).toNat
    if d.digits % unit = 0 then some (signed (d.digits / unit)) else none

end DecimalText

/-- The name of a number that is not finite, in letters of any case. -/
def namedFloat? (cs : List Char) : Option Float :=
  let (negative, cs) := splitSign cs
  match String.ofList (cs.map Char.toLower) with
  | "inf" | "infinity" => some (infinity negative)
  | "nan" => some nan
  | _ => none

/-- **Reads a double**: a decimal number, or a name. -/
def readFloat? (cs : List Char) : Option Float :=
  match namedFloat? cs with
  | some x => some x
  | none => (DecimalText.read? cs).map DecimalText.toFloat

end SqlScript.Number
