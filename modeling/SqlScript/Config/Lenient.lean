import SqlScript.Bytes.Encoding
import SqlScript.Config
import SqlScript.Number.Reader

/-!
# Lenient validation

The validation that the program uses. A value of one kind is read as one of another kind wherever
nothing is lost: texts and bytes are read as numbers and truth values, whole doubles as whole
numbers.

* `Config.Mistake`: what can be wrong with an input.
* `Config.wholeOf`, `Config.numberOf`, `Config.truthOf`, `Config.stringOf`: readings of values.
* `Config.Validation.lenient`: the validation.
-/

namespace SqlScript.Config

/-! ## Mistakes -/

/-- What can be wrong with an input. -/
inductive Mistake where
  | notWhole
  | unreadableWhole
  | oversizedWhole
  | fractionalWhole
  | notFinite
  | notNumber
  | unreadableNumber
  | notTruth
  | unreadableTruth
  | notText
  | undecodableText
  | notPath
  | below (bound : Nat)
  | notAbove (bound : Nat)
  deriving DecidableEq, Repr

namespace Mistake

/-- The stable name of a mistake. -/
def code : Mistake → String
  | notWhole => "int_type"
  | unreadableWhole => "int_parsing"
  | oversizedWhole => "int_parsing_size"
  | fractionalWhole => "int_from_float"
  | notFinite => "finite_number"
  | notNumber => "float_type"
  | unreadableNumber => "float_parsing"
  | notTruth => "bool_type"
  | unreadableTruth => "bool_parsing"
  | notText => "string_type"
  | undecodableText => "string_unicode"
  | notPath => "path_type"
  | below _ => "greater_than_equal"
  | notAbove _ => "greater_than"

/-- The description of a mistake. -/
def message : Mistake → String
  | notWhole => "Input should be a valid integer"
  | unreadableWhole => "Input should be a valid integer, unable to parse string as an integer"
  | oversizedWhole => "Unable to parse input string as an integer, exceeded maximum size"
  | fractionalWhole => "Input should be a valid integer, got a number with a fractional part"
  | notFinite => "Input should be a finite number"
  | notNumber => "Input should be a valid number"
  | unreadableNumber => "Input should be a valid number, unable to parse string as a number"
  | notTruth => "Input should be a valid boolean"
  | unreadableTruth => "Input should be a valid boolean, unable to interpret input"
  | notText => "Input should be a valid string"
  | undecodableText =>
    "Input should be a valid string, unable to parse raw data as a unicode string"
  | notPath => "Input is not a valid path for <class 'pathlib.Path'>"
  | below bound => s!"Input should be greater than or equal to {bound}"
  | notAbove bound => s!"Input should be greater than {bound}"

/-- The complaint of a mistake. -/
def complaint (m : Mistake) : Complaint := ⟨m.code, m.message⟩

end Mistake

/-! ## Reading values -/

/-- The text of a text or of a plain byte string; `undecodable` is the mistake of bytes that are no
text. -/
def textOf? (undecodable : Mistake) : Value → Except Mistake (Option String)
  | .text s => .ok (some s)
  | .bytes .plain bs =>
    match Bytes.decodeUtf8 bs with
    | .ok cs => .ok (some (String.ofList cs))
    | .error _ => .error undecodable
  | _ => .ok none

/-- The text that is going to be read as something else. It has to have bytes, and so it holds no
half of a surrogate pair. -/
def readableTextOf? (undecodable : Mistake) (v : Value) :
    Except Mistake (Option String) :=
  match v with
  | .text s =>
    if (Text.codePoints s.toList).any Text.isSurrogate then .error .undecodableText
    else .ok (some s)
  | v => textOf? undecodable v

/-- A whole number from its text. -/
def wholeOfText (s : String) : Except Mistake Int :=
  match Number.readWhole Number.maxWholeDigits s.toList with
  | .ok i => .ok i
  | .error .unreadable => .error .unreadableWhole
  | .error .oversized => .error .oversizedWhole

/-- A whole number from a double: it has to be one, and to fit into 64 bits. -/
def wholeOfFloat (x : Float) : Except Mistake Int :=
  if !Number.isFinite x then .error .notFinite
  else if !Number.isWhole x then .error .fractionalWhole
  else
    let n := Number.truncate x
    if n.natAbs < Number.wordLimit then .ok n else .error .oversizedWhole

/-- A whole number from an exact decimal. -/
def wholeOfDecimal : Number.Decimal → Except Mistake Int
  | .finite d => match d.toInt? with
    | some n => .ok n
    | none => .error .fractionalWhole
  | .infinite _ | .nan .. => .error .notFinite

/-- **A whole number from a value.** -/
def wholeOf (v : Value) : Except Mistake Int := do
  match ← readableTextOf? .unreadableWhole v with
  | some s => wholeOfText s
  | none => match v with
    | .int i => .ok i
    | .bool b => .ok (if b then 1 else 0)
    | .float x => wholeOfFloat x
    | .decimal d => wholeOfDecimal d
    | _ => .error .notWhole

/-- The double that a value is by its kind. A whole number that is too large for one is none. -/
def float? : Value → Option Float
  | .int i =>
    let x := Number.ofInt i
    if Number.isFinite x then some x else none
  | .bool b => some (if b then 1 else 0)
  | .float x => some x
  | .decimal d => d.toFloat?
  | _ => none

/-- The double that a text is. A text with underscores is taken as it is, padding and all. -/
def floatOfText? (s : String) : Option Float :=
  match Number.readFloat? (Text.unpadded s.toList) with
  | some x => some x
  | none => (Number.withoutUnderscores? s.toList).bind Number.readFloat?

/-- **A number from a value.** -/
def numberOf (v : Value) : Except Mistake Float := do
  match ← readableTextOf? .unreadableNumber v with
  | some s => match floatOfText? s with
    | some x => .ok x
    | none => .error .unreadableNumber
  | none => match float? v with
    | some x => .ok x
    | none => .error .notNumber

/-- The texts that stand for true and for false, in small letters. -/
def truthTexts : List (String × Bool) :=
  [("0", false), ("off", false), ("f", false), ("false", false), ("n", false), ("no", false),
    ("1", true), ("on", true), ("t", true), ("true", true), ("y", true), ("yes", true)]

/-- A truth value from a whole number, which has to fit into 64 bits. -/
def truthOfWhole (i : Int) : Except Mistake Bool :=
  if i = 0 then .ok false
  else if i = 1 then .ok true
  else if -(Number.wordLimit : Int) ≤ i ∧ i < Number.wordLimit then .error .unreadableTruth
  else .error .notTruth

/-- **A truth value from a value.** A number has to be whole and to fit into 64 bits. -/
def truthOf (v : Value) : Except Mistake Bool := do
  match ← readableTextOf? .unreadableTruth v with
  | some s =>
    match truthTexts.find? (·.1 == String.ofList (s.toList.map Char.toLower)) with
    | some (_, b) => .ok b
    | none => .error .unreadableTruth
  | none => match v with
    | .bool b => .ok b
    | .int i => truthOfWhole i
    | v => match float? v with
      | none => .error .notTruth
      | some x => match wholeOfFloat x with
        | .ok i => truthOfWhole i
        | .error _ => .error .notTruth

/-- **A text from a value.** -/
def stringOf (v : Value) : Except Mistake String := do
  match ← textOf? .undecodableText v with
  | some s => .ok s
  | none => match v with
    | .bytes .mutable bs => match Bytes.decodeUtf8 bs with
      | .ok cs => .ok (String.ofList cs)
      | .error _ => .error .undecodableText
    | _ => .error .notText

/-! ## The validation -/

/-- A reading of values as one of inputs, for which a path is a mistake. -/
def ofValue {α : Type} (read : Value → Except Mistake α) (ofPath : Mistake) :
    Input → Except Mistake α
  | .value v => read v
  | .path _ => .error ofPath

/-- A reading with what its result has to keep to, and the mistake that it does not. -/
def within {α : Type} (read : Input → Except Mistake α) (Holds : α → Prop) [DecidablePred Holds]
    (beyond : Mistake) (i : Input) : Except Complaint α :=
  match read i with
  | .ok x => if Holds x then .ok x else .error beyond.complaint
  | .error m => .error m.complaint

/-- **A path from an input.** -/
def pathOf : Input → Except Mistake Path
  | .path p => .ok p
  | .value (.text s) => .ok (.ofString s)
  | .value _ => .error .notPath

/-- The mistake of a number beyond a bound. -/
def Bound.beyond : Bound → Mistake
  | atLeast limit => .below limit
  | above limit => .notAbove limit

/-- **The lenient validation.** -/
def Validation.lenient : Validation where
  text i := (ofValue stringOf .notText i).mapError Mistake.complaint
  whole least := within (ofValue wholeOf .notWhole) (least ≤ ·) (.below least.toNat)
  number bound := within (ofValue numberOf .notNumber) bound.Holds bound.beyond
  path i := (pathOf i).mapError Mistake.complaint
  truth i := (ofValue truthOf .notTruth i).mapError Mistake.complaint

end SqlScript.Config
