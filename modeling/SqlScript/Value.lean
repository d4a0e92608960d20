import SqlScript.Fault
import SqlScript.Json
import SqlScript.Temporal
import SqlScript.Bytes.Base64
import SqlScript.Number.Decimal

/-!
# Values

The values that are bound to placeholders and found in result rows, their texts, and their JSON
forms.

* `Value`: the values.
* `Value.display`, `Value.literal`: a value as shown on its own and inside a list.
* `Value.toJson`: the JSON form of a value that has one.
* `Value.ofArgument`: the value that an argument of the command line stands for.
* `Value.normalize`: a value that needs its connection no more.
-/

namespace SqlScript

/-- The forms in which a driver hands over byte strings. -/
inductive BytesForm where
  | plain
  | mutable
  | view
  deriving DecidableEq, Repr

/-- A value of the database or of the caller. A temporal value can be of the driver's own kind. -/
inductive Value where
  | null
  | bool (b : Bool)
  | int (i : Int)
  | float (x : Float)
  | text (s : String)
  | bytes (form : BytesForm) (bs : List UInt8)
  /-- A handle on a large byte string, with what reading it gives. -/
  | handle (content : Except Fault (List UInt8))
  | decimal (d : Number.Decimal)
  | date (d : Date) (driverKind : Bool)
  | time (t : TimeOfDay) (driverKind : Bool)
  | dateTime (d : DateTime) (driverKind : Bool)
  | list (items : List Value)
  /-- Any other object, with its text. It may have a field named like the reading of a handle. -/
  | foreign (description : String) (readField : Bool)

instance : Inhabited Value := ⟨.null⟩

namespace Value

/-! ## Texts -/

mutual

/-- **The text of a value** as it stands inside a list: texts are quoted, and dates and times are
expressions. -/
def literal : Value → String
  | .null => "None"
  | .bool b => if b then "True" else "False"
  | .int i => toString i
  | .float x => Number.floatText x
  | .text s => Text.quoted s
  | .bytes .mutable bs => "bytearray(" ++ Text.quotedMutableBytes bs ++ ")"
  | .bytes _ bs => Text.quotedBytes bs
  | .handle _ => "<handle>"
  | .decimal d => "Decimal(" ++ Text.quoted d.text ++ ")"
  | .date d _ => d.expression
  | .time t _ => t.expression
  | .dateTime d _ => d.expression
  | .list items => "[" ++ ", ".intercalate (literals items) ++ "]"
  | .foreign description _ => description

/-- The texts of the items of a list. -/
def literals : List Value → List String
  | [] => []
  | v :: vs => literal v :: literals vs

end

/-- **The text of a value** on its own. -/
def display : Value → String
  | .text s => s
  | .decimal d => d.text
  | .date d _ => d.iso
  | .time t _ => t.iso
  | .dateTime d _ => d.iso " "
  | v => v.literal

/-! ## JSON -/

/-- Why a value has no JSON form. -/
inductive JsonError where
  /-- It is of a kind that has none. -/
  | formless
  /-- It lies too deep within lists. -/
  | tooDeep
  deriving DecidableEq, Repr

/-- The fault of a value without JSON form. -/
def JsonError.fault : JsonError → Fault
  | formless => .of .unserializable ""
  | tooDeep => .of .value "Maximum serialization depth exceeded"

/-- How many values may lie within each other, the innermost one included. -/
def maxJsonDepth : Nat := 255

mutual

/-- The JSON form of a value that may be `room` deep. -/
def toJsonWithin (room : Nat) (v : Value) : Except JsonError Json :=
  if room = 0 then .error .tooDeep
  else match v with
    | .null => .ok .null
    | .bool b => .ok (.bool b)
    | .int i => .ok (.int i)
    | .float x => .ok (if Number.isFinite x then .float x else .null)
    | .text s => .ok (.string s)
    | .bytes .view _ => .error .formless
    | .bytes _ bs => .ok (.string (String.ofList (Bytes.base64 bs)))
    | .handle _ => .error .formless
    | .decimal d => .ok (.string d.text)
    | .date d _ => .ok (.string d.iso)
    | .time t _ => .ok (.string (t.iso true))
    | .dateTime d _ => .ok (.string (d.iso "T" true))
    | .list items => (itemsToJson (room - 1) items).map .array
    | .foreign .. => .error .formless

/-- The JSON forms of the items of a list, if all have one. -/
def itemsToJson (room : Nat) : List Value → Except JsonError (List Json)
  | [] => .ok []
  | v :: vs => do return (← toJsonWithin room v) :: (← itemsToJson room vs)

end

/-- **The JSON form of a value.** Numbers that are not finite become null, byte strings base64,
decimals and temporal values their texts. Views, handles and foreign objects have none, nor has what
lies too deep. -/
def toJson (v : Value) : Except JsonError Json := toJsonWithin maxJsonDepth v

/-! ## Arguments -/

/-- The fault of a JSON text in which arrays and objects lie too deep within each other. -/
def depthFault (isArray : Bool) : Fault :=
  let kind := if isArray then "array" else "object"
  let place := s!"while decoding a JSON {kind} from a unicode string"
  .of .depth s!"maximum recursion depth exceeded {place}"

/-- **The value of an argument**: a JSON scalar if the argument is one, and its text otherwise. An
argument that is too deep for a JSON text is a fault. -/
def ofArgument (raw : String) : Except Fault Value :=
  match Json.read raw with
  | .ok .null => .ok .null
  | .ok (.bool b) => .ok (.bool b)
  | .ok (.int i) => .ok (.int i)
  | .ok (.float x) => .ok (.float x)
  | .ok (.string s) => .ok (.text s)
  | .ok _ | .error .malformed => .ok (.text raw)
  | .error (.tooDeep isArray) => .error (depthFault isArray)

/-! ## Normalization -/

/-- **A value that needs its connection no more**: byte strings of any form and handles become
plain byte strings, temporal values of the driver's own kind plain ones. Reading a handle can
fail. -/
def normalize : Value → Except Fault Value
  | .bytes _ bs => .ok (.bytes .plain bs)
  | .handle content => content.map (.bytes .plain)
  | .date d _ => .ok (.date d false)
  | .time t _ => .ok (.time t false)
  | .dateTime d _ => .ok (.dateTime d false)
  | v => .ok v

/-- A normalized value stays as it is. -/
theorem normalize_of_normalize {v w : Value} (h : v.normalize = .ok w) : w.normalize = .ok w := by
  cases v <;> simp only [normalize, Except.ok.injEq] at h <;> try (subst h; rfl)
  case handle content =>
    cases content with
    | error e => simp [Except.map] at h
    | ok bs =>
      simp only [Except.map, Except.ok.injEq] at h
      subst h; rfl

end Value

end SqlScript
