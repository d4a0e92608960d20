import SqlScript.Number.Format
import SqlScript.Text.Quoted

/-!
# JSON

JSON values whose objects keep the order of their fields, the reader of JSON texts, and the
printer that writes a value on one line in ASCII.

* `Json`: the values.
* `Json.line`: the printer.
* `Json.read`: the reader.
-/

namespace SqlScript

/-- A JSON value. Whole numbers are told from numbers with a fraction or an exponent. -/
inductive Json where
  | null
  | bool (b : Bool)
  | int (i : Int)
  | float (x : Float)
  | string (s : String)
  | array (items : List Json)
  | object (fields : List (String × Json))
  deriving Inhabited

namespace Json

/-! ## Printing -/

/-- A UTF-16 unit as an escape. -/
def unitEscape (n : Nat) : List Char := '\\' :: 'u' :: Text.hex 4 n

/-- A character of ASCII in a string. -/
def escapeAscii (c : Char) : List Char :=
  if c = '"' then ['\\', '"']
  else if c = '\\' then ['\\', '\\']
  else if c = '\n' then ['\\', 'n']
  else if c = '\r' then ['\\', 'r']
  else if c = '\t' then ['\\', 't']
  else if c.toNat = 8 then ['\\', 'b']
  else if c.toNat = 12 then ['\\', 'f']
  else if c.toNat < 0x20 ∨ c.toNat = 0x7f then unitEscape c.toNat
  else [c]

/-- One code point of a string. What lies beyond the first plane takes two units; a unit that is
alone is one code point. -/
def escapePoint (n : Nat) : List Char :=
  if n < 0x80 then escapeAscii (Char.ofNat n)
  else if n < 0x10000 then unitEscape n
  else unitEscape (0xd800 + (n - 0x10000) / 0x400) ++ unitEscape (0xdc00 + (n - 0x10000) % 0x400)

/-- A string in ASCII, between double quotes. -/
def stringLine (s : String) : String :=
  "\"" ++ String.ofList ((Text.codePoints s.toList).flatMap escapePoint) ++ "\""

/-- **The numbers of JSON texts**: as everywhere else, but a number that is not finite by name. -/
def numberStyle : Number.Style := { Number.plain with nanText := "NaN", infinityText := "Infinity" }

mutual

/-- **A value on one line**, with a blank after each comma and colon. -/
def line : Json → String
  | .null => "null"
  | .bool b => if b then "true" else "false"
  | .int i => toString i
  | .float x => numberStyle.text x
  | .string s => stringLine s
  | .array items => "[" ++ ", ".intercalate (itemLines items) ++ "]"
  | .object fields => "\x7b" ++ ", ".intercalate (fieldLines fields) ++ "\x7d"

/-- The items of an array, each on one line. -/
def itemLines : List Json → List String
  | [] => []
  | j :: js => line j :: itemLines js

/-- The fields of an object, each on one line. -/
def fieldLines : List (String × Json) → List String
  | [] => []
  | (name, j) :: rest => (stringLine name ++ ": " ++ line j) :: fieldLines rest

end

/-! ## Reading -/

/-- Drops the blanks that may stand between the parts of a JSON text. -/
def skipBlanks (cs : List Char) : List Char :=
  cs.dropWhile fun c => c == ' ' || c == '\t' || c == '\n' || c == '\r'

/-- The value of a hexadecimal digit. -/
def hexDigit? (c : Char) : Option Nat :=
  if '0' ≤ c ∧ c ≤ '9' then some (c.toNat - 48)
  else if 'a' ≤ c ∧ c ≤ 'f' then some (c.toNat - 87)
  else if 'A' ≤ c ∧ c ≤ 'F' then some (c.toNat - 55)
  else none

/-- The unit that four hexadecimal digits stand for. -/
def unit? (a b c d : Char) : Option Nat := do
  return (((← hexDigit? a) * 16 + (← hexDigit? b)) * 16 + (← hexDigit? c)) * 16 + (← hexDigit? d)

/-- The character that an escape of one letter stands for. -/
def simpleEscape? : Char → Option Char
  | '"' => some '"'
  | '\\' => some '\\'
  | '/' => some '/'
  | 'b' => some (Char.ofNat 8)
  | 'f' => some (Char.ofNat 12)
  | 'n' => some '\n'
  | 'r' => some '\r'
  | 't' => some '\t'
  | _ => none

/-- Reads the rest of a string after `seen` (last character first). `high` is the first unit of a
pair that waits for its second; a unit can stay alone. Control characters have to be escaped. -/
def readString (seen : List Char) (high : Option Nat) :
    List Char → Option (String × List Char)
  | [] => none
  | '"' :: rest =>
    some (String.ofList (settle seen high).reverse, rest)
  | '\\' :: 'u' :: a :: b :: c :: d :: rest =>
    match unit? a b c d with
    | none => none
    | some n =>
      if 0xd800 ≤ n ∧ n < 0xdc00 then readString (settle seen high) (some n) rest
      else if 0xdc00 ≤ n ∧ n < 0xe000 then
        match high with
        | some h =>
          let point := 0x10000 + (h - 0xd800) * 0x400 + (n - 0xdc00)
          readString ((Text.ofCodePoint point).reverse ++ seen) none rest
        | none => readString (Text.loneSurrogate n :: seen) none rest
      else readString (Char.ofNat n :: settle seen high) none rest
  | '\\' :: c :: rest =>
    match simpleEscape? c with
    | none => none
    | some c => readString (c :: settle seen high) none rest
  | c :: rest =>
    if c.toNat < 0x20 ∨ c = '\\' then none else readString (c :: settle seen high) none rest
where
  /-- A unit that no longer waits. -/
  settle (seen : List Char) : Option Nat → List Char
    | none => seen
    | some unit => Text.loneSurrogate unit :: seen

/-- The value of a string of digits. -/
def digitsValue (ds : List Char) : Nat := ds.foldl (fun n c => 10 * n + (c.toNat - 48)) 0

/-- The most digits that a whole number may have. -/
def maxIntegerDigits : Nat := 4300

/-- Reads an exponent: its value, or `none` where there is none. -/
def readExponent (cs : List Char) : Option Int × List Char :=
  match cs with
  | e :: rest =>
    if e = 'e' ∨ e = 'E' then
      let (negative, ds) : Bool × List Char := match rest with
        | '-' :: ds => (true, ds)
        | '+' :: ds => (false, ds)
        | ds => (false, ds)
      match ds.span Char.isDigit with
      | ([], _) => (none, cs)
      | (ds, rest) => (some (if negative then -(digitsValue ds : Int) else digitsValue ds), rest)
    else (none, cs)
  | [] => (none, cs)

/-- Reads the fraction of a number: its digits, none where there is no fraction. -/
def readFraction (cs : List Char) : List Char × List Char :=
  match cs with
  | '.' :: rest =>
    match rest.span Char.isDigit with
    | ([], _) => ([], cs)
    | found => found
  | _ => ([], cs)

/-- Reads a number without its sign: a zero, or digits that start with another one, with a
fraction and an exponent if there are any. -/
def readNumber (negative : Bool) (cs : List Char) : Option (Json × List Char) :=
  let (ds, rest) : List Char × List Char := match cs with
    | '0' :: rest => (['0'], rest)
    | cs => cs.span Char.isDigit
  if ds.isEmpty then none
  else
    let (fraction, rest) := readFraction rest
    let (exponent, rest) := readExponent rest
    if fraction.isEmpty && exponent.isNone then
      if maxIntegerDigits < ds.length then none
      else
        let n : Int := digitsValue ds
        some (.int (if negative then -n else n), rest)
    else
      let e := exponent.getD 0 - fraction.length
      some (.float (Number.ofDecimal negative (digitsValue (ds ++ fraction)) e), rest)

/-- Reads a word that stands for a value. -/
def readWord (word : String) (value : Json) (cs : List Char) : Option (Json × List Char) :=
  if word.toList.isPrefixOf cs then some (value, cs.drop word.length) else none

/-- Sets a field: a name that is there already keeps its place. -/
def setField (fields : List (String × Json)) (name : String) (value : Json) :
    List (String × Json) :=
  if fields.any (·.1 == name) then
    fields.map fun f => if f.1 == name then (name, value) else f
  else fields ++ [(name, value)]

/-- Why a text is not read. -/
inductive ReadError where
  | malformed
  /-- Arrays and objects lie too deep within each other; the last one is an array or an object. -/
  | tooDeep (isArray : Bool)
  deriving DecidableEq, Repr

/-- How deep arrays and objects may lie within each other. -/
def maxDepth : Nat := 975

mutual

/-- Reads a value, in which arrays and objects may lie up to `depth` deep. The fuel bounds the
number of steps: one for each value, and one for each item or field. -/
def readValue (depth : Nat) : Nat → List Char → Except ReadError (Json × List Char)
  | 0, _ => .error .malformed
  | fuel + 1, cs =>
    let orMalformed : Option (Json × List Char) → Except ReadError (Json × List Char)
      | some found => .ok found
      | none => .error .malformed
    match cs with
    | '"' :: rest => orMalformed ((readString [] none rest).map fun (s, rest) => (.string s, rest))
    | '[' :: rest =>
      if depth = 0 then .error (.tooDeep true)
      else match skipBlanks rest with
        | ']' :: rest => .ok (.array [], rest)
        | rest => readItems (depth - 1) fuel [] rest
    | '\x7b' :: rest =>
      if depth = 0 then .error (.tooDeep false)
      else match skipBlanks rest with
        | '\x7d' :: rest => .ok (.object [], rest)
        | rest => readFields (depth - 1) fuel [] rest
    | 'n' :: _ => orMalformed (readWord "null" .null cs)
    | 't' :: _ => orMalformed (readWord "true" (.bool true) cs)
    | 'f' :: _ => orMalformed (readWord "false" (.bool false) cs)
    | 'N' :: _ => orMalformed (readWord "NaN" (.float Number.nan) cs)
    | 'I' :: _ => orMalformed (readWord "Infinity" (.float (Number.infinity false)) cs)
    | '-' :: 'I' :: _ => orMalformed (readWord "-Infinity" (.float (Number.infinity true)) cs)
    | '-' :: rest => orMalformed (readNumber true rest)
    | _ => orMalformed (readNumber false cs)

/-- Reads the items of an array after those `seen` (last one first). -/
def readItems (depth : Nat) : Nat → List Json → List Char → Except ReadError (Json × List Char)
  | 0, _, _ => .error .malformed
  | fuel + 1, seen, cs =>
    match readValue depth fuel cs with
    | .error e => .error e
    | .ok (item, rest) =>
      match skipBlanks rest with
      | ']' :: rest => .ok (.array (item :: seen).reverse, rest)
      | ',' :: rest => readItems depth fuel (item :: seen) (skipBlanks rest)
      | _ => .error .malformed

/-- Reads the fields of an object after those `seen`. -/
def readFields (depth : Nat) :
    Nat → List (String × Json) → List Char → Except ReadError (Json × List Char)
  | 0, _, _ => .error .malformed
  | fuel + 1, seen, cs =>
    match cs with
    | '"' :: rest =>
      match readString [] none rest with
      | none => .error .malformed
      | some (name, rest) =>
        match skipBlanks rest with
        | ':' :: rest =>
          match readValue depth fuel (skipBlanks rest) with
          | .error e => .error e
          | .ok (value, rest) =>
            match skipBlanks rest with
            | '\x7d' :: rest => .ok (.object (setField seen name value), rest)
            | ',' :: rest => readFields depth fuel (setField seen name value) (skipBlanks rest)
            | _ => .error .malformed
        | _ => .error .malformed
    | _ => .error .malformed

end

/-- **Reads a JSON text**: one value, with nothing but blanks around it. -/
def read (s : String) : Except ReadError Json :=
  let cs := s.toList
  match readValue maxDepth (2 * cs.length + 2) (skipBlanks cs) with
  | .ok (j, rest) => if (skipBlanks rest).isEmpty then .ok j else .error .malformed
  | .error e => .error e

/-- The field of an object. -/
def field? (j : Json) (name : String) : Option Json :=
  match j with
  | .object fields => (fields.find? (·.1 == name)).map (·.2)
  | _ => none

end Json

end SqlScript
