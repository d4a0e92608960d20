import SqlScript.Text.Quoted

/-!
# Text encodings

How the bytes of a script file become text. Decoding is strict: the first bytes that are not
text are reported with their place and the reason.

* `Encoding`, `Encoding.ofName?`: the encodings and their names.
* `DecodeError`, `Encoding.decode`: decoding and what can go wrong.
* `encodeUtf8`: the way back.
-/

namespace SqlScript.Bytes

/-- The encodings of script files. -/
inductive Encoding where
  | utf8
  /-- UTF-8 that may start with a byte order mark, which is not part of the text. -/
  | utf8Marked
  | latin1
  | ascii
  deriving DecidableEq, Repr

/-- Why bytes are not text. -/
inductive DecodeReason where
  | invalidStart
  | invalidContinuation
  | unexpectedEnd
  | notAscii
  deriving DecidableEq, Repr

/-- Bytes that are not text: where they start, which they are, and why. -/
structure DecodeError where
  codec : String
  start : Nat
  bytes : List UInt8
  reason : DecodeReason
  deriving DecidableEq, Repr

/-- The wording of a reason. -/
def DecodeReason.text : DecodeReason → String
  | .invalidStart => "invalid start byte"
  | .invalidContinuation => "invalid continuation byte"
  | .unexpectedEnd => "unexpected end of data"
  | .notAscii => "ordinal not in range(128)"

/-- The message of a decoding error: it names a single byte by its value and several by their
place. -/
def DecodeError.message (e : DecodeError) : String :=
  let place := match e.bytes with
    | [b] => s!"byte 0x{String.ofList (Text.hex 2 b.toNat)} in position {e.start}"
    | bs => s!"bytes in position {e.start}-{e.start + bs.length - 1}"
  s!"'{e.codec}' codec can't decode {place}: {e.reason.text}"

/-- The number of bytes that follow a UTF-8 start byte, with the range of the first of them. -/
def continuation? (b : UInt8) : Option (Nat × Nat × Nat) :=
  let n := b.toNat
  if 0xc2 ≤ n ∧ n ≤ 0xdf then some (1, 0x80, 0xbf)
  else if n = 0xe0 then some (2, 0xa0, 0xbf)
  else if n = 0xed then some (2, 0x80, 0x9f)
  else if 0xe1 ≤ n ∧ n ≤ 0xef then some (2, 0x80, 0xbf)
  else if n = 0xf0 then some (3, 0x90, 0xbf)
  else if 0xf1 ≤ n ∧ n ≤ 0xf3 then some (3, 0x80, 0xbf)
  else if n = 0xf4 then some (3, 0x80, 0x8f)
  else none

/-- What a multi-byte sequence needs next. -/
structure Pending where
  /-- The bytes read so far, the last one first. -/
  seen : List UInt8
  value : Nat
  missing : Nat
  low : Nat
  high : Nat

/-- Decodes UTF-8 from the byte at `position` on; `pending` is the sequence being read. A sequence
that breaks off is reported with all its bytes that could have continued to text. -/
def decodeUtf8From (position : Nat) (pending : Option Pending) :
    List UInt8 → Except DecodeError (List Char)
  | [] => match pending with
    | none => .ok []
    | some p =>
      .error ⟨"utf-8", position - p.seen.length, p.seen.reverse, .unexpectedEnd⟩
  | b :: rest => match pending with
    | none =>
      if b.toNat < 0x80 then
        return Char.ofNat b.toNat :: (← decodeUtf8From (position + 1) none rest)
      else match continuation? b with
        | none => .error ⟨"utf-8", position, [b], .invalidStart⟩
        | some (missing, low, high) =>
          let value := b.toNat % (1 <<< (6 - missing))
          decodeUtf8From (position + 1) (some ⟨[b], value, missing, low, high⟩) rest
    | some p =>
      if p.low ≤ b.toNat ∧ b.toNat ≤ p.high then
        let value := p.value * 64 + b.toNat % 64
        if p.missing ≤ 1 then
          return Text.ofCodePoint value ++ (← decodeUtf8From (position + 1) none rest)
        else
          decodeUtf8From (position + 1) (some ⟨b :: p.seen, value, p.missing - 1, 0x80, 0xbf⟩) rest
      else
        .error ⟨"utf-8", position - p.seen.length, p.seen.reverse, .invalidContinuation⟩

/-- Decodes UTF-8. -/
def decodeUtf8 (bs : List UInt8) : Except DecodeError (List Char) := decodeUtf8From 0 none bs

/-- Decodes ASCII from the byte at `position` on. -/
def decodeAsciiFrom (position : Nat) : List UInt8 → Except DecodeError (List Char)
  | [] => .ok []
  | b :: rest =>
    if b.toNat < 0x80 then return Char.ofNat b.toNat :: (← decodeAsciiFrom (position + 1) rest)
    else .error ⟨"ascii", position, [b], .notAscii⟩

/-- The bytes of a text in UTF-8. Half of a surrogate pair has none. -/
def encodeUtf8 (s : String) : List UInt8 := (String.ofList (Text.toUnicode s.toList)).toUTF8.toList

/-- The byte order mark of UTF-8. -/
def byteOrderMark : List UInt8 := [0xef, 0xbb, 0xbf]

/-- **Decoding.** Places are counted after a byte order mark that is dropped; bytes that only
begin such a mark are no text at all. -/
def Encoding.decode (e : Encoding) (bs : List UInt8) : Except DecodeError (List Char) :=
  match e with
  | .utf8 => decodeUtf8 bs
  | .utf8Marked =>
    if byteOrderMark.isPrefixOf bs then decodeUtf8 (bs.drop 3)
    else if bs.isPrefixOf byteOrderMark then .ok []
    else decodeUtf8 bs
  | .latin1 => .ok (bs.map fun b => Char.ofNat b.toNat)
  | .ascii => decodeAsciiFrom 0 bs

/-- A name of an encoding in the form that is looked up: small letters, and one underscore for
whatever separates letters and digits. -/
def normalizeEncodingName (name : String) : String :=
  let words := name.toList.foldr (fun c (ws : List (List Char)) =>
    if c.isAlphanum || c == '.' then
      match ws with
      | w :: ws => (c.toLower :: w) :: ws
      | [] => [[c.toLower]]
    else [] :: ws) [[]]
  "_".intercalate ((words.filter (!·.isEmpty)).map String.ofList)

/-- The standard name of an encoding, in the form that is looked up. -/
def Encoding.standardName : Encoding → String
  | utf8 => "utf_8"
  | utf8Marked => "utf_8_sig"
  | latin1 => "latin_1"
  | ascii => "ascii"

/-- The other names of an encoding, in the form that is looked up. -/
def Encoding.otherNames : Encoding → List String
  | utf8 => ["u8", "utf", "utf8", "utf8_ucs2", "utf8_ucs4", "cp65001"]
  | utf8Marked => []
  | latin1 => ["8859", "cp819", "csisolatin1", "ibm819", "iso8859", "iso8859_1", "iso_8859_1",
      "iso_8859_1_1987", "iso_ir_100", "l1", "latin", "latin1"]
  | ascii => ["646", "ansi_x3.4_1968", "ansi_x3_4_1968", "ansi_x3.4_1986", "cp367", "csascii",
      "ibm367", "iso646_us", "iso_646.irv_1991", "iso_ir_6", "us", "us_ascii"]

/-- All encodings. -/
def Encoding.all : List Encoding := [utf8, utf8Marked, latin1, ascii]

/-- The name that stands for the encoding of the system, which is UTF-8. -/
def systemEncodingName : String := "locale"

/-- **The encoding with a name.** A dot in the name can stand for an underscore of another name,
but not of a standard one. -/
def Encoding.ofName? (name : String) : Option Encoding :=
  let n := normalizeEncodingName name
  let undotted := String.ofList (n.toList.map fun c => if c = '.' then '_' else c)
  if name = systemEncodingName then some .utf8
  else Encoding.all.find? fun e =>
    e.standardName == n || e.otherNames.contains n || e.otherNames.contains undotted

end SqlScript.Bytes
