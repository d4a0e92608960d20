/-!
# Control sequences

The sequences that move a terminal's cursor, change its colours or set its modes: an escape, an
opening bracket, parameters, intermediate characters, and a final character. Each of the three
parts has its own range of ASCII.

* `controlLength?`: the length of the control sequence with which a text begins.
* `withoutControlSequences`: a text without its control sequences.
-/

namespace SqlScript.Text

/-- A parameter of a control sequence: a digit, a mark between numbers, or a private mark. -/
def isControlParameter (c : Char) : Bool := '0' ≤ c && c ≤ '?'

/-- A character between the parameters of a control sequence and its end. -/
def isControlIntermediate (c : Char) : Bool := ' ' ≤ c && c ≤ '/'

/-- A character that ends a control sequence. -/
def isControlFinal (c : Char) : Bool := '@' ≤ c && c ≤ '~'

/-- The length of the control sequence with which a text begins, if it begins with one. -/
def controlLength? : List Char → Option Nat
  | '\x1b' :: '[' :: cs =>
    let (parameters, rest) := cs.span isControlParameter
    let (intermediates, rest) := rest.span isControlIntermediate
    match rest with
    | c :: _ =>
      if isControlFinal c then some (parameters.length + intermediates.length + 3) else none
    | [] => none
  | _ => none

/-- The text without its control sequences, where the next `skip` characters are still part of
one. -/
def withoutControlFrom : Nat → List Char → List Char
  | _, [] => []
  | skip + 1, _ :: cs => withoutControlFrom skip cs
  | 0, c :: cs =>
    match controlLength? (c :: cs) with
    | some n => withoutControlFrom (n - 1) cs
    | none => c :: withoutControlFrom 0 cs

/-- **A text without its control sequences.** -/
def withoutControlSequences (s : String) : String := String.ofList (withoutControlFrom 0 s.toList)

end SqlScript.Text
