import SqlScript.Literal.Parser
import SqlScript.Literal.Value
import SqlScript.Text.Lines
import SqlScript.Text.Surrogate

/-!
# Reading literals

* `read`: the value of the text of a literal.
* `ReadFault`: what can be wrong with it.
-/

namespace SqlScript.Literal

/-- **What can be wrong with the text of a literal.** -/
inductive ReadFault where
  /-- It is no expression. -/
  | malformed (message : String)
  /-- It is an expression, or cannot be one, but has no value. -/
  | valueless (message : String)
  deriving DecidableEq, Repr

/-- **The value of the text of a literal**, whose lines can end in any way. -/
def read (cs : List Char) : Except ReadFault Value :=
  match Text.unencodable? (fun _ => false) (String.ofList cs) with
  | some run => .error (.valueless run.message)
  | none =>
    let cs := Text.toUnicode cs
    if cs.contains '\x00' then
      .error (.malformed "source code string cannot contain null bytes")
    else match parse (Text.unifyNewlines cs) with
      | .error message => .error (.malformed message)
      | .ok tree => tree.value.mapError .valueless

end SqlScript.Literal
