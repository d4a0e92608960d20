import SqlScript.Fault
import SqlScript.Literal.Reader
import SqlScript.Text.Blank
import SqlScript.Text.Quoted
import SqlScript.Text.Word

/-!
# Handlers

A tag with an at sign names an event, and what is done about it: a handler with its arguments, or
only the arguments. Nothing is ever done about an event on this console, but the arguments have to
be a literal.

* `Handler.arguments`: the text of the arguments.
* `Handler.check`: reads the arguments.
* `Handler.arguments_of_name`: a name alone has no arguments.
-/

namespace SqlScript.Handler

/-- A character in the name of a handler. -/
def isNameChar (c : Char) : Bool := Text.isWord c || c == '.'

/-- Whether a text stands between parentheses, in one line. -/
def isEnclosed (cs : List Char) : Bool :=
  cs.head? == some '(' && cs.getLast? == some ')' && !cs.contains '\n'

/-- **The text of the arguments** behind the name of a handler, if there is a name. Otherwise the
arguments are the whole text. -/
def arguments (parameters : List Char) : List Char :=
  match parameters.dropWhile isNameChar with
  | [] => ['(', ')']
  | rest => if isEnclosed rest then rest else parameters

/-- A handler that is only named has no arguments. -/
theorem arguments_of_name {cs : List Char} (h : cs.all isNameChar = true) :
    arguments cs = ['(', ')'] := by
  have hd : cs.dropWhile isNameChar = [] := by
    induction cs with
    | nil => rfl
    | cons c cs ih =>
      rw [List.all_cons, Bool.and_eq_true] at h
      rw [List.dropWhile_cons_of_pos h.1, ih h.2]
  simp [arguments, hd]

/-- **Reads the arguments** in the parameters of a tag. -/
def check (parameters : List Char) : Except Fault Unit :=
  let text := arguments (Text.trim parameters)
  let whole := Text.quoted (String.ofList parameters)
  match Literal.read text with
  | .ok _ => .ok ()
  | .error (.malformed message) =>
    let part := Text.quoted (String.ofList text)
    .error (.of .markup s!"error parsing {part} in {whole}; {message}")
  | .error (.valueless message) => .error (.of .markup s!"error parsing {whole}; {message}")

end SqlScript.Handler
