import SqlScript.Literal.Recognizer
import SqlScript.Literal.Scanner
import SqlScript.Literal.Template

/-!
# The parser

Makes the tree of a text, or says what is wrong with it. If no expression is found, the search is
done again with an eye on mistakes. What is wrong with the tokens that follow can count for more
than what is wrong with those that were looked at.

* `Source.parse`: the tree of tokens.
* `parse`: the tree of a text.
-/

namespace SqlScript.Literal

namespace Source

/-- What is said about a fault that the tokens end with, once it is reached. -/
def faultMessage (s : Source) (f : ScanFault) : String :=
  if f.overrides then f.message else s.heading ++ f.message

/-- What is said in the end, if something is wrong with the first `reached` tokens: a bracket that
is open for lines counts for more. -/
def finalMessage (s : Source) (reached : Nat) (message : String) : String :=
  match s.tokens.fault with
  | none => message
  | some f =>
    if f.overrides then f.message
    else match f.bracket, s.tokens.all[reached - 1]? with
      | some b, some token => if b.line < token.line then s.heading ++ b.neverClosed else message
      | _, _ => message

/-- What is said in the end about a mistake. Nothing else counts if the text is at its end. -/
def mistakeMessage (s : Source) (reached : Nat) (message : String) : String :=
  if s.tokens.all[reached - 1]?.any Token.last then message else s.finalMessage reached message

/-- What is said about tokens of which the first `reached` make no expression. -/
def unknownMessage (s : Source) (reached last : Nat) : String :=
  match s.tokens.all[reached - 1]?.map Token.kind with
  | some .indent => s.heading ++ "unexpected indent"
  | some .dedent => s.heading ++ "unexpected unindent"
  | _ => s.finalMessage last (s.heading ++ "invalid syntax")

/-- **The tree of tokens by a rule**, or what is wrong with them. -/
def parse (s : Source) (rule : Rule) : Except String Tree :=
  let fail (reached last : Nat) : Halt → Except String Tree
    | .fault f => .error (s.faultMessage f)
    | .wrong message => .error (s.mistakeMessage last message)
    | .exhausted => .error (s.unknownMessage reached last)
  match recognize s false rule with
  | (.ok (some [tree]), _) => .ok tree
  | (.error halt, reached) => fail reached reached halt
  | (.ok _, reached) =>
    match recognize s true rule with
    | (.error halt, again) => fail reached (max reached again) halt
    | (.ok _, again) => .error (s.unknownMessage reached (max reached again))

end Source

/-- The tree of a text that begins in a line. Expressions in templates are read with one unit of
fuel less, and their messages have a heading. -/
def parseFrom : Nat → String → Rule → Nat → List Char → Except String Tree
  | 0, heading, _, _, _ => .error (heading ++ "invalid syntax")
  | fuel + 1, heading, rule, line, cs =>
    let expression (line : Nat) (cs : List Char) : Except String Unit := do
      let _ ← parseFrom fuel "f-string: " .field line cs
    Source.parse ⟨scan line cs, heading, join heading expression⟩ rule

/-- **The tree of a text**, or what is wrong with it. An expression in a template is shorter than
the template. -/
def parse (cs : List Char) : Except String Tree := parseFrom (cs.length + 1) "" .whole 1 cs

end SqlScript.Literal
