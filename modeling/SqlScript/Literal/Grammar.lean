import SqlScript.Literal.Token
import SqlScript.Literal.Tree

/-!
# The grammar of expressions

Which tokens make an expression. A rule has alternatives, of which the first that fits counts. Some
rules fit wrong expressions that are seen often, to say what is wrong with them; those are the
mistakes.

* `Item`: what an alternative asks of the tokens.
* `Action`: what is made of the tokens that fit.
* `Rule`, `Mistake`: the rules.
* `Rule.isRemembered`, `Rule.isRecursive`: how the rules are used.
-/

namespace SqlScript.Literal

/-- The rules for wrong expressions. -/
inductive Mistake where
  | expression
  | formerStatement
  | namedExpression
  | comprehension
  | dictComprehension
  | group
  | entries
  | pair
  | arguments
  | keyword
  | loopTarget
  | parameters
  | defaultValue
  | restParameters
  | keywordParameters
  deriving DecidableEq, Hashable, Repr

/-- The rules. -/
inductive Rule where
  /-- An expression that is all of a text. -/
  | whole
  /-- The expression in a field of a template. -/
  | field
  | expressions
  | expression
  /-- An expression in which no mistakes are looked for. -/
  | plainExpression
  | yielding
  | starredExpressions
  | starredExpression
  | items
  | item
  | naming
  | namedExpression
  | disjunction
  | conjunction
  | inversion
  | comparison
  | comparisonPart
  | bitOr
  | bitXor
  | bitAnd
  | shift
  | sum
  | product
  | factor
  | power
  | awaiting
  | primary
  | atom
  | group
  | quotations
  | tupleDisplay
  | setDisplay
  | dictDisplay
  | entries
  | entry
  | pair
  | clauses
  | clause
  | setComprehension
  | generator
  | dictComprehension
  | arguments
  | argumentList
  | keywordArguments
  | starArgument
  | keywordOrStar
  | keywordOrDoubleStar
  | targets
  | target
  | simpleTarget
  | targetAtom
  | targetItems
  | targetPrimary
  | targetFollows
  | lambdaExpression
  | parameters
  | parameterList
  | leadingPlain
  | leadingDefaulted
  | restParameters
  | keywordParameters
  | plainParameter
  | defaultedParameter
  | anyParameter
  | parameter
  | defaultValue
  | defaultedParameters
  | mistake (m : Mistake)
  deriving DecidableEq, Hashable, Repr

/-- **What an alternative asks of the tokens** from a place on. -/
inductive Item where
  /-- An operator or a keyword. -/
  | word (text : String)
  | kind (k : Token.Kind)
  /-- A name that is a keyword in other places, or the start of one. -/
  | softKeyword
  | rule (r : Rule)
  | optional (items : List Item)
  /-- As often as it fits, but at least as often as the number says. -/
  | repeated (least : Nat) (items : List Item)
  /-- At least once, with a separator in between. -/
  | separated (separator : String) (items : List Item)
  /-- The first of some alternatives that fits. -/
  | either (alternatives : List (List Item))
  /-- Fits without taking tokens. -/
  | ahead (items : List Item)
  /-- Does not fit. -/
  | notAhead (items : List Item)
  /-- Behind this, no other alternative counts. -/
  | cut

instance : Coe String Item := ⟨.word⟩

instance : Coe Rule Item := ⟨.rule⟩

/-- **What is made of the tokens that fit** an alternative. -/
inductive Action where
  /-- The trees of the items as they are. -/
  | pass
  /-- A tree of the trees of the items. -/
  | build (form : Form)
  | constant (c : Constant)
  /-- The constant or the template that quotations in a row make. -/
  | join
  /-- The complaint about the trees of the items, if there is one, and no tree in any case. The
  number is that of brackets that are open at the end. -/
  | complain (complaint : List Tree → Nat → Option String)

/-- An alternative of a rule. -/
structure Alternative where
  items : List Item
  action : Action

/-- The alternative whose items have trees of their own. -/
def pass (items : List Item) : Alternative := ⟨items, .pass⟩

/-- The alternative that makes a form of its items. -/
def build (form : Form) (items : List Item) : Alternative := ⟨items, .build form⟩

/-- The alternative of a mistake. -/
def wrong (message : String) (items : List Item) : Alternative :=
  ⟨items, .complain fun _ _ => some message⟩

/-- The alternative of what can be a mistake. -/
def suspect (complaint : List Tree → Nat → Option String) (items : List Item) : Alternative :=
  ⟨items, .complain complaint⟩

/-- The alternative that looks for mistakes. -/
def mistaken (m : Mistake) : Alternative := pass [Rule.mistake m]

/-- The mistake that an alternative looks for, if it does nothing else. -/
def Alternative.mistake? (a : Alternative) : Option Mistake :=
  match a.items with
  | [.rule (.mistake m)] => some m
  | _ => none

/-! ## Complaints -/

/-- Two expressions without an operator between them, inside brackets. -/
def missingComma : List Tree → Nat → Option String
  | [t, _], _ + 1 =>
    if t.isFormerStatement then none else some "invalid syntax. Perhaps you forgot a comma?"
  | _, _ => none

/-- A function that was a statement once, without brackets. -/
def formerStatement : List Tree → Nat → Option String
  | .name text :: _, _ =>
    let name := String.ofList text
    if (Tree.name text).isFormerStatement then
      some s!"Missing parentheses in call to '{name}'. Did you mean {name}(...)?"
    else none
  | _, _ => none

/-- Something that is no name, but is given one. -/
def misnamed : List Tree → Nat → Option String
  | t :: _, _ => some s!"cannot use assignment expressions with {t.description}"
  | [], _ => none

/-- Something that an equals sign follows. -/
def assigned : List Tree → Nat → Option String
  | t :: _, _ =>
    some s!"cannot assign to {t.description} here. Maybe you meant '==' instead of '='?"
  | [], _ => none

/-- Something that no loop can have for a target. -/
def badTarget (ts : List Tree) (_ : Nat) : Option String :=
  (Tree.firstNonTarget? ts).map fun t => s!"cannot assign to {t.description}"

/-- A generator without brackets among other arguments. -/
def bareGenerator : List Tree → Nat → Option String
  | .node .arguments arguments :: _, _ =>
    let positional := arguments.filter fun
      | .node .keyword _ | .node .unpacked _ => false
      | _ => true
    if positional.length ≤ 1 then none else some "Generator expression must be parenthesized"
  | _, _ => none

/-- An argument without a name behind one that has a name. -/
def latePositional : List Tree → Nat → Option String
  | .node .arguments arguments :: _, _ =>
    let unpacks := arguments.any fun
      | .node .unpacked _ => true
      | _ => false
    some <| "positional argument follows keyword argument" ++ if unpacks then " unpacking" else ""
  | _, _ => none

/-! ## Rules -/

/-- A name. -/
def aName : Item := .kind .name

/-- An argument by its place. -/
def positional : Item :=
  .either [[Rule.starArgument],
    [.either [[Rule.naming], [Rule.expression, .notAhead [":="]]], .notAhead ["="]]]

/-- What is said where one equals sign is not enough. -/
def maybeEquality : String := "invalid syntax. Maybe you meant '==' or ':=' instead of '='?"

open Rule in
/-- The alternatives of a mistake. -/
def Mistake.alternatives : Mistake → List Alternative
  | expression => [
    suspect missingComma
      [.notAhead [.either [[aName, .kind .quotation], [.softKeyword]]],
        disjunction, plainExpression],
    wrong "expected 'else' after 'if' expression"
      [disjunction, "if", disjunction, .notAhead [.either [["else"], [":"]]]]]
  | formerStatement => [
    suspect Literal.formerStatement [aName, .notAhead ["("], starredExpressions]]
  | namedExpression => [
    suspect misnamed [Rule.expression, ":=", Rule.expression],
    wrong maybeEquality [aName, "=", bitOr, .notAhead [.either [["="], [":="]]]],
    suspect assigned
      [.notAhead [.either [[tupleDisplay], [generator], ["True"], ["None"], ["False"]]],
        bitOr, "=", bitOr, .notAhead [.either [["="], [":="]]]]]
  | comprehension => [
    wrong "iterable unpacking cannot be used in comprehension"
      [.either [["("], ["\x7b"]], starArgument, clauses],
    wrong "did you forget parentheses around the comprehension target?"
      ["\x7b", item, ",", items, clauses],
    wrong "did you forget parentheses around the comprehension target?"
      ["\x7b", item, ",", clauses]]
  | dictComprehension => [
    wrong "dict unpacking cannot be used in dict comprehension"
      ["\x7b", "**", bitOr, clauses, "\x7d"]]
  | group => [
    wrong "cannot use starred expression here" ["(", starArgument, ")"],
    wrong "cannot use double starred expression here" ["(", "**", Rule.expression, ")"]]
  | entries => [
    pass [.separated "," [entry], ",", mistake pair],
    wrong "cannot use a starred expression in a dictionary value"
      [Rule.expression, ":", "*", bitOr],
    wrong "expression expected after dictionary key and ':'"
      [Rule.expression, ":", .ahead [.either [["\x7d"], [","]]]]]
  | pair => [
    wrong "':' expected after dictionary key" [Rule.expression, .notAhead [":"]],
    wrong "cannot use a starred expression in a dictionary value"
      [Rule.expression, ":", "*", bitOr],
    wrong "expression expected after dictionary key and ':'"
      [Rule.expression, ":", .ahead [.either [["\x7d"], [","]]]]]
  | arguments => [
    wrong "iterable argument unpacking follows keyword argument unpacking"
      [argumentList, ",", "*"],
    wrong "Generator expression must be parenthesized"
      [Rule.expression, clauses, ",",
        .optional [.either [[argumentList], [Rule.expression, clauses]]]],
    wrong maybeEquality [aName, "=", Rule.expression, clauses],
    suspect bareGenerator [argumentList, clauses],
    wrong "Generator expression must be parenthesized"
      [argumentList, ",", Rule.expression, clauses],
    suspect latePositional [argumentList, ",", argumentList]]
  | keyword => [
    wrong "cannot assign to True" ["True", "="],
    wrong "cannot assign to False" ["False", "="],
    wrong "cannot assign to None" ["None", "="],
    wrong maybeEquality [aName, "=", Rule.expression, clauses],
    wrong "expression cannot contain assignment, perhaps you meant \"==\"?"
      [.notAhead [aName, "="], Rule.expression, "="]]
  | loopTarget => [
    suspect badTarget [.optional ["async"], "for", starredExpressions]]
  | parameters => [
    wrong "non-default argument follows default argument"
      [.repeated 0 [plainParameter], defaultedParameters, plainParameter],
    wrong "Lambda expression parameters cannot be parenthesized"
      [.repeated 0 [plainParameter], "(", .separated "," [parameter], .optional [","], ")"],
    wrong "at least one argument must precede /" ["/", ","],
    wrong "/ may appear only once"
      [.either [[leadingPlain], [leadingDefaulted]], .repeated 0 [anyParameter], "/"],
    wrong "/ must be ahead of *"
      [.optional [.either [[leadingPlain], [leadingDefaulted]]], .repeated 0 [anyParameter],
        "*", .either [[","], [plainParameter]], .repeated 0 [anyParameter], "/"],
    wrong "expected comma between / and *" [.repeated 1 [anyParameter], "/", "*"]]
  | defaultValue => [
    wrong "expected default value expression" ["=", .ahead [.either [[")"], [","]]]]]
  | restParameters => [
    wrong "named arguments must follow bare *"
      ["*", .either [[":"], [",", .either [[":"], ["**"]]]]],
    wrong "var-positional argument cannot have default value" ["*", parameter, "="],
    wrong "* argument may appear only once"
      ["*", .either [[plainParameter], [","]], .repeated 0 [anyParameter],
        "*", .either [[plainParameter], [","]]]]
  | keywordParameters => [
    wrong "var-keyword argument cannot have default value" ["**", parameter, "="],
    wrong "arguments cannot follow var-keyword argument" ["**", parameter, ",", parameter],
    wrong "arguments cannot follow var-keyword argument"
      ["**", parameter, ",", .either [["*"], ["**"], ["/"]]]]

open Rule in
/-- **The alternatives of a rule.** -/
def Rule.alternatives : Rule → List Alternative
  | whole => [pass [expressions, .repeated 0 [.kind .newline], .kind .finish]]
  | field => [pass [starredExpressions]]
  | expressions => [
    build .tuple [expression, .repeated 1 [",", expression], .optional [","]],
    build .tuple [expression, ","],
    pass [expression]]
  | expression => [
    mistaken .expression,
    mistaken .formerStatement,
    build .conditional [disjunction, "if", disjunction, "else", expression],
    pass [disjunction],
    pass [lambdaExpression]]
  | plainExpression => [
    build .conditional [disjunction, "if", disjunction, "else", expression],
    pass [disjunction],
    pass [lambdaExpression]]
  | yielding => [
    build .yield ["yield", "from", expression],
    build .yield ["yield", .optional [starredExpressions]]]
  | starredExpressions => [
    build .tuple [starredExpression, .repeated 1 [",", starredExpression], .optional [","]],
    build .tuple [starredExpression, ","],
    pass [starredExpression]]
  | starredExpression => [
    build .starred ["*", bitOr],
    pass [expression]]
  | items => [pass [.separated "," [item], .optional [","]]]
  | item => [
    build .starred ["*", bitOr],
    pass [namedExpression]]
  | naming => [build .named [aName, ":=", .cut, expression]]
  | namedExpression => [
    pass [naming],
    mistaken .namedExpression,
    pass [expression, .notAhead [":="]]]
  | disjunction => [
    build .operation [conjunction, .repeated 1 ["or", conjunction]],
    pass [conjunction]]
  | conjunction => [
    build .operation [inversion, .repeated 1 ["and", inversion]],
    pass [inversion]]
  | inversion => [
    build .operation ["not", inversion],
    pass [comparison]]
  | comparison => [
    build .comparison [bitOr, .repeated 1 [comparisonPart]],
    pass [bitOr]]
  | comparisonPart => [
    build .relation ["==", bitOr],
    build .relation ["!=", bitOr],
    build .relation ["<=", bitOr],
    build .relation ["<", bitOr],
    build .relation [">=", bitOr],
    build .relation [">", bitOr],
    build .relation ["not", "in", bitOr],
    build .membership ["in", bitOr],
    build .relation ["is", "not", bitOr],
    build .relation ["is", bitOr]]
  | bitOr => [
    build .operation [bitOr, "|", bitXor],
    pass [bitXor]]
  | bitXor => [
    build .operation [bitXor, "^", bitAnd],
    pass [bitAnd]]
  | bitAnd => [
    build .operation [bitAnd, "&", shift],
    pass [shift]]
  | shift => [
    build .operation [shift, "<<", sum],
    build .operation [shift, ">>", sum],
    pass [sum]]
  | sum => [
    build .sum [sum, "+", product],
    build .difference [sum, "-", product],
    pass [product]]
  | product => [
    build .operation [product, "*", factor],
    build .operation [product, "/", factor],
    build .operation [product, "//", factor],
    build .operation [product, "%", factor],
    build .operation [product, "@", factor],
    pass [factor]]
  | factor => [
    build .positive ["+", factor],
    build .negative ["-", factor],
    build .operation ["~", factor],
    pass [power]]
  | power => [
    build .operation [awaiting, "**", factor],
    pass [awaiting]]
  | awaiting => [
    build .await ["await", primary],
    pass [primary]]
  | primary => [
    build .member [primary, ".", aName],
    build .call [primary, generator],
    build .call [primary, "(", .optional [arguments], ")"],
    pass [atom]]
  | atom => [
    pass [aName],
    ⟨["True"], .constant (.truth true)⟩,
    ⟨["False"], .constant (.truth false)⟩,
    ⟨["None"], .constant .none⟩,
    pass [.ahead [.kind .quotation], quotations],
    pass [.kind .number],
    pass [.ahead ["("], .either [[tupleDisplay], [group], [generator]]],
    pass [.ahead ["\x7b"],
      .either [[dictDisplay], [setDisplay], [dictComprehension], [setComprehension]]],
    ⟨["..."], .constant .ellipsis⟩]
  | group => [
    pass ["(", .either [[yielding], [namedExpression]], ")"],
    mistaken .group]
  | quotations => [⟨[.repeated 1 [.kind .quotation]], .join⟩]
  | tupleDisplay => [build .tuple ["(", .optional [item, ",", .optional [items]], ")"]]
  | setDisplay => [build .set ["\x7b", items, "\x7d"]]
  | dictDisplay => [
    build .dict ["\x7b", .optional [entries], "\x7d"],
    pass ["\x7b", mistake .entries, "\x7d"]]
  | entries => [pass [.separated "," [entry], .optional [","]]]
  | entry => [
    build .spread ["**", bitOr],
    pass [pair]]
  | pair => [build .entry [expression, ":", expression]]
  | clauses => [pass [.repeated 1 [clause]]]
  | clause => [
    pass [.optional ["async"], "for", targets, "in", .cut, disjunction,
      .repeated 0 ["if", disjunction]],
    mistaken .loopTarget]
  | setComprehension => [
    build .setComprehension ["\x7b", namedExpression, clauses, "\x7d"],
    mistaken .comprehension]
  | generator => [
    build .generator
      ["(", .either [[naming], [expression, .notAhead [":="]]], clauses, ")"],
    mistaken .comprehension]
  | dictComprehension => [
    build .dictComprehension ["\x7b", pair, clauses, "\x7d"],
    mistaken .dictComprehension]
  | arguments => [
    pass [argumentList, .optional [","], .ahead [")"]],
    mistaken .arguments]
  | argumentList => [
    build .arguments [.separated "," [positional], .optional [",", keywordArguments]],
    build .arguments [keywordArguments]]
  | keywordArguments => [
    pass [.separated "," [keywordOrStar], ",", .separated "," [keywordOrDoubleStar]],
    pass [.separated "," [keywordOrStar]],
    pass [.separated "," [keywordOrDoubleStar]]]
  | starArgument => [
    build .starred ["*", expression],
    wrong "Invalid star expression" ["*"]]
  | keywordOrStar => [
    mistaken .keyword,
    build .keyword [aName, "=", expression],
    pass [starArgument]]
  | keywordOrDoubleStar => [
    mistaken .keyword,
    build .keyword [aName, "=", expression],
    build .unpacked ["**", expression]]
  | targets => [
    pass [target, .notAhead [","]],
    build .tuple [target, .repeated 0 [",", target], .optional [","]]]
  | target => [
    build .starred ["*", .notAhead ["*"], target],
    pass [simpleTarget]]
  | simpleTarget => [
    build .member [targetPrimary, ".", aName, .notAhead [targetFollows]],
    pass [targetAtom]]
  | targetAtom => [
    pass [aName],
    pass ["(", simpleTarget, ")"],
    build .tuple ["(", .optional [targetItems], ")"]]
  | targetItems => [
    pass [target, .repeated 1 [",", target], .optional [","]],
    pass [target, ","]]
  | targetPrimary => [
    build .member [targetPrimary, ".", aName, .ahead [targetFollows]],
    build .call [targetPrimary, generator, .ahead [targetFollows]],
    build .call [targetPrimary, "(", .optional [arguments], ")", .ahead [targetFollows]],
    pass [atom, .ahead [targetFollows]]]
  | targetFollows => [pass ["("], pass ["["], pass ["."]]
  | lambdaExpression => [
    build .lambda ["lambda", .optional [parameters], ":", expression]]
  | parameters => [
    mistaken .parameters,
    pass [parameterList]]
  | parameterList => [
    pass [leadingPlain, .repeated 0 [plainParameter], .repeated 0 [defaultedParameter],
      .optional [restParameters]],
    pass [leadingDefaulted, .repeated 0 [defaultedParameter], .optional [restParameters]],
    pass [.repeated 1 [plainParameter], .repeated 0 [defaultedParameter],
      .optional [restParameters]],
    pass [.repeated 1 [defaultedParameter], .optional [restParameters]],
    pass [restParameters]]
  | leadingPlain => [
    pass [.repeated 1 [plainParameter], "/", ","],
    pass [.repeated 1 [plainParameter], "/", .ahead [":"]]]
  | leadingDefaulted => [
    pass [.repeated 0 [plainParameter], .repeated 1 [defaultedParameter], "/", ","],
    pass [.repeated 0 [plainParameter], .repeated 1 [defaultedParameter], "/", .ahead [":"]]]
  | restParameters => [
    mistaken .restParameters,
    pass ["*", plainParameter, .repeated 0 [anyParameter], .optional [keywordParameters]],
    pass ["*", ",", .repeated 1 [anyParameter], .optional [keywordParameters]],
    pass [keywordParameters]]
  | keywordParameters => [
    mistaken .keywordParameters,
    pass ["**", plainParameter]]
  | plainParameter => [
    pass [parameter, ","],
    pass [parameter, .ahead [":"]]]
  | defaultedParameter => [
    pass [parameter, defaultValue, ","],
    pass [parameter, defaultValue, .ahead [":"]]]
  | anyParameter => [
    pass [parameter, .optional [defaultValue], ","],
    pass [parameter, .optional [defaultValue], .ahead [":"]]]
  | parameter => [pass [aName]]
  | defaultValue => [
    pass ["=", expression],
    mistaken .defaultValue]
  | defaultedParameters => [
    pass [leadingDefaulted],
    pass [.repeated 1 [defaultedParameter]]]
  | mistake m => m.alternatives

/-- **Whether what a rule made of a place is remembered**, even if mistakes were looked for in
one case and not in the other. -/
def Rule.isRemembered : Rule → Bool
  | expression | starredExpression | disjunction | conjunction | inversion | factor | awaiting
  | quotations | arguments | target | simpleTarget | mistake .namedExpression => true
  | _ => false

/-- **Whether a rule begins with itself.** It then fits as much as it can, from the left. -/
def Rule.isRecursive : Rule → Bool
  | bitOr | bitXor | bitAnd | shift | sum | product | primary | targetPrimary => true
  | _ => false

end SqlScript.Literal
