import Std.Data.HashMap
import SqlScript.Literal.Grammar

/-!
# The recognizer

Finds out how tokens fit a rule. Alternatives are tried in their order, and what fits is never
tried again in another way. What was found for some rules at a place is remembered, and a rule
that begins with itself starts from what it fits without that, and goes on from there.

* `Source`: the tokens, and what is made of their quotations.
* `Halt`: what ends a search early.
* `Recognizer`: a search, and how far it came.
* `recognize`: the trees of the tokens by a rule.
-/

namespace SqlScript.Literal

/-- **What a search goes through.** -/
structure Source where
  tokens : Tokens
  /-- What stands in front of each message. -/
  heading : String
  /-- What quotations in a row make, or the whole message about what is wrong with them. -/
  join : List (List Char × Nat) → Except String Tree

/-- **What ends a search early.** -/
inductive Halt where
  /-- The tokens end with a fault. -/
  | fault (f : ScanFault)
  /-- The tokens are wrong in a way that is known. -/
  | wrong (message : String)
  /-- The search takes too long. -/
  | exhausted

/-- How far a search is, and came. -/
structure Progress where
  place : Nat := 0
  /-- The number of tokens that were looked at. -/
  reached : Nat := 0
  /-- Whether mistakes are looked for. -/
  mistakes : Bool
  /-- What was found for a rule at a place, and the place behind it. -/
  known : Std.HashMap (Rule × Nat) (Option (List Tree) × Nat) := {}

/-- **A search.** -/
abbrev Recognizer := ReaderT Source (EStateM Halt Progress)

namespace Recognizer

/-- The place of a search. -/
def place : Recognizer Nat := return (← get).place

/-- Goes to a place. -/
def goTo (place : Nat) : Recognizer Unit := modify fun p => { p with place }

/-- The token at the place. -/
def peek : Recognizer Token := do
  let p ← get
  let tokens := (← read).tokens
  match tokens.all[p.place]? with
  | some token =>
    set { p with reached := max p.reached (p.place + 1) }
    return token
  | none =>
    match tokens.fault with
    | some f => throw (.fault f)
    | none => throw .exhausted

/-- Takes the token at the place. -/
def advance : Recognizer Unit := modify fun p => { p with place := p.place + 1 }

/-- Ends the search with a message. -/
def fail (message : String) : Recognizer α := do throw (.wrong ((← read).heading ++ message))

/-- The tree of a token. -/
def leaf (token : Token) : Recognizer (List Tree) := do
  match token.kind with
  | .name => return [.name token.text]
  | .quotation => return [.quotation token.text token.line]
  | .number =>
    match Numeral.ofText token.text with
    | .ok n => return [.constant (.number n)]
    | .error message => fail message
  | _ => return []

/-- The names that are keywords in other places. -/
def softKeywords : List String := ["_", "case", "match"]

/-- Whether a token is a name that a soft keyword begins with. -/
def isSoftKeyword (token : Token) : Bool :=
  token.kind == .name && softKeywords.any (token.text.isPrefixOf ·.toList)

/-- Takes the token at the place if it passes a test. -/
def takeIf (test : Token → Bool) : Recognizer (Option (List Tree)) := do
  let token ← peek
  if test token then
    advance
    return some (← leaf token)
  else return none

/-- A quotation among trees, with its line. -/
def quotation? : Tree → Option (List Char × Nat)
  | .quotation text line => some (text, line)
  | _ => none

/-- Does what an alternative asks for once it fits. -/
def act (action : Action) (trees : List Tree) : Recognizer (Option (List Tree)) := do
  match action with
  | .pass => return some trees
  | .build form => return some [.node form trees]
  | .constant c => return some [.constant c]
  | .join =>
    match (← read).join (trees.filterMap quotation?) with
    | .ok tree => return some [tree]
    | .error message => throw (.wrong message)
  | .complain complaint =>
    let last := (← read).tokens.all[(← place) - 1]?
    match complaint trees (last.elim 0 (·.depth)) with
    | some message => fail message
    | none => return none

/-- Remembers what was found for a rule at a place. -/
def remember (rule : Rule) (start : Nat) (found : Option (List Tree)) : Recognizer Unit :=
  modify fun p => { p with known := p.known.insert (rule, start) (found, p.place) }

/-- What is remembered for a rule at the place, whose token has to be there. -/
def remembered? (rule : Rule) : Recognizer (Option (Option (List Tree))) := do
  let _ ← peek
  let p ← get
  match p.known[(rule, p.place)]? with
  | some (found, stop) =>
    goTo stop
    return some found
  | none => return none

/-- Searches without looking for mistakes. -/
def withoutMistakes (search : Recognizer α) : Recognizer α := do
  let mistakes := (← get).mistakes
  modify fun p => { p with mistakes := false }
  let found ← search
  modify fun p => { p with mistakes }
  return found

mutual

/-- Fits one item: its trees, or `none` if it does not fit. All searches have fuel for the steps
that lie within each other. -/
def fitItem : Nat → Item → Recognizer (Option (List Tree))
  | 0, _ => throw .exhausted
  | fuel + 1, item => do
    let start ← place
    match item with
    | .word text =>
      takeIf fun t => (t.kind == .operator || t.kind == .keyword) && t.text == text.toList
    | .kind k => takeIf (·.kind == k)
    | .softKeyword => takeIf isSoftKeyword
    | .rule r => fitRule fuel r
    | .optional items =>
      match ← fitItems fuel false items with
      | .ok trees => return some trees
      | .error _ =>
        goTo start
        return some []
    | .repeated least items => fitRepeated fuel least items
    | .separated separator items =>
      match ← fitItems fuel false items with
      | .error _ => return none
      | .ok first =>
        let more ← fitRepeated fuel 0 (.word separator :: items)
        return some (first ++ more.getD [])
    | .either alternatives => fitEither fuel alternatives
    | .ahead items =>
      let found ← fitItems fuel false items
      goTo start
      return if found.isOk then some [] else none
    | .notAhead items =>
      let found ← fitItems fuel false items
      goTo start
      return if found.isOk then none else some []
    | .cut => return some []

/-- Fits items in a row: their trees, or whether a cut was passed. -/
def fitItems : Nat → Bool → List Item → Recognizer (Except Bool (List Tree))
  | 0, _, _ => throw .exhausted
  | _ + 1, _, [] => return .ok []
  | fuel + 1, cut, item :: items => do
    match ← fitItem fuel item with
    | none => return .error cut
    | some trees =>
      let isCut := match item with
        | .cut => true
        | _ => false
      match ← fitItems fuel (cut || isCut) items with
      | .ok more => return .ok (trees ++ more)
      | .error cut => return .error cut

/-- Fits items as often as possible. -/
def fitRepeated : Nat → Nat → List Item → Recognizer (Option (List Tree))
  | 0, _, _ => throw .exhausted
  | fuel + 1, least, items => do
    let start ← place
    match ← fitItems fuel false items with
    | .ok trees =>
      let more ← fitRepeated fuel (least - 1) items
      return more.map (trees ++ ·)
    | .error _ =>
      goTo start
      return if least = 0 then some [] else none

/-- Fits the first of some rows of items that fits. -/
def fitEither : Nat → List (List Item) → Recognizer (Option (List Tree))
  | 0, _ => throw .exhausted
  | _ + 1, [] => return none
  | fuel + 1, items :: alternatives => do
    let start ← place
    match ← fitItems fuel false items with
    | .ok trees => return some trees
    | .error _ =>
      goTo start
      fitEither fuel alternatives

/-- Fits the first alternative that fits. Mistakes count if they are looked for. -/
def fitAlternatives : Nat → List Alternative → Recognizer (Option (List Tree))
  | 0, _ => throw .exhausted
  | _ + 1, [] => return none
  | fuel + 1, alternative :: alternatives => do
    if alternative.mistake?.isSome && !(← get).mistakes then fitAlternatives fuel alternatives
    else
      let start ← place
      match ← fitItems fuel false alternative.items with
      | .ok trees => act alternative.action trees
      | .error cut =>
        goTo start
        if cut then return none else fitAlternatives fuel alternatives

/-- Fits a rule that begins with itself, as long as that takes more tokens. `found` is what fitted
last, up to a place. -/
def grow : Nat → Rule → Nat → Option (List Tree) → Nat → Recognizer (Option (List Tree))
  | 0, _, _, _, _ => throw .exhausted
  | fuel + 1, rule, start, found, stop => do
    remember rule start found
    goTo start
    let more ← fitAlternatives fuel rule.alternatives
    let reached ← place
    if more.isSome && stop < reached then grow fuel rule start more reached
    else
      goTo stop
      return found

/-- Fits a rule. -/
def fitRule : Nat → Rule → Recognizer (Option (List Tree))
  | 0, _ => throw .exhausted
  | fuel + 1, rule => do
    if rule = .plainExpression then
      withoutMistakes (fitAlternatives fuel rule.alternatives)
    else if rule.isRecursive || rule.isRemembered then
      match ← remembered? rule with
      | some found => return found
      | none =>
        let start ← place
        if rule.isRecursive then grow fuel rule start none start
        else
          let found ← fitAlternatives fuel rule.alternatives
          remember rule start found
          return found
    else fitAlternatives fuel rule.alternatives

end

end Recognizer

/-- The number of steps that can lie within each other for one token. -/
def stepsPerToken : Nat := 500

/-- **The trees of the tokens by a rule**, if it fits, and how many tokens were looked at. -/
def recognize (source : Source) (mistakes : Bool) (rule : Rule) :
    Except Halt (Option (List Tree)) × Nat :=
  let fuel := stepsPerToken * (source.tokens.all.size + 2)
  match (Recognizer.fitRule fuel rule source).run { mistakes } with
  | .ok found p => (.ok found, p.reached)
  | .error halt p => (.error halt, p.reached)

end SqlScript.Literal
