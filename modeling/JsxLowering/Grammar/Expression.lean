import JsxLowering.Grammar.Operand

/-!
# Expressions

Conditional expressions, assignments, `yield` and sequences.
-/

namespace JsxLowering.Grammar

/-- The operators of assignments. -/
def assignmentOperators : List String :=
  ["=", "+=", "-=", "*=", "/=", "%=", "**=", "<<=", ">>=", ">>>=", "&=", "|=", "^=", "&&=", "||=", "??="]

/-- The assignment operator that a token is. -/
def assignmentOperator? : TokenKind → Option String
  | .mark text => if assignmentOperators.contains text then some text else none
  | _ => none

/-- A conditional expression, if a question mark follows the test. -/
def conditionalRest (rules : Rules) (start : Nat) (test : Tree) : Parser Tree := do
  if ← eatMark "?" then
    let yes ← under (fun c => { c with inOperator := true, arrowResult := false }) (rules .assignment)
    expectMark ":"
    let no ← rules .assignment
    nodeFrom start .conditional [test, yes, no]
  else return test

/-- Whether the current token is `yield` as an operator; outside generators what follows tells. -/
def atYield : Parser Bool := do
  if !(← atWord "yield") then return false
  else if (← read).yieldOperator then return true
  else atOperandSameLine

/-- Whether a token cannot start the operand of `yield`. -/
def endsYield : TokenKind → Bool
  | .eof => true
  | .mark text => [")", "]", "\x7d", ",", ";", ":"].contains text
  | .word text _ => text == "in"
  | _ => false

/-- A `yield`, whose keyword is the current token. -/
def parseYield (rules : Rules) : Parser Tree := do
  let start ← here
  noteIf (!(← read).yieldOperator) .yieldOutsideGenerator
  advance
  if ← onNewLine then nodeFrom start (.yield false) []
  else
    let delegate ← eatMark "*"
    if endsYield (← kind) && !delegate then nodeFrom start (.yield false) []
    else
      let value ← under (fun c => { c with yieldOperator := true, arrowResult := true }) (rules .assignment)
      nodeFrom start (.yield delegate) [value]

/-- The target of an assignment with the given operator. -/
def targetFor (operator : String) (left : Tree) : Parser Tree :=
  if operator == "=" then takeTarget left else takeSimpleTarget left

/-- Says of a function expression that it has no effects. -/
def markFunctionExpression : Tree → Tree
  | .node (.function role async generator declared _) span parts =>
    .node (.function role async generator declared true) span parts
  | tree => tree

/-- An expression without commas. A comment before it may say of a function that it has no effects. -/
def parseAssignment (rules : Rules) : Parser Tree := do
  let start ← here
  let effectless := (← token).effectless
  if ← atYield then parseYield rules
  else
    match ← arrowFunction? rules with
    | some arrow => return if effectless then markEffectless arrow else arrow
    | none =>
      let left ← parseOperand rules 0
      match assignmentOperator? (← kind) with
      | some operator =>
        let target ← targetFor operator left
        advance
        let value ← rules .assignment
        nodeFrom start (.assignment operator) [target, value]
      | none =>
        let tree ← conditionalRest rules start left
        return if effectless then markFunctionExpression tree else tree

/-- An expression, with commas. -/
def parseExpression (rules : Rules) : Parser Tree := do
  let start ← here
  let first ← rules .assignment
  if ← atMark "," then
    let more ← many (do return !(← atMark ",")) (do
      advance
      rules .assignment)
    nodeFrom start .sequence (first :: more)
  else return first

end JsxLowering.Grammar
