import JsxLowering.Grammar.Type

/-!
# Targets

What a declaration, a parameter or an assignment gives values to. The targets of a binding are read as such; the
target of an assignment is read as an expression first and then reinterpreted (`asTarget`).
-/

namespace JsxLowering.Grammar

/-- An element of a list that may leave elements out. -/
def elementOrHole (item : Parser Tree) : Parser Tree := do
  if ← atMark "," then return .node .hole (← token).span [] else item

/-- A target with a default value, if one follows. -/
def withDefault (rules : Rules) (start : Nat) (target : Tree) : Parser Tree := do
  if ← eatMark "=" then
    let value ← allowingIn (rules .assignment)
    nodeFrom start .defaulted [target, value]
  else return target

/-- A target that may have a default value. -/
def defaultedTarget (rules : Rules) : Parser Tree := do
  let start ← here
  withDefault rules start (← rules .target)

/-- Notes a default value of a target that takes what is left, and passes it. -/
def noteRestDefault (rules : Rules) : Parser Unit := do
  if ← atMark "=" then
    note .defaultedRest
    advance
    let _ ← allowingIn (rules .assignment)

/-- The target that takes what is left. -/
def restTarget (rules : Rules) : Parser Tree := do
  let start ← here
  expectMark "..."
  let target ← rules .target
  noteRestDefault rules
  nodeFrom start .rest [target]

/-- Whether the target that takes what is left of an object is a name. -/
def restIsName : Tree → Bool
  | .node .rest _ [.node (.binding _) _ _] => true
  | .node .rest _ _ => false
  | _ => true

/-- A property of an object pattern. -/
def patternProperty (rules : Rules) : Parser Tree := do
  if ← atMark "..." then restTarget rules
  else
    let start ← here
    let isName := (← kind).isName
    let (key, computed) ← propertyKey rules
    match isName && !(← atMark ":"), key with
    | true, .node (.key text) span [] =>
      let target ← withDefault rules start (.node (.binding text) span [])
      nodeFrom start (.patternProperty true false) [key, target]
    | _, _ =>
      expectMark ":"
      let target ← defaultedTarget rules
      nodeFrom start (.patternProperty false computed) [key, target]

/-- The target of a binding: a name or a pattern. -/
def parseTarget (rules : Rules) : Parser Tree := do
  let start ← here
  match ← kind with
  | .mark "\x7b" =>
    advance
    let properties ← separatedWithRest "\x7d" .restNotLast (atMark "...") (patternProperty rules)
    expectMark "\x7d"
    unless properties.all restIsName do fail .invalidRest
    nodeFrom start .objectPattern properties
  | .mark "[" =>
    advance
    let element := do
      if ← atMark "..." then restTarget rules else defaultedTarget rules
    let elements ← separatedWithRest "]" .restNotLast (atMark "...") (elementOrHole element)
    expectMark "]"
    nodeFrom start .arrayPattern elements
  | _ => bindingName

/-- A target with its type, if it has one; `mark` is what may stand before the colon. -/
def typedTarget (rules : Rules) (mark : String) : Parser Tree := do
  let start ← here
  let target ← rules .target
  if (← read).types then
    let marked ← eatMark mark
    let type ← typeAnnotation? rules
    if marked || type.isPresent then
      nodeFrom start (.typed (if marked then mark else "")) [target, type]
    else return target
  else return target

/-! ### Targets of assignments -/

/-- Whether an expression is a name or a member. -/
def isPlaceExpression : Tree → Bool
  | .node (.name _) _ _ => true
  | .node (.member false) _ _ => true
  | .node (.index false) _ _ => true
  | _ => false

/-- The target that a single expression is. -/
def simpleTarget (tree : Tree) : Except Fault Tree :=
  let bare := tree.withoutParens
  if isPlaceExpression bare.withoutTypes then .ok bare else .error .invalidAssignment

mutual

/-- The target of an assignment that an expression is. -/
def asTarget : Tree → Except Fault Tree
  | .node .object span properties => return .node .objectTarget span (← asTargets properties)
  | .node .array span elements => return .node .arrayTarget span (← asTargets elements)
  | tree => simpleTarget tree

/-- The target that a property or element of such an expression is. -/
def asInnerTarget : Tree → Except Fault Tree
  | .node .object span properties => return .node .objectTarget span (← asTargets properties)
  | .node .array span elements => return .node .arrayTarget span (← asTargets elements)
  | .node (.property shorthand computed) span [key, value] =>
    return .node (.patternProperty shorthand computed) span [key, ← asInnerTarget value]
  | .node (.assignment operator) span [target, value] =>
    if operator == "=" then .ok (.node .defaulted span [target, value]) else .error .unexpectedToken
  | .node .defaulted span parts => .ok (.node .defaulted span parts)
  | .node .hole span parts => .ok (.node .hole span parts)
  | tree => simpleTarget tree

/-- The targets that the properties or elements of such an expression are; what takes the rest comes last. -/
def asTargets : List Tree → Except Fault (List Tree)
  | [] => .ok []
  | [.node .spread span [argument]] => return [.node .restTarget span [← asTarget argument]]
  | .node .spread _ _ :: _ => .error .spreadNotLast
  | tree :: rest => return (← asInnerTarget tree) :: (← asTargets rest)

end

/-- Whether the last of some targets takes what is left. -/
def endsInRest : List Tree → Bool
  | [] => false
  | [.node .restTarget _ _] => true
  | _ :: rest => endsInRest rest

mutual

/-- Where the defaulted shorthand properties of a target start, which have found their meaning. -/
def settledDefaults : Tree → List Nat
  | .node (.patternProperty true _) span [_, .node .defaulted _ _] => [span.start]
  | .node (.patternProperty _ _) _ [_, target] => settledDefaults target
  | .node .restTarget _ [target] => settledDefaults target
  | .node .objectTarget _ parts => settledDefaultsOf parts
  | .node .arrayTarget _ parts => settledDefaultsOf parts
  | _ => []

/-- Where the defaulted shorthand properties of targets start. -/
def settledDefaultsOf : List Tree → List Nat
  | [] => []
  | tree :: rest => settledDefaults tree ++ settledDefaultsOf rest

/-- How many of the arrays and objects in a target have a comma after what takes the rest, given where arrays and
objects start that end in a comma. -/
def restCommas (closed : List Nat) : Tree → Nat
  | .node .objectTarget span parts =>
    restCommasOf closed parts + (if endsInRest parts && closed.contains span.start then 1 else 0)
  | .node .arrayTarget span parts =>
    restCommasOf closed parts + (if endsInRest parts && closed.contains span.start then 1 else 0)
  | .node (.patternProperty _ _) _ [_, target] => restCommas closed target
  | .node .restTarget _ [target] => restCommas closed target
  | _ => 0

/-- The same for several targets. -/
def restCommasOf (closed : List Nat) : List Tree → Nat
  | [] => 0
  | tree :: rest => restCommas closed tree + restCommasOf closed rest

end

/-- Takes an expression for the target of an assignment. -/
def takeTarget (tree : Tree) : Parser Tree := do
  match asTarget tree with
  | .error fault => fail fault
  | .ok target =>
    let closed := (← get).commaEnded
    (List.replicate (restCommas closed target) Fault.commaAfterRest).forM note
    let settled := settledDefaults target
    modify fun r => { r with defaults := r.defaults.filter fun start => !settled.contains start }
    return target

/-- Takes an expression for the target of an assignment that also reads it. -/
def takeSimpleTarget (tree : Tree) : Parser Tree :=
  match simpleTarget tree with
  | .error fault => fail fault
  | .ok target => return target

end JsxLowering.Grammar
