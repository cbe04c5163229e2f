import JsxLowering.Grammar.Expression
import JsxLowering.Grammar.Markup
import JsxLowering.Proofs.Loading.Function

/-!
# Expressions do not mind how the text is loaded

The word `await` is asked for before every operand (`atAwait`) and before every property that may be a shorthand.
-/

namespace JsxLowering.Grammar

section

variable {v : Variation} {rules : Rules} [IndifferentRules v rules]

/-! ### Arrays and arguments -/

instance : Indifferent v (spreadOrExpression rules) := by unfold spreadOrExpression; infer_instance

instance {start : Nat} {trailing : Bool} : Indifferent v (keepComma start trailing) := by
  unfold keepComma
  infer_instance

instance : Indifferent v (parseArray rules) := by unfold parseArray; infer_instance

instance : Indifferent v (parseArguments rules) := by unfold parseArguments; infer_instance

/-! ### Objects -/

instance {start : Nat} {isName : Bool} {key : Tree} {computed : Bool} :
    Indifferent v (propertyRest rules start isName key computed) := by
  unfold propertyRest
  refine .bind fun atColon => ?_
  split <;> infer_instance

instance {start : Nat} {kind : MethodKind} {key : Tree} {computed : Bool} {function : Tree} :
    Indifferent v (objectMethod start kind key computed function) := by
  unfold objectMethod
  infer_instance

instance {start : Nat} {kind : MethodKind} : Indifferent v (objectAccessor rules start kind) := by
  unfold objectAccessor
  infer_instance

-- Whether a key may stand for a binding depends on the condition only if the key is the word.
instance : Indifferent v (parseProperty rules) := by
  unfold parseProperty
  refine .bind fun start => .bind fun next => .bind fun isAsync => ?_
  extract_lets async member
  have hmember (u : Unit) : Indifferent v (member u) := by
    refine .bind fun getter => ?_
    split
    · infer_instance
    refine .bind fun setter => ?_
    split
    · infer_instance
    refine .bind fun generator => .bindKind fun k hk => .read (fun c => inferInstance) fun hv c b => ?_
    simp only [hk hv, Bool.false_and]
  clear_value member
  infer_instance

instance : Indifferent v (spreadOrProperty rules) := by unfold spreadOrProperty; infer_instance

instance : Indifferent v (parseObject rules) := by unfold parseObject; infer_instance

/-! ### Templates -/

instance {raw : String} {more : Bool} : Indifferent v (templateText raw more) := by unfold templateText; infer_instance

instance {tagged : Bool} : Indifferent v (parseTemplate rules tagged) := by unfold parseTemplate; infer_instance

/-! ### Parentheses -/

instance : Indifferent v (parseParens rules) := by
  unfold parseParens
  refine .bind fun start => .bind fun _ => .bind fun inner => .bind fun (items, trailing) => ?_
  dsimp only
  split
  · infer_instance
  · refine .bind fun span => .bind fun _ => ?_
    split <;> infer_instance

/-! ### All of them -/

instance : Indifferent v nameReference := by unfold nameReference; infer_instance

instance {start : Nat} {phase : String} : Indifferent v (importCall rules start phase) := by
  unfold importCall
  infer_instance

instance : Indifferent v keywordKey := by unfold keywordKey; infer_instance

instance : Indifferent v (parseImport rules) := by unfold parseImport; infer_instance

instance : Indifferent v parseSuper := by unfold parseSuper; infer_instance

instance : Indifferent v readRegex := by unfold readRegex; infer_instance

instance : Indifferent v (parsePrimary rules) := by
  unfold parsePrimary
  refine .bind fun start => .bind fun _ => .bind fun k => ?_
  split
  · infer_instance
  · refine .bind fun k => ?_
    split <;> infer_instance

/-! ### Members and calls -/

instance : Indifferent v accessKey := by
  unfold accessKey
  refine .bind fun start => .bind fun k => ?_
  split <;> infer_instance

instance : Indifferent v (parseIndex rules) := by unfold parseIndex; infer_instance

instance : Indifferent v (expressionTypeArguments? rules) := by unfold expressionTypeArguments?; infer_instance

instance {start : Nat} {object : Access} : Indifferent v (memberStep rules start object) := by
  unfold memberStep
  refine .bind fun k => ?_
  dsimp only
  split
  · infer_instance
  · refine .bind fun following => .read (fun c => ?_) fun _ c b => rfl
    split
    · infer_instance
    · split <;> infer_instance
  · infer_instance
  · infer_instance
  · infer_instance
  · refine .bind fun arguments => ?_
    split <;> infer_instance

instance {start : Nat} {object : Access} : Indifferent v (memberSteps rules start object) := by
  unfold memberSteps
  infer_instance

instance : Indifferent v (parseNew rules) := by unfold parseNew; infer_instance

instance {start : Nat} {object : Access} : Indifferent v (callStep rules start object) := by
  unfold callStep
  refine .bind fun object => .bind fun optional => .bind fun called => ?_
  split
  · infer_instance
  · split
    · refine .bind fun k => ?_
      split <;> infer_instance
    · infer_instance

instance : Indifferent v (parseLeftHandSide rules) := by unfold parseLeftHandSide; infer_instance

/-! ### Prefix and postfix operators -/

instance : Indifferent v (parseAssertion rules) := by unfold parseAssertion; infer_instance

instance : Indifferent v (parseAngle rules) := by unfold parseAngle; infer_instance

instance : Indifferent v atOperandSameLine := by unfold atOperandSameLine; infer_instance

instance : Indifferent .script atAwait := by unfold atAwait; infer_instance

theorem atAwait_eq_false (c : Conditions) (r : Reader) (hr : r.AwaitFree) : atAwait c r = .ok (false, r) := by
  rw [atAwait, bind_run, atWord_await c r hr]
  rfl

instance : Indifferent v updateOperator? := by unfold updateOperator?; infer_instance

instance : Indifferent v (parseUpdate rules) := by
  unfold parseUpdate
  refine .bind fun start => .bind fun before => ?_
  split
  · infer_instance
  · refine .bind fun angle => ?_
    split
    · infer_instance
    · refine .bind fun operand => .bind fun after => ?_
      split <;> infer_instance

instance : Parallel fun c => { c with awaitOperator := true } := ⟨fun _ _ => ⟨true, rfl⟩⟩

instance {rules : Rules} [IndifferentRules .script rules] : Indifferent .script (parseAwait rules) := by
  unfold parseAwait
  infer_instance

instance : Indifferent v (parseUnary rules) := by
  unfold parseUnary
  refine .bind fun start => .bind fun k => ?_
  split
  · infer_instance
  · cases v with
    | await => exact .bindFalse atAwait_eq_false (inferInstanceAs (Indifferent .await (parseUpdate rules)))
    | script => infer_instance

/-! ### Binary operators -/

instance : Indifferent v readAngle := by unfold readAngle; infer_instance

instance : Indifferent v binaryOperator? := by
  unfold binaryOperator?
  refine .bind fun _ => .bind fun k => ?_
  split <;> infer_instance

instance : Indifferent v (ascribedType rules) := by unfold ascribedType; infer_instance

instance : Indifferent v (firstOperand rules) := by
  unfold firstOperand
  refine .bind fun t => ?_
  split <;> infer_instance

instance {operator : String} {left right : Tree} : Indifferent v (checkOperands operator left right) := by
  unfold checkOperands
  infer_instance

instance {start level : Nat} {left : Tree} : Indifferent v (joinStep rules start level left) := by
  unfold joinStep
  refine .bind fun operator => ?_
  split <;> infer_instance

instance {level : Nat} : Indifferent v (parseOperand rules level) := by unfold parseOperand; infer_instance

/-! ### Expressions -/

instance {start : Nat} {test : Tree} : Indifferent v (conditionalRest rules start test) := by
  unfold conditionalRest
  infer_instance

instance : Indifferent v atYield := by unfold atYield; infer_instance

instance : Parallel fun c => { c with yieldOperator := true, arrowResult := true } := ⟨fun _ b => ⟨b, rfl⟩⟩

instance : Indifferent v (parseYield rules) := by unfold parseYield; infer_instance

instance {operator : String} {left : Tree} : Indifferent v (targetFor operator left) := by
  unfold targetFor
  infer_instance

instance : Indifferent v (parseAssignment rules) := by
  unfold parseAssignment
  refine .bind fun start => .bind fun t => .bind fun yields => ?_
  split
  · infer_instance
  · refine .bind fun arrow => ?_
    split
    · infer_instance
    · refine .bind fun left => .bind fun k => ?_
      split <;> infer_instance

instance : Indifferent v (parseExpression rules) := by unfold parseExpression; infer_instance

/-! ### Markup -/

instance : Indifferent v (modify Reader.advanceToChild : Parser Unit) :=
  .modify (fun _ hr => .advanceToChild hr.rest) (fun _ hr => .place hr.rest _ _ _) fun _ _ _ => rfl

instance : Indifferent v (modify Reader.advanceToValue : Parser Unit) :=
  .modify (fun _ hr => .advanceToValue hr.rest) (fun _ hr => hr.advanceBy _) fun _ b hr => hr.advanceBy_scripted _ b

instance {text : String} : Indifferent v (expectBeforeChild text) := by unfold expectBeforeChild; infer_instance

instance {nested : Bool} : Indifferent v (closeTag nested) := by
  have : Indifferent v (modify (if nested then Reader.advanceToChild else Reader.advance) : Parser Unit) := by
    cases nested with
    | true => exact inferInstanceAs (Indifferent v (modify Reader.advanceToChild))
    | false => exact inferInstanceAs (Indifferent v pass)
  unfold closeTag
  infer_instance

instance {start : Nat} {nested : Bool} : Indifferent v (closeMarkup start nested) := by
  unfold closeMarkup
  infer_instance

/-- The name that is read in a tag may be `await`; what follows it is as free of the word as before. -/
theorem indifferent_passName (scan : List Char → Scanned) (raw : String) : Indifferent v (do
    rescan scan
    let start ← here
    pass
    return (← spanFrom start, raw)) := by
  cases v with
  | await =>
    refine ⟨fun {c c' r r'} _ hr => ?_⟩
    cases hr with
    | await hr => exact .ok _ (.await (.advance (hr.here.suffix (List.drop_suffix _ _))))
  | script =>
    have : Indifferent .script (rescan scan) := by
      refine ⟨fun {c c' r r'} _ hr => ?_⟩
      cases hr with
      | script hr b => exact .ok () (.script (hr.rescan scan) b)
    infer_instance

instance : Indifferent v tagWord := by
  have hpassed := @indifferent_passName v
  unfold tagWord
  infer_instance

instance {start : Nat} {object : DottedName} : Indifferent v (dottedName start object) := by
  unfold dottedName
  infer_instance

instance : Indifferent v elementName := by unfold elementName; infer_instance

instance : Indifferent v attributeName := by unfold attributeName; infer_instance

instance : Indifferent v (attributeValue rules) := by
  unfold attributeValue
  refine .bind fun t => ?_
  split <;> infer_instance

instance : Indifferent v (parseAttribute rules) := by unfold parseAttribute; infer_instance

instance : Indifferent v (parseAttributes rules) := by unfold parseAttributes; infer_instance

instance : Indifferent v (parseChild rules) := by
  unfold parseChild
  refine .bind fun t => ?_
  split <;> infer_instance

instance : Indifferent v atClosingTag := by unfold atClosingTag; infer_instance

instance : Indifferent v (parseChildren rules) := by unfold parseChildren; infer_instance

instance {start : Nat} {nested : Bool} : Indifferent v (parseFragment rules start nested) := by
  unfold parseFragment
  infer_instance

instance : Indifferent v (skipTypeArguments rules) := by unfold skipTypeArguments; infer_instance

instance {start : Nat} {nested : Bool} : Indifferent v (parseElement rules start nested) := by
  unfold parseElement
  infer_instance

instance {nested : Bool} : Indifferent v (parseMarkup rules nested) := by unfold parseMarkup; infer_instance

end

end JsxLowering.Grammar
