import JsxLowering.Grammar.Expression
import JsxLowering.Proofs.Layout.Function

/-!
# Expressions keep elements in order

Expressions from literals up to sequences.  The changes that are made to an expression after it has been read keep its
elements.
-/

namespace JsxLowering.Grammar

section

variable {rules : Rules} [OrderlyRules rules] {acc mid rest : List Elements}

/-! ### Arrays and arguments -/

instance : Reads acc (spreadOrExpression rules) acc := .alone (by unfold spreadOrExpression; infer_instance)

instance {start : Nat} {trailing : Bool} : Reads acc (keepComma start trailing) acc :=
  .alone (by unfold keepComma; infer_instance)

instance : Reads acc (parseArray rules) acc := .alone (by unfold parseArray; infer_instance)

instance : Reads acc (parseArguments rules) acc := .alone (by unfold parseArguments; infer_instance)

/-! ### Objects -/

instance {start : Nat} {isName : Bool} {key : Tree} {computed : Bool} [Takes (elements key) acc rest] :
    Reads acc (propertyRest rules start isName key computed) rest :=
  .after key (by
    unfold propertyRest
    refine .bind fun atColon => ?_
    split <;> infer_instance)

private theorem elements_filter_sublist (keep : Tree → Bool) (items : List Tree) :
    (elements (items.filter keep)).Sublist (elements items) := by
  induction items with
  | nil => exact .slnil
  | cons item items ih =>
    cases hitem : keep item with
    | true => simpa [hitem] using ih
    | false => simpa [hitem] using ih.trans (List.sublist_append_right _ _)

private theorem elements_withoutReceiver_sublist (function : Tree) :
    (elements (withoutReceiver function)).Sublist (elements function) := by
  unfold withoutReceiver
  split
  next name typeParameters inner parameters result body =>
    have hparameters := elements_filter_sublist (fun p => !isReceiver p) parameters
    simp only [elements_node, elements_cons]
    exact ((hparameters.append_right _).append_left _).append_left _
  · exact .refl _

instance {function : Tree} [h : Takes (elements function) acc rest] :
    Takes (elements (withoutReceiver function)) acc rest :=
  h.of_sublist (elements_withoutReceiver_sublist function)

instance {start : Nat} {kind : MethodKind} {key : Tree} {computed : Bool} {function : Tree}
    [Takes (elements function) acc mid] [Takes (elements key) mid rest] :
    Reads acc (objectMethod start kind key computed function) rest :=
  .after₂ key function (by unfold objectMethod; infer_instance)

instance {start : Nat} {kind : MethodKind} : Reads acc (objectAccessor rules start kind) acc :=
  .alone (by unfold objectAccessor; infer_instance)

-- An instance is put together from those of all steps; these are more than the standard limit here.
set_option synthInstance.maxSize 256 in
instance : Reads acc (parseProperty rules) acc := .alone (by unfold parseProperty; infer_instance)

instance : Reads acc (spreadOrProperty rules) acc := .alone (by unfold spreadOrProperty; infer_instance)

instance : Reads acc (parseObject rules) acc := .alone (by unfold parseObject; infer_instance)

/-! ### Primary expressions -/

instance {raw : String} {more : Bool} : Reads acc (templateText raw more) acc :=
  .alone (by unfold templateText; infer_instance)

instance {tagged : Bool} : Reads acc (parseTemplate rules tagged) acc :=
  .alone (by unfold parseTemplate; infer_instance)

private theorem elements_keepParens (t : Tree) : elements (keepParens t) = elements t := by
  unfold keepParens
  split <;> simp

instance {t : Tree} [h : Takes (elements t) acc rest] : Takes (elements (keepParens t)) acc rest := by
  rwa [elements_keepParens]

instance : Reads acc (parseParens rules) acc := .alone (by
  unfold parseParens
  refine .bind fun start => .bind fun _ => .bind fun inner => .bindPair fun items trailing => ?_
  dsimp only
  split
  · infer_instance
  · refine .bind fun span => .bind fun _ => ?_
    split
    · infer_instance
    · simp only [elements_singleton]
      infer_instance
    · infer_instance)

instance : Reads acc nameReference acc := .alone (by unfold nameReference; infer_instance)

set_option synthInstance.maxSize 256 in
instance {start : Nat} {phase : String} : Reads acc (importCall rules start phase) acc :=
  .alone (by unfold importCall; infer_instance)

instance : Reads acc keywordKey acc := .alone (by unfold keywordKey; infer_instance)

instance : Reads acc (parseImport rules) acc := .alone (by unfold parseImport; infer_instance)

instance : Reads acc parseSuper acc := .alone (by unfold parseSuper; infer_instance)

instance : Reads acc readRegex acc := .alone (by unfold readRegex; infer_instance)

instance : Reads acc (parsePrimary rules) acc := .alone (by
  unfold parsePrimary
  refine .bind fun start => .bind fun _ => .bind fun k => ?_
  split
  · infer_instance
  · refine .bind fun k => ?_
    split <;> infer_instance)

/-! ### Members and calls -/

instance : Reads acc accessKey acc := .alone (by
  unfold accessKey
  refine .bind fun start => .bind fun k => ?_
  split <;> infer_instance)

instance : Reads acc (parseIndex rules) acc := .alone (by unfold parseIndex; infer_instance)

instance : Reads acc (expressionTypeArguments? rules) acc := .alone (by unfold expressionTypeArguments?; infer_instance)

instance : HasElements Access := ⟨fun access => elements access.tree⟩

instance {access : Access} [h : Takes (elements access) acc rest] : Takes (elements access.tree) acc rest := h

instance {tree : Tree} {optional : Bool} [h : Takes (elements tree) acc rest] :
    Takes (elements (Access.mk tree optional)) acc rest := h

instance {start : Nat} {object : Access} : Orderly [elements object] (memberStep rules start object) := by
  unfold memberStep
  refine .bind fun k => ?_
  dsimp only
  split
  · infer_instance
  · refine .bind fun following => .bind fun c => ?_
    split
    · infer_instance
    · split <;> infer_instance
  · infer_instance
  · infer_instance
  · infer_instance
  · exact .bindOption inferInstance inferInstance

instance {start : Nat} {object : Access} [Takes (elements object) acc rest] :
    Reads acc (memberSteps rules start object) rest :=
  .after object (by unfold memberSteps; infer_instance)

set_option synthInstance.maxSize 256 in
instance : Reads acc (parseNew rules) acc := .alone (by unfold parseNew; infer_instance)

instance {start : Nat} {object : Access} : Orderly [elements object] (callStep rules start object) := by
  unfold callStep
  refine .bind fun object => .bind fun optional => .bind fun called => ?_
  split
  · infer_instance
  · split
    · refine .bind fun k => ?_
      split <;> infer_instance
    · infer_instance

private theorem elements_chainOf (span : Span) (t : Tree) : elements (chainOf span t) = elements t := by
  fun_induction chainOf span t with
  | case1 span inner tree arguments ih => simp [ih]
  | _ => simp

instance {span : Span} {t : Tree} [h : Takes (elements t) acc rest] : Takes (elements (chainOf span t)) acc rest := by
  rwa [elements_chainOf]

instance : Reads acc (parseLeftHandSide rules) acc := .alone (by unfold parseLeftHandSide; infer_instance)

/-! ### Prefix and postfix operators -/

instance : Reads acc (parseAssertion rules) acc := .alone (by unfold parseAssertion; infer_instance)

instance : Reads acc (parseAngle rules) acc := .alone (by unfold parseAngle; infer_instance)

private theorem elements_markPure (t : Tree) : elements (markPure t) = elements t := by
  fun_induction markPure t <;> simp [*]

instance {t : Tree} [h : Takes (elements t) acc rest] : Takes (elements (markPure t)) acc rest := by
  rwa [elements_markPure]

instance : Reads acc atOperandSameLine acc := .alone (by unfold atOperandSameLine; infer_instance)

instance : Reads acc atAwait acc := .alone (by unfold atAwait; infer_instance)

instance : Reads acc (parseAwait rules) acc := .alone (by unfold parseAwait; infer_instance)

instance : Reads acc updateOperator? acc := .alone (by unfold updateOperator?; infer_instance)

instance : Reads acc (parseUpdate rules) acc := .alone (by
  unfold parseUpdate
  refine .bind fun start => .bind fun before => ?_
  split
  · infer_instance
  · refine .bind fun angle => ?_
    split
    · infer_instance
    · refine .bind fun operand => .bind fun after => ?_
      split <;> infer_instance)

instance : Reads acc (parseUnary rules) acc := .alone (by
  unfold parseUnary
  refine .bind fun start => .bind fun k => ?_
  split <;> infer_instance)

/-! ### Binary operators -/

private theorem readAngle_eq :
    readAngle = modify fun r => if r.token.kind.isMark ">" then r.rescan scanAngle else r := by
  funext c r
  show (if r.token.kind.isMark ">" then rescan scanAngle else pure ()) c r =
    .ok ((), if r.token.kind.isMark ">" then r.rescan scanAngle else r)
  split <;> rfl

instance : Reads acc readAngle acc := by
  rw [readAngle_eq]
  refine ⟨.modify fun r hr => ?_⟩
  split
  next hmark =>
    obtain ⟨htext, -⟩ := hr.mark _ (TokenKind.eq_mark_of_isMark hmark)
    exact forward_rescan hr (faithful_scanAngle htext)
  · exact .refl hr

instance {found : Option (String × Nat)} : Takes (elements found) acc acc := .none (by cases found <;> rfl)

instance : Reads acc binaryOperator? acc := .alone (by
  unfold binaryOperator?
  refine .bind fun _ => .bind fun k => ?_
  split <;> infer_instance)

instance : Reads acc (ascribedType rules) acc := .alone (by unfold ascribedType; infer_instance)

instance : Reads acc (firstOperand rules) acc := .alone (by
  unfold firstOperand
  refine .bind fun t => ?_
  split <;> infer_instance)

instance {operator : String} {left right : Tree} : Reads acc (checkOperands operator left right) acc :=
  .alone (by unfold checkOperands; infer_instance)

instance {start level : Nat} {left : Tree} : Orderly [elements left] (joinStep rules start level left) := by
  unfold joinStep
  refine .bind fun operator => ?_
  split <;> infer_instance

instance {level : Nat} : Reads acc (parseOperand rules level) acc := .alone (by unfold parseOperand; infer_instance)

/-! ### Expressions -/

instance {start : Nat} {test : Tree} [Takes (elements test) acc rest] :
    Reads acc (conditionalRest rules start test) rest :=
  .after test (by unfold conditionalRest; infer_instance)

instance : Reads acc atYield acc := .alone (by unfold atYield; infer_instance)

instance : Reads acc (parseYield rules) acc := .alone (by unfold parseYield; infer_instance)

instance {operator : String} {left : Tree} [Takes (elements left) acc rest] :
    Reads acc (targetFor operator left) rest :=
  .after left (by unfold targetFor; infer_instance)

theorem elements_markEffectless (t : Tree) : elements (markEffectless t) = elements t := by
  unfold markEffectless
  split <;> simp

instance {t : Tree} [h : Takes (elements t) acc rest] : Takes (elements (markEffectless t)) acc rest := by
  rwa [elements_markEffectless]

private theorem elements_markFunctionExpression (t : Tree) : elements (markFunctionExpression t) = elements t := by
  unfold markFunctionExpression
  split <;> simp

instance {t : Tree} [h : Takes (elements t) acc rest] : Takes (elements (markFunctionExpression t)) acc rest := by
  rwa [elements_markFunctionExpression]

instance : Reads acc (parseAssignment rules) acc := .alone (by
  unfold parseAssignment
  refine .bind fun start => .bind fun t => .bind fun yields => ?_
  split
  · infer_instance
  · refine .bindOption (.bind fun left => .bind fun k => ?_) inferInstance
    split <;> infer_instance)

instance : Reads acc (parseExpression rules) acc := .alone (by unfold parseExpression; infer_instance)

end

end JsxLowering.Grammar
