import JsxLowering.Grammar.Type
import JsxLowering.Proofs.Loading.Basic

/-!
# Types do not mind how the text is loaded

What the rules for other constructs do is assumed here and in the modules for the rest of the grammar
(`IndifferentRules`).
-/

namespace JsxLowering.Grammar

/-- No construct is read in another way by runs that vary in the one way. -/
class IndifferentRules (v : Variation) (rules : Rules) : Prop where
  indifferent : ∀ construct, Indifferent v (rules construct)

section

variable {v : Variation} {rules : Rules} [h : IndifferentRules v rules]

instance {nested : Bool} : Indifferent v (rules (.markup nested)) := h.indifferent (.markup nested)
instance : Indifferent v (rules .expression) := h.indifferent .expression
instance : Indifferent v (rules .assignment) := h.indifferent .assignment
instance {level : Nat} : Indifferent v (rules (.operand level)) := h.indifferent (.operand level)
instance : Indifferent v (rules .unary) := h.indifferent .unary
instance : Indifferent v (rules .leftHandSide) := h.indifferent .leftHandSide
instance : Indifferent v (rules .construction) := h.indifferent .construction
instance {alone : Bool} : Indifferent v (rules (.statement alone)) := h.indifferent (.statement alone)
instance : Indifferent v (rules .target) := h.indifferent .target
instance : Indifferent v (rules .type) := h.indifferent .type
instance : Indifferent v (rules .typeMember) := h.indifferent .typeMember

instance : Indifferent v (propertyKey rules) := by
  unfold propertyKey
  refine .bind fun start => .bind fun k => ?_
  split <;> infer_instance

instance : Indifferent v (memberKey rules) := by
  unfold memberKey
  refine .bind fun k => ?_
  split <;> infer_instance

instance {text : String} : Indifferent v (atAccessor text) := by unfold atAccessor; infer_instance

instance : Indifferent v (typeArguments rules) := by unfold typeArguments; infer_instance

instance : Indifferent v (typeArguments? rules) := by unfold typeArguments?; infer_instance

instance {root : Parser Tree} [Indifferent v root] : Indifferent v (qualifiedName root) := by
  unfold qualifiedName
  infer_instance

instance : Indifferent v (typeReference rules) := by unfold typeReference; infer_instance

instance : Indifferent v typeParameterModifiers := by unfold typeParameterModifiers; infer_instance

instance : Indifferent v (typeParameter rules) := by unfold typeParameter; infer_instance

instance : Indifferent v (typeParameters? rules) := by unfold typeParameters?; infer_instance

instance : Indifferent v (typeAnnotation? rules) := by unfold typeAnnotation?; infer_instance

instance : Indifferent v (receiverParameter rules) := by unfold receiverParameter; infer_instance

instance : Indifferent v predicateSubject := by unfold predicateSubject; infer_instance

instance : Indifferent v (resultType rules) := by unfold resultType; infer_instance

instance : Indifferent v (resultAnnotation? rules) := by unfold resultAnnotation?; infer_instance

instance : Indifferent v (typeParameterOfFunction rules) := by unfold typeParameterOfFunction; infer_instance

instance : Indifferent v (functionTypeParameters rules) := by unfold functionTypeParameters; infer_instance

instance {start : Nat} {lead : String} : Indifferent v (functionType rules start lead) := by
  unfold functionType
  infer_instance

instance : Indifferent v (tupleElement rules) := by unfold tupleElement; infer_instance

instance : Indifferent v readTemplateRest := by unfold readTemplateRest; infer_instance

instance {form : Form} {tagged : Bool} {text : String → Bool → Parser Tree} {inner : Parser Tree}
    [∀ a b, Indifferent v (text a b)] [Indifferent v inner] : Indifferent v (templateOf form tagged text inner) := by
  unfold templateOf
  refine .bind fun start => .loop fun pieces => .bind fun k => ?_
  split <;> infer_instance

instance : Indifferent v (templateType rules) := by unfold templateType; infer_instance

instance : Indifferent v atMappedType := by unfold atMappedType; infer_instance

instance : Indifferent v mappedSign := by unfold mappedSign; infer_instance

instance : Indifferent v (mappedType rules) := by unfold mappedType; infer_instance

instance : Indifferent v (typeMembers rules) := by unfold typeMembers; infer_instance

instance : Indifferent v literalNode := by
  unfold literalNode
  refine .bind fun start => .bind fun k => ?_
  split <;> infer_instance

instance : Indifferent v literalType := by unfold literalType; infer_instance

instance : Indifferent v (importType rules) := by unfold importType; infer_instance

instance : Indifferent v (typeQuery rules) := by unfold typeQuery; infer_instance

instance : Indifferent v (primaryType rules) := by
  unfold primaryType
  refine .bind fun start => .bind fun k => ?_
  split <;> infer_instance

instance : Indifferent v (postfixType rules) := by unfold postfixType; infer_instance

instance : Indifferent v atTypeOperator := by unfold atTypeOperator; infer_instance

instance : Indifferent v (inferConstraint rules) := by unfold inferConstraint; infer_instance

instance : Indifferent v (operatorType rules) := by
  unfold operatorType
  refine .bind fun operators => ?_
  split <;> infer_instance

instance {operator : String} {form : Form} {item : Parser Tree} [Indifferent v item] :
    Indifferent v (joinedType operator form item) := by
  unfold joinedType
  infer_instance

instance : Indifferent v (unionType rules) := by unfold unionType; infer_instance

-- An instance is put together from those of all steps; these are more than the standard limit here.
set_option synthInstance.maxSize 1024 in
instance : Indifferent v (opensParameters rules) := by unfold opensParameters; infer_instance

instance : Indifferent v (atFunctionType rules) := by unfold atFunctionType; infer_instance

instance {start : Nat} {checked : Tree} : Indifferent v (conditionRest rules start checked) := by
  unfold conditionRest
  infer_instance

instance : Indifferent v (parseType rules) := by unfold parseType; infer_instance

instance : Indifferent v atIndexSignature := by unfold atIndexSignature; infer_instance

instance {start : Nat} {modifiers : List String} : Indifferent v (indexSignature rules start modifiers) := by
  unfold indexSignature
  infer_instance

set_option synthInstance.maxSize 1024 in
instance : Indifferent v (parseTypeMember rules) := by unfold parseTypeMember; infer_instance

end

end JsxLowering.Grammar
