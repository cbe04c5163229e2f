import JsxLowering.Grammar.TypeDeclaration
import JsxLowering.Proofs.Layout.Basic

/-!
# Types keep elements in order

The keys of types may be computed, so that types hold elements too.  What the rules for other constructs do is assumed here
and in the modules for the rest of the grammar (`OrderlyRules`).
-/

namespace JsxLowering.Grammar

/-! ### Rules -/

/-- The elements in what is read for a construct. -/
def Construct.elements : (construct : Construct) → construct.Result → Elements
  | .markup _ => Markup.elements
  | .expression => Tree.elements
  | .assignment => Tree.elements
  | .operand _ => Tree.elements
  | .unary => Tree.elements
  | .leftHandSide => Tree.elements
  | .construction => Tree.elements
  | .statement _ => Tree.elements
  | .target => Tree.elements
  | .type => Tree.elements
  | .typeMember => Tree.elements

/-- All constructs are read so that elements stay in order. -/
class OrderlyRules (rules : Rules) : Prop where
  keeps : ∀ construct, KeepsOrder construct.elements [] (rules construct) []

section

variable {rules : Rules} [h : OrderlyRules rules] {acc mid rest : List Elements}

instance {nested : Bool} : Reads acc (rules (.markup nested)) acc := .alone ⟨h.keeps (.markup nested)⟩
instance : Reads acc (rules .expression) acc := .alone ⟨h.keeps .expression⟩
instance : Reads acc (rules .assignment) acc := .alone ⟨h.keeps .assignment⟩
instance {level : Nat} : Reads acc (rules (.operand level)) acc := .alone ⟨h.keeps (.operand level)⟩
instance : Reads acc (rules .unary) acc := .alone ⟨h.keeps .unary⟩
instance : Reads acc (rules .leftHandSide) acc := .alone ⟨h.keeps .leftHandSide⟩
instance : Reads acc (rules .construction) acc := .alone ⟨h.keeps .construction⟩
instance {alone : Bool} : Reads acc (rules (.statement alone)) acc := .alone ⟨h.keeps (.statement alone)⟩
instance : Reads acc (rules .target) acc := .alone ⟨h.keeps .target⟩
instance : Reads acc (rules .type) acc := .alone ⟨h.keeps .type⟩
instance : Reads acc (rules .typeMember) acc := .alone ⟨h.keeps .typeMember⟩

/-! ### Keys -/

instance : Reads acc (propertyKey rules) acc := .alone (by
  unfold propertyKey
  refine .bind fun start => .bind fun k => ?_
  split <;> infer_instance)

instance : Reads acc (memberKey rules) acc := .alone (by
  unfold memberKey
  refine .bind fun k => ?_
  split <;> infer_instance)

instance {text : String} : Reads acc (atAccessor text) acc := .alone (by unfold atAccessor; infer_instance)

/-! ### Parts of types -/

instance : Reads acc (typeArguments rules) acc := .alone (by unfold typeArguments; infer_instance)

instance : Reads acc (typeArguments? rules) acc := .alone (by unfold typeArguments?; infer_instance)

instance {root : Parser Tree} [hroot : Orderly [] root] : Reads acc (qualifiedName root) acc := by
  have hroot (acc : List Elements) : Reads acc root acc := .alone hroot
  exact .alone (by unfold qualifiedName; infer_instance)

instance : Reads acc (typeReference rules) acc := .alone (by unfold typeReference; infer_instance)

instance : Reads acc typeParameterModifiers acc := .alone (by unfold typeParameterModifiers; infer_instance)

instance : Reads acc (typeParameter rules) acc := .alone (by unfold typeParameter; infer_instance)

instance : Reads acc (typeParameters? rules) acc := .alone (by unfold typeParameters?; infer_instance)

instance : Reads acc (typeAnnotation? rules) acc := .alone (by unfold typeAnnotation?; infer_instance)

instance : Reads acc (receiverParameter rules) acc := .alone (by unfold receiverParameter; infer_instance)

instance : Reads acc predicateSubject acc := .alone (by unfold predicateSubject; infer_instance)

instance : Reads acc (resultType rules) acc := .alone (by unfold resultType; infer_instance)

instance : Reads acc (resultAnnotation? rules) acc := .alone (by unfold resultAnnotation?; infer_instance)

instance : Reads acc (typeParameterOfFunction rules) acc := .alone (by unfold typeParameterOfFunction; infer_instance)

instance : Reads acc (functionTypeParameters rules) acc := .alone (by unfold functionTypeParameters; infer_instance)

instance {start : Nat} {lead : String} : Reads acc (functionType rules start lead) acc :=
  .alone (by unfold functionType; infer_instance)

instance : Reads acc (tupleElement rules) acc := .alone (by unfold tupleElement; infer_instance)

/-! ### Types -/

instance : Reads acc readTemplateRest acc := .alone (by unfold readTemplateRest; infer_instance)

instance {form : Form} {tagged : Bool} {text : String → Bool → Parser Tree} {inner : Parser Tree}
    [htext : ∀ raw more, Orderly [] (text raw more)] [hinner : Orderly [] inner] :
    Reads acc (templateOf form tagged text inner) acc := by
  refine .alone (.bind fun start => .loop reversed fun pieces => Reads.keeps.bind fun k => ?_)
  split
  next raw sound more =>
    refine (Reads.alone (htext raw more)).keeps.bind fun piece => Reads.keeps.bind fun _ => Reads.keeps.bind fun _ => ?_
    cases more with
    | true =>
      exact (Reads.alone hinner).keeps.bind fun content => Reads.keeps.bind fun _ => .pure (by simp)
    | false => exact Reads.keeps.bind fun tree => .pure (by simp [elements])
  · exact Reads.keeps.bind fun k => .of_fails (fails_fail _)

instance : Reads acc (templateType rules) acc := .alone (by unfold templateType; infer_instance)

instance : Reads acc atMappedType acc := .alone (by unfold atMappedType; infer_instance)

instance : Reads acc mappedSign acc := .alone (by unfold mappedSign; infer_instance)

instance : Reads acc (mappedType rules) acc := .alone (by unfold mappedType; infer_instance)

instance : Reads acc (typeMembers rules) acc := .alone (by unfold typeMembers; infer_instance)

instance : Reads acc literalNode acc := .alone (by
  unfold literalNode
  refine .bind fun start => .bind fun k => ?_
  split <;> infer_instance)

instance : Reads acc literalType acc := .alone (by unfold literalType; infer_instance)

instance : Reads acc (importType rules) acc := .alone (by unfold importType; infer_instance)

instance : Reads acc (typeQuery rules) acc := .alone (by unfold typeQuery; infer_instance)

instance : Reads acc (primaryType rules) acc := .alone (by
  unfold primaryType
  refine .bind fun start => .bind fun k => ?_
  split <;> infer_instance)

-- An instance is put together from those of all steps; these are more than the standard limit here.
set_option synthInstance.maxSize 400 in
instance : Reads acc (postfixType rules) acc := .alone (by unfold postfixType; infer_instance)

instance : Reads acc atTypeOperator acc := .alone (by unfold atTypeOperator; infer_instance)

instance : Reads acc (inferConstraint rules) acc := .alone (by unfold inferConstraint; infer_instance)

instance : Reads acc (operatorType rules) acc := .alone (by
  unfold operatorType
  refine .bind fun operators => ?_
  split <;> infer_instance)

instance {operator : String} {form : Form} {item : Parser Tree} [hitem : Orderly [] item] :
    Reads acc (joinedType operator form item) acc := by
  have hitem (acc : List Elements) : Reads acc item acc := .alone hitem
  exact .alone (by unfold joinedType; infer_instance)

instance : Reads acc (unionType rules) acc := .alone (by unfold unionType; infer_instance)

instance : Reads acc (atFunctionType rules) acc := .alone (by unfold atFunctionType; infer_instance)

instance {start : Nat} {checked : Tree} [Takes (elements checked) acc rest] :
    Reads acc (conditionRest rules start checked) rest :=
  .after checked (by unfold conditionRest; infer_instance)

instance : Reads acc (parseType rules) acc := .alone (by unfold parseType; infer_instance)

instance : Reads acc atIndexSignature acc := .alone (by unfold atIndexSignature; infer_instance)

instance {start : Nat} {modifiers : List String} : Reads acc (indexSignature rules start modifiers) acc :=
  .alone (by unfold indexSignature; infer_instance)

set_option synthInstance.maxSize 400 in
instance : Reads acc (parseTypeMember rules) acc := .alone (by unfold parseTypeMember; infer_instance)

end

end JsxLowering.Grammar
