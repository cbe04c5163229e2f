import JsxLowering.Grammar.Class
import JsxLowering.Proofs.Loading.Type

/-!
# Functions and classes do not mind how the text is loaded

A function sets for itself whether `await` is an operator in it, or keeps what holds around it; either way the
conditions of two runs still differ in nothing else.
-/

namespace JsxLowering.Grammar

section

variable {v : Variation} {rules : Rules} [IndifferentRules v rules]

instance {item : Parser Tree} [Indifferent v item] : Indifferent v (elementOrHole item) := by
  unfold elementOrHole
  infer_instance

instance {start : Nat} {target : Tree} : Indifferent v (withDefault rules start target) := by
  unfold withDefault
  infer_instance

instance : Indifferent v (defaultedTarget rules) := by unfold defaultedTarget; infer_instance

instance : Indifferent v (noteRestDefault rules) := by unfold noteRestDefault; infer_instance

instance : Indifferent v (restTarget rules) := by unfold restTarget; infer_instance

instance : Indifferent v (patternProperty rules) := by
  unfold patternProperty
  refine .bind fun isRest => ?_
  split
  · infer_instance
  · refine .bind fun start => .bind fun k => .bind fun (key, computed) => .bind fun colon => ?_
    split <;> infer_instance

instance : Indifferent v (parseTarget rules) := by
  unfold parseTarget
  refine .bind fun start => .bind fun k => ?_
  split <;> infer_instance

instance {mark : String} : Indifferent v (typedTarget rules mark) := by unfold typedTarget; infer_instance

/-! ### Targets of assignments -/

instance {tree : Tree} : Indifferent v (takeTarget tree) := by
  unfold takeTarget
  split <;> infer_instance

instance {tree : Tree} : Indifferent v (takeSimpleTarget tree) := by
  unfold takeSimpleTarget
  split <;> infer_instance

/-! ### Parameters -/

instance : Parallel fun c => { c with decorating := true } := ⟨fun _ b => ⟨b, rfl⟩⟩

instance : Indifferent v (parseDecorators rules) := by unfold parseDecorators; infer_instance

instance : Indifferent v parameterModifiers := by unfold parameterModifiers; infer_instance

-- An instance is put together from those of all steps; these are more than the standard limit here.
set_option synthInstance.maxSize 512 in
instance : Indifferent v (restParameter rules) := by unfold restParameter; infer_instance

instance : Indifferent v (parseParameter rules) := by unfold parseParameter; infer_instance

instance : Indifferent v (parseParameters rules) := by unfold parseParameters; infer_instance

/-! ### Bodies -/

instance {done : Parser Bool} [Indifferent v done] : Indifferent v (parseStatements rules done) := by
  refine .loop fun (items, opening) => .bind fun finished => ?_
  split
  · infer_instance
  · refine .get (fun r => .bind fun statement => ?_) fun r b => rfl
    split <;> infer_instance

instance : Parallel fun c => { c with inFunction := true, arrowResult := true } := ⟨fun _ b => ⟨b, rfl⟩⟩

instance : Indifferent v (parseFunctionBody rules) := by unfold parseFunctionBody; infer_instance

instance : Indifferent v (optionalBody rules) := by unfold optionalBody; infer_instance

/-! ### Functions with a keyword -/

instance {async generator : Bool} : Parallel fun c => { c with
    inOperator := true, arrowResult := true, awaitOperator := async, yieldOperator := generator } :=
  ⟨fun _ _ => ⟨async, rfl⟩⟩

instance {async generator : Bool} : Parallel fun c => { c with awaitOperator := async, yieldOperator := generator } :=
  ⟨fun _ _ => ⟨async, rfl⟩⟩

instance {async generator : Bool} : Indifferent v (functionTail rules async generator) := by
  unfold functionTail
  infer_instance

instance {role : Role} {async generator named : Bool} : Indifferent v (functionName role async generator named) := by
  unfold functionName
  refine .bind fun k => ?_
  split
  · split <;> infer_instance
  · infer_instance

instance {start : Nat} {role : Role} {named declared : Bool} :
    Indifferent v (parseFunction rules start role named declared) := by
  unfold parseFunction
  infer_instance

instance : Indifferent v atFunction := by unfold atFunction; infer_instance

instance {async generator : Bool} : Indifferent v (methodFunction rules async generator) := by
  unfold methodFunction
  infer_instance

instance {kind : MethodKind} {tree : Tree} : Indifferent v (checkAccessor kind tree) := by
  unfold checkAccessor
  split
  · split <;> infer_instance
  · infer_instance

/-! ### Arrow functions -/

instance {async : Bool} : Parallel fun c => { c with awaitOperator := c.awaitOperator || async } :=
  ⟨fun _ b => ⟨b || async, rfl⟩⟩

instance {async : Bool} : Indifferent v (arrowHead rules async) := by unfold arrowHead; infer_instance

instance {async : Bool} : Indifferent v (bareArrowHead async) := by unfold bareArrowHead; infer_instance

instance {async : Bool} : Indifferent v (arrowBody rules async) := by unfold arrowBody; infer_instance

instance : Indifferent v parenChance := by
  unfold parenChance
  refine .bind fun _ => .bind fun second => ?_
  split <;> infer_instance

set_option synthInstance.maxSize 512 in
instance : Indifferent v angleChance := by unfold angleChance; infer_instance

instance : Indifferent v arrowChance := by unfold arrowChance; infer_instance

instance : Indifferent v atAsyncBareArrow := by unfold atAsyncBareArrow; infer_instance

instance : Indifferent v atBareArrow := by
  refine .bindKind fun k hk => .read (fun c => inferInstance) fun hv c b => ?_
  simp only [hk hv, Bool.false_and]

instance {start : Nat} {async : Bool} {head : List Tree} : Indifferent v (arrowRest rules start async head) := by
  unfold arrowRest
  infer_instance

instance : Indifferent v (parenArrow rules) := by unfold parenArrow; infer_instance

instance : Indifferent v (parenArrow? rules) := by
  refine .orStay (.bind fun start => .bind fun found => ?_)
  split <;> infer_instance

instance : Parallel fun c => { c with arrowResult := true } := ⟨fun _ b => ⟨b, rfl⟩⟩

instance : Indifferent v (arrowFunction? rules) := by
  unfold arrowFunction?
  refine .bind fun start => .bind fun chance => ?_
  split <;> infer_instance

/-! ### Members of a class -/

instance : Indifferent v atStaticBlock := by unfold atStaticBlock; infer_instance

instance : Indifferent v memberModifiers := by unfold memberModifiers; infer_instance

instance {modifiers : List String} {key : Tree} {computed : Bool} :
    Indifferent v (checkMemberName modifiers key computed) := by
  unfold checkMemberName
  split <;> infer_instance

instance : Parallel fun c => { c with
    inOperator := true, awaitOperator := false, yieldOperator := false, arrowResult := true } :=
  ⟨fun _ _ => ⟨false, rfl⟩⟩

instance {start : Nat} {modifiers : List String} {decorators key : Tree} {computed : Bool} {mark : String} :
    Indifferent v (fieldRest rules start modifiers decorators key computed mark) := by
  unfold fieldRest
  infer_instance

instance : Indifferent v memberMark := by unfold memberMark; infer_instance

instance {start : Nat} {decorators : Tree} {modifiers : List String} {kind : MethodKind} :
    Indifferent v (classAccessor rules start decorators modifiers kind) := by
  unfold classAccessor
  infer_instance

set_option synthInstance.maxSize 512 in
instance {start : Nat} {decorators : Tree} {modifiers : List String} :
    Indifferent v (methodOrField rules start decorators modifiers) := by
  unfold methodOrField
  infer_instance

instance : Parallel fun c => { c with awaitOperator := true, yieldOperator := false, inFunction := false } :=
  ⟨fun _ _ => ⟨true, rfl⟩⟩

instance : Indifferent v (parseMember rules) := by unfold parseMember; infer_instance

/-! ### Classes -/

instance : Indifferent v (parseClassBody rules) := by unfold parseClassBody; infer_instance

instance : Indifferent v (parseHeritage rules) := by unfold parseHeritage; infer_instance

instance : Indifferent v (heritageList rules) := by unfold heritageList; infer_instance

instance : Indifferent v (parseSuperclass rules) := by
  unfold parseSuperclass
  refine .bind fun first => .bind fun others => ?_
  split <;> infer_instance

instance {found : Heritage} : Indifferent v (heritageClause rules found) := by unfold heritageClause; infer_instance

instance : Indifferent v (parseHeritageClauses rules) := by unfold parseHeritageClauses; infer_instance

instance : Indifferent v atClassName := by unfold atClassName; infer_instance

instance {start : Nat} {role : Role} {modifiers : List String} {decorators : Tree} :
    Indifferent v (parseClass rules start role modifiers decorators) := by
  unfold parseClass
  infer_instance

end

end JsxLowering.Grammar
