import JsxLowering.Grammar.Statement
import JsxLowering.Proofs.Layout.Module

/-!
# Statements keep elements in order
-/

namespace JsxLowering.Grammar

section

variable {rules : Rules} [OrderlyRules rules] {acc mid rest : List Elements}

/-! ### Variables -/

instance {keyword : String} {t : Tree} : Reads acc (noteMissingValue keyword t) acc := .alone (by
  unfold noteMissingValue
  split
  · split <;> infer_instance
  · infer_instance)

instance : Reads acc (parseDeclarator rules) acc := .alone (by unfold parseDeclarator; infer_instance)

instance {check : Tree → Parser Unit} [hcheck : ∀ t, Orderly [] (check t)] :
    Reads acc (checkedDeclarator rules check) acc := by
  have hcheck (t : Tree) (acc : List Elements) : Reads acc (check t) acc := .alone (hcheck t)
  exact .alone (by unfold checkedDeclarator; infer_instance)

instance {check : Tree → Parser Unit} [∀ t, Orderly [] (check t)] : Reads acc (parseDeclarators rules check) acc :=
  .alone (by unfold parseDeclarators; infer_instance)

instance {alone : Bool} : Reads acc (atLet alone) acc := .alone (by
  unfold atLet
  refine .bind fun k => ?_
  split
  · refine .bind fun next => ?_
    split
    · infer_instance
    · split
      · infer_instance
      · split <;> infer_instance
  · infer_instance)

instance : Reads acc atResource acc := .alone (by unfold atResource; infer_instance)

instance {start : Nat} {declared : Bool} : Reads acc (parseVariables rules start declared) acc :=
  .alone (by unfold parseVariables; infer_instance)

instance : Reads acc passResourceKeyword acc := .alone (by unfold passResourceKeyword; infer_instance)

instance : Reads acc (parseResources rules) acc := .alone (by unfold parseResources; infer_instance)

/-! ### Blocks and branches -/

instance : Reads acc (parseBlock rules) acc := .alone (by unfold parseBlock; infer_instance)

instance : Reads acc (parseTest rules) acc := .alone (by unfold parseTest; infer_instance)

instance : Reads acc (parseIf rules) acc := .alone (by unfold parseIf; infer_instance)

-- An instance is put together from those of all steps; these are more than the standard limit here.
set_option synthInstance.maxSize 256 in
instance : Reads acc (parseCase rules) acc := .alone (by unfold parseCase; infer_instance)

instance : Reads acc (parseSwitch rules) acc := .alone (by unfold parseSwitch; infer_instance)

instance : Reads acc (parseCatch rules) acc := .alone (by unfold parseCatch; infer_instance)

instance : Reads acc (parseTry rules) acc := .alone (by unfold parseTry; infer_instance)

/-! ### Loops -/

instance {start : Nat} {awaits : Bool} {left : Tree} [Takes (elements left) acc rest] :
    Reads acc (eachRest rules start awaits left) rest :=
  .after left (by unfold eachRest; infer_instance)

instance {closing : String} : Reads acc (optionalExpression rules closing) acc :=
  .alone (by unfold optionalExpression; infer_instance)

instance {start : Nat} {awaits : Bool} {init : Tree} [Takes (elements init) acc rest] :
    Reads acc (forRest rules start awaits init) rest :=
  .after init (by unfold forRest; infer_instance)

instance : Reads acc atEach acc := .alone (by unfold atEach; infer_instance)

instance {start inner : Nat} {awaits : Bool} {keyword : String} :
    Reads acc (forVariables rules start inner awaits keyword) acc :=
  .alone (by unfold forVariables; infer_instance)

instance : Reads acc atLoopLet acc := .alone (by
  unfold atLoopLet
  refine .bind fun k => ?_
  split
  · refine .bind fun next => ?_
    split <;> infer_instance
  · infer_instance)

instance {start : Nat} {awaits : Bool} : Reads acc (forExpression rules start awaits) acc :=
  .alone (by unfold forExpression; infer_instance)

instance : Reads acc (parseFor rules) acc := .alone (by unfold parseFor; infer_instance)

instance : Reads acc (parseWhile rules) acc := .alone (by unfold parseWhile; infer_instance)

instance : Reads acc (parseDo rules) acc := .alone (by unfold parseDo; infer_instance)

/-! ### Jumps and other statements -/

instance : Reads acc atStatementEnd acc := .alone (by unfold atStatementEnd; infer_instance)

instance : Reads acc labelKey acc := .alone (by unfold labelKey; infer_instance)

instance {form : Form} : Reads acc (parseJump form) acc := .alone (by unfold parseJump; infer_instance)

instance : Reads acc (parseReturn rules) acc := .alone (by unfold parseReturn; infer_instance)

instance : Reads acc (parseThrow rules) acc := .alone (by unfold parseThrow; infer_instance)

instance : Reads acc (parseExpressionStatement rules) acc := .alone (by unfold parseExpressionStatement; infer_instance)

instance : Reads acc (parseLabeled rules) acc := .alone (by unfold parseLabeled; infer_instance)

instance : Reads acc (parseWith rules) acc := .alone (by unfold parseWith; infer_instance)

/-! ### Declarations -/

instance {start : Nat} {alone declared : Bool} : Reads acc (functionDeclaration rules start alone declared) acc :=
  .alone (by
    unfold functionDeclaration
    refine .bind fun function => ?_
    split
    infer_instance)

instance {start : Nat} {alone : Bool} {modifiers : List String} {decorators : Tree}
    [Takes (elements decorators) acc rest] :
    Reads acc (classDeclaration rules start alone modifiers decorators) rest :=
  .after decorators (by unfold classDeclaration; infer_instance)

instance {start : Nat} {alone : Bool} : Reads acc (variableStatement rules start alone) acc :=
  .alone (by unfold variableStatement; infer_instance)

instance {start : Nat} {declared : Bool} : Reads acc (typeDeclaration? rules start declared) acc :=
  .alone (by
    unfold typeDeclaration?
    refine .bind fun next => .bind fun k => ?_
    split <;> infer_instance)

instance : Reads acc (typedDeclaration? rules) acc := .alone (by
  have hdeclared (start : Nat) : Orderly [] (do
      advance
      match ← typeDeclaration? rules start true with
      | some tree => return tree
      | none => unexpected) :=
    .bind fun _ => .bindOption inferInstance inferInstance
  unfold typedDeclaration?
  infer_instance)

instance {alone : Bool} : Reads acc (decoratedStatement rules alone) acc :=
  .alone (by unfold decoratedStatement; infer_instance)

instance : Reads acc atLabel acc := .alone (by unfold atLabel; infer_instance)

instance {alone : Bool} : Reads acc (plainStatement rules alone) acc :=
  .alone (by unfold plainStatement; infer_instance)

instance {alone : Bool} : Reads acc (bareStatement rules alone) acc := .alone (by
  unfold bareStatement
  refine .bind fun start => .bind fun k => ?_
  split <;> infer_instance)

private theorem elements_markDeclared (t : Tree) : elements (markDeclared t) = elements t := by
  unfold markDeclared
  split <;> simp [elements_markEffectless]

private theorem elements_markStatement (t : Tree) : elements (markStatement t) = elements t := by
  unfold markStatement
  split <;> simp [elements_markDeclared]

instance {t : Tree} [h : Takes (elements t) acc rest] : Takes (elements (markStatement t)) acc rest := by
  rwa [elements_markStatement]

instance {alone : Bool} : Reads acc (parseStatement rules alone) acc := .alone (by
  unfold parseStatement
  exact .bind fun t => .bindOption inferInstance inferInstance)

end

end JsxLowering.Grammar
