import JsxLowering.Grammar.Statement
import JsxLowering.Proofs.Loading.Expression

/-!
# Statements do not mind how the text is loaded

The word `await` is asked for in loops, in declarations of resources and before labels.
-/

namespace JsxLowering.Grammar

section

variable {v : Variation} {rules : Rules} [IndifferentRules v rules]

/-! ### Declarations of types -/

instance {start : Nat} {declared : Bool} : Indifferent v (parseInterface rules start declared) := by
  unfold parseInterface
  infer_instance

instance {start : Nat} {declared : Bool} : Indifferent v (parseTypeAlias rules start declared) := by
  unfold parseTypeAlias
  infer_instance

instance : Indifferent v (parseEnumMember rules) := by unfold parseEnumMember; infer_instance

instance {start : Nat} {modifiers : List String} : Indifferent v (parseEnum rules start modifiers) := by
  unfold parseEnum
  infer_instance

instance : Indifferent v namespaceName := by
  unfold namespaceName
  refine .bind fun k => ?_
  split <;> infer_instance

instance {declared : Bool} : Parallel fun c => { c with ambient := declared || c.ambient } := ⟨fun _ b => ⟨b, rfl⟩⟩

instance {start : Nat} {declared : Bool} : Indifferent v (parseNamespace rules start declared) := by
  unfold parseNamespace
  infer_instance

/-! ### Imports and exports -/

instance : Indifferent v exportName := by
  unfold exportName
  refine .bind fun k => ?_
  split <;> infer_instance

instance : Indifferent v atExportName := by
  unfold atExportName
  refine .bind fun k => ?_
  split <;> infer_instance

instance : Indifferent v (importAttributes? rules) := by unfold importAttributes?; infer_instance

instance {first : Leaf} : Indifferent v (typeSpecifier first) := by unfold typeSpecifier; infer_instance

instance : Indifferent v parseSpecifier := by unfold parseSpecifier; infer_instance

instance : Indifferent v typedImportSpecifier := by unfold typedImportSpecifier; infer_instance

instance : Indifferent v importSpecifier := by unfold importSpecifier; infer_instance

instance : Indifferent v importSpecifiers := by unfold importSpecifiers; infer_instance

instance : Indifferent v importNamespace := by unfold importNamespace; infer_instance

instance : Indifferent v importClause := by unfold importClause; infer_instance

instance : Indifferent v importKind := by unfold importKind; infer_instance

instance : Indifferent v (sourceAndAttributes rules) := by unfold sourceAndAttributes; infer_instance

instance : Indifferent v moduleReference := by unfold moduleReference; infer_instance

instance : Indifferent v (parseImportDeclaration rules) := by
  unfold parseImportDeclaration
  refine .bind fun start => .bind fun _ => .bind fun k => ?_
  split <;> infer_instance

instance : Indifferent v atImportExpression := by unfold atImportExpression; infer_instance

instance : Indifferent v exportSpecifier := by unfold exportSpecifier; infer_instance

instance {tree : Tree} : Indifferent v (checkExported tree) := by
  unfold checkExported
  split
  · split <;> infer_instance
  · infer_instance

instance {start : Nat} {typeOnly : Bool} : Indifferent v (exportSpecifiers rules start typeOnly) := by
  unfold exportSpecifiers
  infer_instance

instance {start : Nat} {typeOnly : Bool} : Indifferent v (exportAll rules start typeOnly) := by
  unfold exportAll
  infer_instance

instance {decorators : Tree} : Indifferent v (defaultExport rules decorators) := by unfold defaultExport; infer_instance

instance : Indifferent v atDeclaration := by unfold atDeclaration; infer_instance

-- An instance is put together from those of all steps; these are more than the standard limit here.
set_option synthInstance.maxSize 512 in
instance {start : Nat} {decorators : Tree} : Indifferent v (parseExport rules start decorators) := by
  unfold parseExport
  refine .bind fun _ => .bind fun next => .read (fun c => .bind fun k => ?_) fun _ c b => rfl
  split <;> infer_instance

/-! ### Variables -/

instance {keyword : String} {tree : Tree} : Indifferent v (noteMissingValue keyword tree) := by
  unfold noteMissingValue
  split
  · split <;> infer_instance
  · infer_instance

instance : Indifferent v (parseDeclarator rules) := by unfold parseDeclarator; infer_instance

instance {check : Tree → Parser Unit} [∀ a, Indifferent v (check a)] :
    Indifferent v (checkedDeclarator rules check) := by
  unfold checkedDeclarator
  infer_instance

instance {check : Tree → Parser Unit} [∀ a, Indifferent v (check a)] :
    Indifferent v (parseDeclarators rules check) := by
  unfold parseDeclarators
  infer_instance

instance {alone : Bool} : Indifferent v (atLet alone) := by
  unfold atLet
  refine .bind fun k => ?_
  split
  · refine .bind fun next => ?_
    split
    · infer_instance
    · split
      · infer_instance
      · split <;> infer_instance
  · infer_instance

instance : Indifferent v atResource := by unfold atResource; infer_instance

instance {start : Nat} {declared : Bool} : Indifferent v (parseVariables rules start declared) := by
  unfold parseVariables
  infer_instance

instance : Indifferent v passResourceKeyword := by unfold passResourceKeyword; infer_instance

instance : Indifferent v (parseResources rules) := by unfold parseResources; infer_instance

/-! ### Blocks and branches -/

instance : Indifferent v (parseBlock rules) := by unfold parseBlock; infer_instance

instance : Indifferent v (parseTest rules) := by unfold parseTest; infer_instance

instance : Indifferent v (parseIf rules) := by unfold parseIf; infer_instance

set_option synthInstance.maxSize 512 in
instance : Indifferent v (parseCase rules) := by unfold parseCase; infer_instance

instance : Indifferent v (parseSwitch rules) := by unfold parseSwitch; infer_instance

instance : Indifferent v (parseCatch rules) := by unfold parseCatch; infer_instance

instance : Indifferent v (parseTry rules) := by unfold parseTry; infer_instance

/-! ### Loops -/

instance {start : Nat} {awaits : Bool} {left : Tree} : Indifferent v (eachRest rules start awaits left) := by
  unfold eachRest
  infer_instance

instance {closing : String} : Indifferent v (optionalExpression rules closing) := by
  unfold optionalExpression
  infer_instance

instance {start : Nat} {awaits : Bool} {init : Tree} : Indifferent v (forRest rules start awaits init) := by
  unfold forRest
  infer_instance

instance : Indifferent v atEach := by unfold atEach; infer_instance

instance {start inner : Nat} {awaits : Bool} {keyword : String} :
    Indifferent v (forVariables rules start inner awaits keyword) := by
  unfold forVariables
  infer_instance

instance : Indifferent v atLoopLet := by
  unfold atLoopLet
  refine .bind fun k => ?_
  split
  · refine .bind fun next => ?_
    split <;> infer_instance
  · infer_instance

instance {start : Nat} {awaits : Bool} : Indifferent v (forExpression rules start awaits) := by
  unfold forExpression
  infer_instance

set_option synthInstance.maxSize 512 in
instance : Indifferent v (parseFor rules) := by
  unfold parseFor
  refine .bind fun start => .bind fun _ => ?_
  cases v with
  | await =>
    refine .bindFalse atWord_await ?_
    rw [if_neg Bool.false_ne_true]
    infer_instance
  | script => infer_instance

instance : Indifferent v (parseWhile rules) := by unfold parseWhile; infer_instance

instance : Indifferent v (parseDo rules) := by unfold parseDo; infer_instance

/-! ### Jumps -/

instance : Indifferent v atStatementEnd := by unfold atStatementEnd; infer_instance

instance : Indifferent v labelKey := by unfold labelKey; infer_instance

instance {form : Form} : Indifferent v (parseJump form) := by unfold parseJump; infer_instance

instance : Indifferent v (parseReturn rules) := by unfold parseReturn; infer_instance

instance : Indifferent v (parseThrow rules) := by unfold parseThrow; infer_instance

/-! ### Other statements -/

instance : Indifferent v (parseExpressionStatement rules) := by unfold parseExpressionStatement; infer_instance

instance : Indifferent v (parseLabeled rules) := by unfold parseLabeled; infer_instance

instance : Indifferent v (parseWith rules) := by unfold parseWith; infer_instance

/-! ### Declarations -/

instance {start : Nat} {alone declared : Bool} : Indifferent v (functionDeclaration rules start alone declared) := by
  unfold functionDeclaration
  infer_instance

instance {start : Nat} {alone : Bool} {modifiers : List String} {decorators : Tree} :
    Indifferent v (classDeclaration rules start alone modifiers decorators) := by
  unfold classDeclaration
  infer_instance

instance {start : Nat} {alone : Bool} : Indifferent v (variableStatement rules start alone) := by
  unfold variableStatement
  infer_instance

instance {start : Nat} {declared : Bool} : Indifferent v (typeDeclaration? rules start declared) := by
  unfold typeDeclaration?
  refine .bind fun next => .bind fun k => ?_
  split <;> infer_instance

instance : Indifferent v (typedDeclaration? rules) := by
  unfold typedDeclaration?
  refine .read (fun c => ?_) fun _ c b => rfl
  split
  · infer_instance
  · refine .bind fun start => .bind fun next => .bind fun declaring => ?_
    split
    · refine .attempt (.bind fun _ => .bind fun found => ?_)
      split <;> infer_instance
    · infer_instance

instance {alone : Bool} : Indifferent v (decoratedStatement rules alone) := by unfold decoratedStatement; infer_instance

instance : Indifferent v atLabel := by
  refine .bindKind fun k hk => .read (fun c => inferInstance) fun hv c b => ?_
  simp only [hk hv, Bool.false_and, Bool.false_or]

instance {alone : Bool} : Indifferent v (plainStatement rules alone) := by unfold plainStatement; infer_instance

instance {alone : Bool} : Indifferent v (bareStatement rules alone) := by
  unfold bareStatement
  refine .bind fun start => .bind fun k => ?_
  split <;> infer_instance

instance {alone : Bool} : Indifferent v (parseStatement rules alone) := by
  unfold parseStatement
  refine .bind fun t => .bind fun declaration => ?_
  cases declaration <;> infer_instance

end

end JsxLowering.Grammar
