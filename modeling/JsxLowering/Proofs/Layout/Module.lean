import JsxLowering.Grammar.Module
import JsxLowering.Proofs.Layout.Expression

/-!
# Declarations of types, imports and exports keep elements in order

A specifier may take and give the same name, which then stands twice in the tree.  That does no harm because names are
leaves.
-/

namespace JsxLowering.Grammar

section

variable {rules : Rules} [OrderlyRules rules] {acc mid rest : List Elements}

/-! ### Declarations of types -/

instance {start : Nat} {declared : Bool} : Reads acc (parseInterface rules start declared) acc :=
  .alone (by unfold parseInterface; infer_instance)

instance {start : Nat} {declared : Bool} : Reads acc (parseTypeAlias rules start declared) acc :=
  .alone (by unfold parseTypeAlias; infer_instance)

instance : Reads acc (parseEnumMember rules) acc := .alone (by unfold parseEnumMember; infer_instance)

instance {start : Nat} {modifiers : List String} : Reads acc (parseEnum rules start modifiers) acc :=
  .alone (by unfold parseEnum; infer_instance)

instance : Reads acc namespaceName acc := .alone (by
  unfold namespaceName
  refine .bind fun k => ?_
  split <;> infer_instance)

-- An instance is put together from those of all steps; these are more than the standard limit here.
set_option synthInstance.maxSize 256 in
instance {start : Nat} {declared : Bool} : Reads acc (parseNamespace rules start declared) acc :=
  .alone (by unfold parseNamespace; infer_instance)

/-! ### Specifiers -/

instance : Reads acc exportName acc := .alone (by
  unfold exportName
  refine .bind fun k => ?_
  split <;> infer_instance)

instance : Reads acc atExportName acc := .alone (by
  unfold atExportName
  refine .bind fun k => ?_
  split <;> infer_instance)

instance : Reads acc (importAttributes? rules) acc := .alone (by unfold importAttributes?; infer_instance)

instance {first : Leaf} : Reads acc (typeSpecifier first) acc := .alone (by unfold typeSpecifier; infer_instance)

instance : Reads acc parseSpecifier acc := .alone (by unfold parseSpecifier; infer_instance)

instance : Reads acc typedImportSpecifier acc := .alone (by unfold typedImportSpecifier; infer_instance)

instance : Reads acc importSpecifier acc := .alone (by unfold importSpecifier; infer_instance)

instance : Reads acc importSpecifiers acc := .alone (by unfold importSpecifiers; infer_instance)

instance : Reads acc importNamespace acc := .alone (by unfold importNamespace; infer_instance)

set_option synthInstance.maxSize 256 in
instance : Reads acc importClause acc := .alone (by unfold importClause; infer_instance)

/-! ### Imports -/

instance : Reads acc importKind acc := .alone (by unfold importKind; infer_instance)

instance : Reads acc (sourceAndAttributes rules) acc := .alone (by unfold sourceAndAttributes; infer_instance)

instance : Reads acc moduleReference acc := .alone (by unfold moduleReference; infer_instance)

instance : Reads acc (parseImportDeclaration rules) acc := .alone (by
  unfold parseImportDeclaration
  refine .bind fun start => .bind fun _ => .bind fun k => ?_
  split <;> infer_instance)

instance : Reads acc atImportExpression acc := .alone (by unfold atImportExpression; infer_instance)

/-! ### Exports -/

instance : Reads acc exportSpecifier acc := .alone (by unfold exportSpecifier; infer_instance)

instance {t : Tree} : Reads acc (checkExported t) acc := .alone (by
  unfold checkExported
  split
  · split <;> infer_instance
  · infer_instance)

set_option synthInstance.maxSize 256 in
instance {start : Nat} {typeOnly : Bool} : Reads acc (exportSpecifiers rules start typeOnly) acc :=
  .alone (by unfold exportSpecifiers; infer_instance)

instance {start : Nat} {typeOnly : Bool} : Reads acc (exportAll rules start typeOnly) acc :=
  .alone (by unfold exportAll; infer_instance)

instance {decorators : Tree} [Takes (elements decorators) acc rest] : Reads acc (defaultExport rules decorators) rest :=
  .after decorators (by unfold defaultExport; infer_instance)

instance : Reads acc atDeclaration acc := .alone (by unfold atDeclaration; infer_instance)

private theorem elements_withDecorators_sublist (decorators declaration : Tree) :
    (elements (withDecorators decorators declaration)).Sublist (elements decorators ++ elements declaration) := by
  unfold withDecorators
  split
  next role modifiers span own parts =>
    split
    · exact List.sublist_append_right _ _
    · simp only [elements_node, elements_cons]
      exact (List.sublist_append_right _ _).append_left _
  · exact List.sublist_append_right _ _

instance {decorators declaration : Tree} [hdeclaration : Takes (elements declaration) acc mid]
    [hdecorators : Takes (elements decorators) mid rest] :
    Takes (elements (withDecorators decorators declaration)) acc rest :=
  (hdeclaration.append hdecorators).of_sublist (elements_withDecorators_sublist decorators declaration)

instance {start : Nat} {decorators : Tree} [Takes (elements decorators) acc rest] :
    Reads acc (parseExport rules start decorators) rest :=
  .after decorators (by
    unfold parseExport
    refine .bind fun _ => .bind fun next => .bind fun c => .bind fun k => ?_
    split <;> infer_instance)

end

end JsxLowering.Grammar
