import JsxLowering.Grammar.Class
import JsxLowering.Proofs.Layout.Type

/-!
# Targets, functions and classes keep elements in order

An expression that turns out to be a target keeps its elements (`elements_asTarget`).  The clauses between the name and the
body of a class may come in any order, but a wrong order is noted as a fault, and programs with faults do not count.
-/

namespace JsxLowering.Grammar

/-! ### Expressions as targets -/

theorem elements_withoutParens (t : Tree) : elements t.withoutParens = elements t := by
  fun_induction Tree.withoutParens t with
  | case1 span inner ih => simp [ih]
  | case2 t => rfl

private theorem elements_simpleTarget {t target : Tree} (h : simpleTarget t = .ok target) :
    elements target = elements t := by
  unfold simpleTarget at h
  dsimp only at h
  split at h
  · cases h
    exact elements_withoutParens t
  · cases h

/-- What an expression becomes as a target, or inside one, keeps its elements. -/
private def KeptAsTarget (t : Tree) : Prop :=
  (∀ target, asTarget t = .ok target → elements target = elements t) ∧
    ∀ target, asInnerTarget t = .ok target → elements target = elements t

private theorem except_bind_ok {α β : Type} {x : Except Fault α} {f : α → Except Fault β} {b : β}
    (h : x >>= f = .ok b) : ∃ a, x = .ok a ∧ f a = .ok b := by
  cases x with
  | error fault => cases h
  | ok a => exact ⟨a, rfl, h⟩

-- A spread gives its argument, so what is known of the items has to reach their parts.
private theorem elements_asTargets {items targets : List Tree}
    (hitems : ∀ item ∈ items, KeptAsTarget item ∧ ∀ part ∈ item.parts, KeptAsTarget part)
    (h : asTargets items = .ok targets) : elements targets = elements items := by
  induction items generalizing targets with
  | nil =>
    cases h
    rfl
  | cons item rest ih =>
    obtain ⟨hitem, hrest⟩ := List.forall_mem_cons.1 hitems
    unfold asTargets at h
    split at h
    next heq => cases heq
    next span argument heq =>
      obtain ⟨rfl, rfl⟩ := List.cons.inj heq
      obtain ⟨target, htarget, hok⟩ := except_bind_ok h
      cases hok
      have hargument := (hitem.2 argument (by simp [Tree.parts])).1 target htarget
      simp [hargument]
    next => cases h
    next heq =>
      obtain ⟨rfl, rfl⟩ := List.cons.inj heq
      obtain ⟨target, htarget, h⟩ := except_bind_ok h
      obtain ⟨others, hothers, hok⟩ := except_bind_ok h
      cases hok
      simp [hitem.1.2 target htarget, ih hrest hothers]

private theorem keptAsTarget (t : Tree) : KeptAsTarget t ∧ ∀ part ∈ t.parts, KeptAsTarget part := by
  induction t using Tree.piecewise with
  | node form span parts ih =>
    have hlist {form form' : Form} {span : Span} {target : Tree}
        (h : (do return .node form span (← asTargets parts)) = Except.ok target) :
        elements target = elements (Tree.node form' span parts) := by
      obtain ⟨targets, htargets, hok⟩ := except_bind_ok h
      cases hok
      simp [elements_asTargets ih htargets]
    refine ⟨⟨fun target h => ?_, fun target h => ?_⟩, fun part hpart => (ih part hpart).1⟩
    · unfold asTarget at h
      split at h
      next heq =>
        cases heq
        exact hlist h
      next heq =>
        cases heq
        exact hlist h
      · exact elements_simpleTarget h
    · unfold asInnerTarget at h
      split at h
      next heq =>
        cases heq
        exact hlist h
      next heq =>
        cases heq
        exact hlist h
      next key value heq =>
        cases heq
        obtain ⟨target, htarget, hok⟩ := except_bind_ok h
        cases hok
        simp [(ih value (by simp)).1.2 target htarget]
      next heq =>
        cases heq
        split at h
        · cases h
          simp
        · cases h
      next heq =>
        cases heq
        cases h
        simp
      next heq =>
        cases heq
        cases h
        simp
      · exact elements_simpleTarget h
  | markup m ih =>
    refine ⟨⟨fun target h => elements_simpleTarget ?_, fun target h => elements_simpleTarget ?_⟩, by simp [Tree.parts]⟩
    · simpa [asTarget] using h
    · simpa [asInnerTarget] using h

theorem elements_asTarget {t target : Tree} (h : asTarget t = .ok target) : elements target = elements t :=
  (keptAsTarget t).1.1 target h

section

variable {rules : Rules} [OrderlyRules rules] {acc mid rest : List Elements}

instance {item : Parser Tree} [hitem : Orderly [] item] : Reads acc (elementOrHole item) acc := by
  have hitem (acc : List Elements) : Reads acc item acc := .alone hitem
  exact .alone (by unfold elementOrHole; infer_instance)

instance {start : Nat} {target : Tree} [Takes (elements target) acc rest] :
    Reads acc (withDefault rules start target) rest :=
  .after target (by unfold withDefault; infer_instance)

instance : Reads acc (defaultedTarget rules) acc := .alone (by unfold defaultedTarget; infer_instance)

instance : Reads acc (noteRestDefault rules) acc := .alone (by unfold noteRestDefault; infer_instance)

instance : Reads acc (restTarget rules) acc := .alone (by unfold restTarget; infer_instance)

instance : Reads acc (patternProperty rules) acc := .alone (by
  unfold patternProperty
  refine .bind fun isRest => ?_
  split
  · infer_instance
  · refine .bind fun start => .bind fun k => .bindPair fun key computed => .bind fun colon => ?_
    split <;> infer_instance)

instance : Reads acc (parseTarget rules) acc := .alone (by
  unfold parseTarget
  refine .bind fun start => .bind fun k => ?_
  split <;> infer_instance)

instance {mark : String} : Reads acc (typedTarget rules mark) acc := .alone (by unfold typedTarget; infer_instance)

instance {t : Tree} [Takes (elements t) acc rest] : Reads acc (takeTarget t) rest := .after t (by
  unfold takeTarget
  split
  · infer_instance
  next target htarget =>
    rw [← elements_asTarget htarget]
    infer_instance)

instance {t : Tree} [Takes (elements t) acc rest] : Reads acc (takeSimpleTarget t) rest := .after t (by
  unfold takeSimpleTarget
  split
  · infer_instance
  next target htarget =>
    rw [← elements_simpleTarget htarget]
    infer_instance)

/-! ### Parameters -/

instance : Reads acc (parseDecorators rules) acc := .alone (by unfold parseDecorators; infer_instance)

instance {start : Nat} : Takes (elements (noDecorators start)) acc acc := .none (elements_node _ _ _)

instance : Reads acc parameterModifiers acc := .alone (by unfold parameterModifiers; infer_instance)

-- An instance is put together from those of all steps; these are more than the standard limit here.
set_option synthInstance.maxSize 256 in
instance : Reads acc (restParameter rules) acc := .alone (by unfold restParameter; infer_instance)

instance : Reads acc (parseParameter rules) acc := .alone (by unfold parseParameter; infer_instance)

instance : Reads acc (parseParameters rules) acc := .alone (by unfold parseParameters; infer_instance)

/-! ### Bodies -/

private theorem elements_directive? {text : List Char} {t directive : Tree} (h : directive? text t = some directive) :
    elements directive = [] := by
  unfold directive? at h
  split at h
  · cases h
    simp
  · cases h

instance {done : Parser Bool} [hdone : Orderly [] done] : Reads acc (parseStatements rules done) acc := by
  refine .alone (.loop (fun s => reversed s.1) fun s => ?_)
  obtain ⟨items, opening⟩ := s
  refine (Reads.alone hdone).keeps.bind fun finished => ?_
  cases finished with
  | true => exact .pure (by simp)
  | false =>
    refine Reads.keeps.bind fun r => Reads.keeps.bind fun statement => ?_
    dsimp only
    split
    next directive hdirective =>
      split at hdirective
      · exact .pure (by simp [elements_directive? hdirective])
      · cases hdirective
    · exact .pure (by simp)

instance : Reads acc (parseFunctionBody rules) acc := .alone (by unfold parseFunctionBody; infer_instance)

instance : Reads acc (optionalBody rules) acc := .alone (by unfold optionalBody; infer_instance)

/-! ### Functions with a keyword -/

instance {async generator : Bool} : Reads acc (functionTail rules async generator) acc :=
  .alone (by unfold functionTail; infer_instance)

instance {role : Role} {async generator named : Bool} : Reads acc (functionName role async generator named) acc :=
  .alone (by
    unfold functionName
    refine .bind fun k => ?_
    split
    · split <;> infer_instance
    · infer_instance)

instance {start : Nat} {role : Role} {named declared : Bool} :
    Reads acc (parseFunction rules start role named declared) acc :=
  .alone (by unfold parseFunction; infer_instance)

instance : Reads acc atFunction acc := .alone (by unfold atFunction; infer_instance)

instance {async generator : Bool} : Reads acc (methodFunction rules async generator) acc :=
  .alone (by unfold methodFunction; infer_instance)

instance {kind : MethodKind} {function : Tree} : Reads acc (checkAccessor kind function) acc := .alone (by
  unfold checkAccessor
  split
  · split <;> infer_instance
  · infer_instance)

/-! ### Arrow functions -/

instance {async : Bool} : Reads acc (arrowHead rules async) acc := .alone (by unfold arrowHead; infer_instance)

instance {async : Bool} : Reads acc (bareArrowHead async) acc := .alone (by unfold bareArrowHead; infer_instance)

instance {async : Bool} : Reads acc (arrowBody rules async) acc := .alone (by unfold arrowBody; infer_instance)

instance : Reads acc arrowChance acc := .alone (by unfold arrowChance; infer_instance)

instance : Reads acc atAsyncBareArrow acc := .alone (by unfold atAsyncBareArrow; infer_instance)

instance : Reads acc atBareArrow acc := .alone (by unfold atBareArrow; infer_instance)

instance {start : Nat} {async : Bool} {head : List Tree} [Takes (elements head) acc rest] :
    Reads acc (arrowRest rules start async head) rest :=
  .after head (by unfold arrowRest; infer_instance)

instance : Reads acc (parenArrow rules) acc := .alone (by unfold parenArrow; infer_instance)

instance : Reads acc (parenArrow? rules) acc :=
  .orStay (.bind fun _ => .bindOption inferInstance fun _ => .pair inferInstance)

instance : Reads acc (arrowFunction? rules) acc := .alone (by
  unfold arrowFunction?
  refine .bind fun start => .bind fun chance => ?_
  split <;> infer_instance)

/-! ### Members of a class -/

instance : Reads acc atStaticBlock acc := .alone (by unfold atStaticBlock; infer_instance)

instance : Reads acc memberModifiers acc := .alone (by unfold memberModifiers; infer_instance)

instance {modifiers : List String} {key : Tree} {computed : Bool} :
    Reads acc (checkMemberName modifiers key computed) acc := .alone (by
  unfold checkMemberName
  split <;> infer_instance)

instance {start : Nat} {modifiers : List String} {decorators key : Tree} {computed : Bool} {mark : String}
    [Takes (elements key) acc mid] [Takes (elements decorators) mid rest] :
    Reads acc (fieldRest rules start modifiers decorators key computed mark) rest :=
  .after₂ decorators key (by unfold fieldRest; infer_instance)

instance : Reads acc memberMark acc := .alone (by unfold memberMark; infer_instance)

instance {start : Nat} {decorators : Tree} {modifiers : List String} {kind : MethodKind}
    [Takes (elements decorators) acc rest] : Reads acc (classAccessor rules start decorators modifiers kind) rest :=
  .after decorators (by unfold classAccessor; infer_instance)

set_option synthInstance.maxSize 256 in
instance {start : Nat} {decorators : Tree} {modifiers : List String} [Takes (elements decorators) acc rest] :
    Reads acc (methodOrField rules start decorators modifiers) rest :=
  .after decorators (by unfold methodOrField; infer_instance)

instance : Reads acc (parseMember rules) acc := .alone (by unfold parseMember; infer_instance)

/-! ### Classes -/

instance {items : List (Option Tree)} [h : Takes (elements items) acc rest] :
    Takes (elements (items.filterMap id)) acc rest := by
  have hsame : elements (items.filterMap id) = elements items := by
    induction items with
    | nil => rfl
    | cons item items ih => cases item <;> simp_all
  rwa [hsame]

instance : Reads acc (parseClassBody rules) acc := .alone (by unfold parseClassBody; infer_instance)

instance : Reads acc (parseHeritage rules) acc := .alone (by unfold parseHeritage; infer_instance)

instance : Reads acc (heritageList rules) acc := .alone (by unfold heritageList; infer_instance)

instance : Reads acc (parseSuperclass rules) acc := .alone (by
  unfold parseSuperclass
  refine .bind fun first => .bind fun others => ?_
  split
  · exact ⟨.pure (by simp)⟩
  · infer_instance)

instance : HasElements Heritage := ⟨fun heritage => elements (heritage.superclass, heritage.implemented)⟩

private theorem elements_heritage (superclass : Option (Tree × Tree)) (implemented : Option Tree) :
    elements (Heritage.mk superclass implemented) = elements superclass ++ elements implemented := rfl

instance {superclass : Option (Tree × Tree)} {implemented : Option Tree}
    [himplemented : Takes (elements implemented) acc mid] [hsuperclass : Takes (elements superclass) mid rest] :
    Takes (elements (Heritage.mk superclass implemented)) acc rest :=
  himplemented.append hsuperclass

private theorem elements_heritageParts (heritage : Heritage) : elements heritage.parts = elements heritage := by
  obtain ⟨superclass, implemented⟩ := heritage
  rcases superclass with _ | ⟨superclass, arguments⟩ <;> cases implemented <;>
    simp [Heritage.parts, elements_heritage]

instance {heritage : Heritage} [h : Takes (elements heritage) acc rest] :
    Takes (elements heritage.parts) acc rest := by
  rwa [elements_heritageParts]

-- A clause that comes again, or in the wrong order, is noted; in all other cases what was found before comes first.
instance {found : Heritage} : Orderly [elements found] (heritageClause rules found) := by
  obtain ⟨superclass, implemented⟩ := found
  have hparts : Orderly [elements implemented, elements superclass]
      (heritageClause rules ⟨superclass, implemented⟩) := by
    unfold heritageClause
    refine .bind fun extending => ?_
    split
    · have hlater : KeepsOrder (fun _ : Heritage ⊕ Heritage => []) [] (do
          advance
          return .inl ⟨some (← parseSuperclass rules), implemented⟩) [] :=
        Reads.keeps.bind fun _ => Reads.keeps.bind fun _ => .pure (by simp)
      cases superclass with
      | some superclass => exact ⟨hlater.after_note⟩
      | none =>
        cases implemented with
        | some implemented => exact ⟨hlater.after_note⟩
        | none => infer_instance
    · infer_instance
  exact .pair hparts

instance : Reads acc (parseHeritageClauses rules) acc := .alone (by unfold parseHeritageClauses; infer_instance)

instance : Reads acc atClassName acc := .alone (by unfold atClassName; infer_instance)

instance {start : Nat} {role : Role} {modifiers : List String} {decorators : Tree}
    [Takes (elements decorators) acc rest] : Reads acc (parseClass rules start role modifiers decorators) rest :=
  .after decorators (by unfold parseClass; infer_instance)

end

end JsxLowering.Grammar
