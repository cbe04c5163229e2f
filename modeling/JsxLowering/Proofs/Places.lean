import JsxLowering.Proofs.InPlace

/-!
# Places of parts

A tree inside a program is found by steps: to a part of a node, or from markup to what stands in one of its attributes
or children.  Every such place has an image in the lowered program (`Tree.image`): a child, for instance, becomes the
argument that follows the callee, the tag, the attributes and what remains of the children before it.  At the image
stands the lowering of what stood at the place, under the receiver of that place (`at?_image_lowerInPlace`).

So the pass classifies an element, however deep in markup it stands, by the receiver at its own place
(`lowerProgram_eq_lowerInPlace`).
-/

namespace JsxLowering

/-! ### Steps -/

/-- A step from a tree to a tree inside it. -/
inductive Step where
  /-- To a part of a node. -/
  | part (index : Nat)
  /-- To what stands between the braces of an attribute, or to markup that is its value. -/
  | ofAttribute (index : Nat)
  /-- To what stands between the braces of a child, or to markup that is the child. -/
  | ofChild (index : Nat)
  deriving DecidableEq, Repr

/-- The tree in an attribute, if there is one. -/
def Attribute.content? : Attribute → Option Tree
  | .named _ _ (.expression content) => some content
  | .named _ _ (.markup m) => some (.markup m)
  | .named _ _ _ => none
  | .spread _ argument => some argument

/-- The tree in a child, if there is one. -/
def Child.content? : Child → Option Tree
  | .expression content => some content
  | .spread _ argument => some argument
  | .markup m => some (.markup m)
  | _ => none

/-- The children of an element or a fragment. -/
def Markup.children : Markup → List Child
  | .element _ _ _ children => children
  | .fragment _ children => children

/-- The attributes of an element; a fragment has none. -/
def Markup.attributes : Markup → List Attribute
  | .element _ _ attributes _ => attributes
  | .fragment _ _ => []

/-- The tree that a step leads to. -/
def Tree.follow? : Tree → Step → Option Tree
  | .node _ _ parts, .part index => parts[index]?
  | .markup m, .ofAttribute index => m.attributes[index]?.bind Attribute.content?
  | .markup m, .ofChild index => m.children[index]?.bind Child.content?
  | _, _ => none

/-- The tree that steps lead to. -/
def Tree.at? : Tree → List Step → Option Tree
  | t, [] => some t
  | t, step :: rest => (t.follow? step).bind (·.at? rest)

/-- The span and the name of the element that a tree is, if it is one. -/
def Tree.element? : Tree → Option (Span × ElementName)
  | .markup (.element span name _ _) => some (span, name)
  | _ => none

/-- Whether anything remains of a child. -/
def Child.remains : Child → Bool
  | .text _ raw => !(childText raw).isEmpty
  | .empty => false
  | _ => true

/-- Where the tree in an attribute stands in its property. -/
def Attribute.image : Attribute → List Step
  | .named _ _ _ => [.part 1]
  | .spread _ _ => [.part 0]

/-- Where the tree in a child stands in what the child becomes. -/
def Child.image : Child → List Step
  | .spread _ _ => [.part 0]
  | _ => []

/-- Before the children of an element stand the callee, the tag and the attributes. -/
def Markup.firstChild : Markup → Nat
  | .element _ _ _ _ => 3
  | .fragment _ _ => 0

/-- Where the tree that a step leads to stands in the lowered tree. -/
def Tree.stepImage : Tree → Step → List Step
  | .markup m, .ofAttribute index =>
    .part 2 :: .part index :: (m.attributes[index]?.map Attribute.image).getD []
  | .markup m, .ofChild index =>
    .part ((m.children.take index).countP Child.remains + m.firstChild) ::
      (m.children[index]?.map Child.image).getD []
  | _, step => [step]

/-- Where the tree that steps lead to stands in the lowered tree. -/
def Tree.image : Tree → List Step → List Step
  | _, [] => []
  | t, step :: rest => t.stepImage step ++ ((t.follow? step).map (·.image rest)).getD []

/-! ### Ancestors of places -/

/-- What is around the tree in an attribute, given what is around the attribute. -/
def Attribute.inside (ancestors : List Ancestor) : Attribute → List Ancestor
  | .named _ _ (.expression _) => .braces :: .named :: ancestors
  | .named _ _ _ => .named :: ancestors
  | .spread _ _ => .braces :: ancestors

/-- What is around the tree in a child, given what is around the child. -/
def Child.inside (ancestors : List Ancestor) : Child → List Ancestor
  | .expression _ => .braces :: ancestors
  | .spread _ _ => .braces :: ancestors
  | _ => ancestors

/-- What markup is for the places inside it. -/
def Markup.ancestor : Markup → Ancestor
  | .element _ _ _ _ => .element
  | .fragment _ _ => .fragment

/-- What is around the tree that a step leads to, given what is around the tree it starts from. -/
def Tree.stepAncestors (ancestors : List Ancestor) : Tree → Step → List Ancestor
  | .node form _ _, _ => .node form :: ancestors
  | .markup m, .ofAttribute index => (m.attributes[index]?.map (Attribute.inside (m.ancestor :: ancestors))).getD []
  | .markup m, .ofChild index => (m.children[index]?.map (Child.inside (m.ancestor :: ancestors))).getD []
  | .markup _, .part _ => ancestors

/-- What is around the tree that steps lead to, given what is around the tree they start from. -/
def Tree.ancestorsAt : Tree → List Step → List Ancestor → List Ancestor
  | _, [], ancestors => ancestors
  | t, step :: rest, ancestors =>
    ((t.follow? step).map (·.ancestorsAt rest (t.stepAncestors ancestors step))).getD ancestors

/-! ### What stands at an image -/

theorem at?_append (t : Tree) (first rest : List Step) :
    t.at? (first ++ rest) = (t.at? first).bind (·.at? rest) := by
  induction first generalizing t with
  | nil => rfl
  | cons step first ih =>
    simp only [List.cons_append, Tree.at?, Option.bind_assoc, ih]

section

variable (names : MethodNames) (script : Bool) (ancestors : List Ancestor)

theorem partsInPlace_eq_map (parts : List Tree) :
    partsInPlace names script ancestors parts = parts.map (·.lowerInPlace names script ancestors) := by
  induction parts with
  | nil => rw [partsInPlace, List.map_nil]
  | cons part rest ih => rw [partsInPlace, ih, List.map_cons]

theorem attributesInPlace_eq_map (attributes : List Attribute) :
    attributesInPlace names script ancestors attributes = attributes.map (·.lowerInPlace names script ancestors) := by
  induction attributes with
  | nil => rw [attributesInPlace, List.map_nil]
  | cons head rest ih => rw [attributesInPlace, ih, List.map_cons]

private theorem childrenInPlace_append (first rest : List Child) :
    childrenInPlace names script ancestors (first ++ rest) =
      childrenInPlace names script ancestors first ++ childrenInPlace names script ancestors rest := by
  induction first with
  | nil => simp [childrenInPlace]
  | cons child first ih => simp [childrenInPlace, ih]

/-- A child becomes something exactly if anything remains of it. -/
theorem isSome_lowerInPlace (child : Child) :
    (child.lowerInPlace names script ancestors).isSome = child.remains := by
  cases child with
  | text span raw =>
    rw [Child.lowerInPlace, Child.remains]
    cases (childText raw).isEmpty <;> rfl
  | expression content => simp [Child.lowerInPlace, Child.remains]
  | empty => simp [Child.lowerInPlace, Child.remains]
  | spread span argument => simp [Child.lowerInPlace, Child.remains]
  | markup m => simp [Child.lowerInPlace, Child.remains]

private theorem length_childrenInPlace (children : List Child) :
    (childrenInPlace names script ancestors children).length = children.countP Child.remains := by
  induction children with
  | nil => simp [childrenInPlace]
  | cons child rest ih =>
    rw [childrenInPlace, List.length_append, ih, List.countP_cons, Nat.add_comm,
      ← isSome_lowerInPlace names script ancestors child]
    cases child.lowerInPlace names script ancestors <;> rfl

/-- A child that becomes something stands after what remains of the children before it. -/
private theorem getElem?_childrenInPlace {children : List Child} {index : Nat} {child : Child} {tree : Tree}
    (hchild : children[index]? = some child) (htree : child.lowerInPlace names script ancestors = some tree) :
    (childrenInPlace names script ancestors children)[(children.take index).countP Child.remains]? = some tree := by
  obtain ⟨hindex, rfl⟩ := List.getElem?_eq_some_iff.1 hchild
  conv => lhs; arg 1; rw [← List.take_append_drop index children, List.drop_eq_getElem_cons hindex]
  rw [childrenInPlace_append, ← length_childrenInPlace names script ancestors, List.getElem?_append_right (by omega)]
  simp [childrenInPlace, htree]

private theorem Attribute.at?_image {head : Attribute} {content : Tree} (h : head.content? = some content) :
    (head.lowerInPlace names script ancestors).at? head.image =
      some (content.lowerInPlace names script (head.inside ancestors)) := by
  cases head with
  | spread span argument =>
    obtain rfl : argument = content := by simpa [Attribute.content?] using h
    simp [Attribute.lowerInPlace, Attribute.image, Attribute.inside, Tree.spread, Tree.at?, Tree.follow?]
  | named span name value =>
    cases value with
    | expression inside =>
      obtain rfl : inside = content := by simpa [Attribute.content?] using h
      simp [Attribute.lowerInPlace, AttributeValue.lowerInPlace, Attribute.image, Attribute.inside, Tree.property,
        Tree.at?, Tree.follow?]
    | markup m =>
      obtain rfl : Tree.markup m = content := by simpa [Attribute.content?] using h
      simp [Attribute.lowerInPlace, AttributeValue.lowerInPlace, Attribute.image, Attribute.inside, Tree.property,
        Tree.at?, Tree.follow?, Tree.lowerInPlace]
    | missing => simp [Attribute.content?] at h
    | text textSpan raw => simp [Attribute.content?] at h
    | empty => simp [Attribute.content?] at h

private theorem Child.at?_image {child : Child} {content : Tree} (h : child.content? = some content) :
    ∃ tree, child.lowerInPlace names script ancestors = some tree ∧
      tree.at? child.image = some (content.lowerInPlace names script (child.inside ancestors)) := by
  cases child with
  | expression inside =>
    obtain rfl : inside = content := by simpa [Child.content?] using h
    refine ⟨_, by rw [Child.lowerInPlace], ?_⟩
    simp [Child.image, Child.inside, Tree.at?]
  | spread span argument =>
    obtain rfl : argument = content := by simpa [Child.content?] using h
    refine ⟨_, by rw [Child.lowerInPlace], ?_⟩
    simp [Child.image, Child.inside, Tree.spread, Tree.at?, Tree.follow?]
  | markup m =>
    obtain rfl : Tree.markup m = content := by simpa [Child.content?] using h
    refine ⟨_, by rw [Child.lowerInPlace], ?_⟩
    simp [Child.image, Child.inside, Tree.at?, Tree.lowerInPlace]
  | text span raw => simp [Child.content?] at h
  | empty => simp [Child.content?] at h

private theorem attributeObject?_of_getElem? {attributes : List Attribute} {index : Nat} {head : Attribute}
    (h : attributes[index]? = some head) (properties : List Tree) :
    attributeObject? attributes properties = some (.object (attributesSpan attributes) properties) := by
  cases attributes with
  | nil => simp at h
  | cons first rest => simp [attributeObject?]

/-- One step: what stands at the image of a step is the tree that the step leads to, lowered. -/
private theorem at?_stepImage_lowerInPlace {t u : Tree} {step : Step} (h : t.follow? step = some u) :
    (t.lowerInPlace names script ancestors).at? (t.stepImage step) =
      some (u.lowerInPlace names script (t.stepAncestors ancestors step)) := by
  cases t with
  | node form span parts =>
    cases step with
    | part index =>
      replace h : parts[index]? = some u := h
      simp [Tree.lowerInPlace, partsInPlace_eq_map, Tree.stepImage, Tree.stepAncestors, Tree.at?, Tree.follow?, h]
    | ofAttribute index => simp [Tree.follow?] at h
    | ofChild index => simp [Tree.follow?] at h
  | markup m =>
    cases step with
    | part index => simp [Tree.follow?] at h
    | ofAttribute index =>
      cases m with
      | fragment span children => simp [Tree.follow?, Markup.attributes] at h
      | element span name attributes children =>
        obtain ⟨head, hhead, hcontent⟩ := Option.bind_eq_some_iff.1 h
        replace hhead : attributes[index]? = some head := hhead
        have hinner := head.at?_image names script (.element :: ancestors) hcontent
        simp only [Tree.lowerInPlace, Markup.lowerInPlace, MethodNames.componentCall, Tree.call, Tree.stepImage,
          Tree.stepAncestors, Markup.ancestor, Markup.attributes, attributeObject?_of_getElem? hhead,
          attributesInPlace_eq_map]
        simpa [Tree.at?, Tree.follow?, Tree.object, hhead] using hinner
    | ofChild index =>
      obtain ⟨child, hchild, hcontent⟩ := Option.bind_eq_some_iff.1 h
      cases m with
      | element span name attributes children =>
        replace hchild : children[index]? = some child := hchild
        obtain ⟨tree, htree, hinner⟩ := child.at?_image names script (.element :: ancestors) hcontent
        have hplace := getElem?_childrenInPlace names script (.element :: ancestors) hchild htree
        simp only [Tree.lowerInPlace, Markup.lowerInPlace, MethodNames.componentCall, Tree.call, Tree.stepImage,
          Tree.stepAncestors, Markup.ancestor, Markup.children, Markup.firstChild]
        simpa [Tree.at?, Tree.follow?, hplace, hchild] using hinner
      | fragment span children =>
        replace hchild : children[index]? = some child := hchild
        obtain ⟨tree, htree, hinner⟩ := child.at?_image names script (.fragment :: ancestors) hcontent
        have hplace := getElem?_childrenInPlace names script (.fragment :: ancestors) hchild htree
        simp only [Tree.lowerInPlace, Markup.lowerInPlace, Tree.array, Tree.stepImage, Tree.stepAncestors,
          Markup.ancestor, Markup.children, Markup.firstChild]
        simpa [Tree.at?, Tree.follow?, hplace, hchild] using hinner

end

/-- Every part of a tree has its place in the lowered tree, and what stands there is that part, lowered where it
stands. -/
theorem at?_image_lowerInPlace (names : MethodNames) (script : Bool) {t u : Tree} {path : List Step}
    (h : t.at? path = some u) (ancestors : List Ancestor) :
    (t.lowerInPlace names script ancestors).at? (t.image path) =
      some (u.lowerInPlace names script (t.ancestorsAt path ancestors)) := by
  induction path generalizing t ancestors with
  | nil =>
    obtain rfl : t = u := by simpa [Tree.at?] using h
    rfl
  | cons step rest ih =>
    obtain ⟨v, hstep, hrest⟩ := Option.bind_eq_some_iff.1 h
    have hfirst := at?_stepImage_lowerInPlace names script ancestors hstep
    have hothers := ih hrest (t.stepAncestors ancestors step)
    rw [Tree.image, Tree.ancestorsAt, at?_append, hfirst, hstep]
    exact hothers

theorem element?_eq_some {t : Tree} {span : Span} {name : ElementName} (h : t.element? = some (span, name)) :
    ∃ attributes children, t = .markup (.element span name attributes children) := by
  cases t with
  | node form span parts => cases h
  | markup m =>
    cases m with
    | element span name attributes children =>
      cases h
      exact ⟨attributes, children, rfl⟩
    | fragment span children => cases h

/-- The tag of an element stands after the callee, and the receiver at the element's own place decides it. -/
theorem at?_tag_lowerInPlace (names : MethodNames) (script : Bool) {t : Tree} {path : List Step} {span : Span}
    {name : ElementName} (h : (t.at? path).bind Tree.element? = some (span, name)) (ancestors : List Ancestor) :
    (t.lowerInPlace names script ancestors).at? (t.image path ++ [.part 1]) =
      some ((name.tag (boundAt script (t.ancestorsAt path ancestors))).argument span) := by
  obtain ⟨u, hpath, helement⟩ := Option.bind_eq_some_iff.1 h
  obtain ⟨attributes, children, rfl⟩ := element?_eq_some helement
  rw [at?_append, at?_image_lowerInPlace names script hpath ancestors]
  rfl

/-! ### Whole programs -/

/-- The pass over a program gives the tree of the plain recursion.  In particular the tag of every element, directly in
markup or not, is the one that the receiver at its own place gives. -/
theorem lowerProgram_eq_lowerInPlace (options : Options) (program : Tree) :
    (lowerProgram options program).value =
      program.lowerInPlace options.names (options.dialect.loading == .script) [] ∧
    ∀ (path : List Step) (span : Span) (name : ElementName) (attributes : List Attribute) (children : List Child),
      program.at? path = some (.markup (.element span name attributes children)) →
      (lowerProgram options program).value.at? (program.image path ++ [.part 1]) =
        some ((name.tag (boundAt (options.dialect.loading == .script) (program.ancestorsAt path []))).argument
          span) := by
  have hplain : (lowerProgram options program).value =
      program.lowerInPlace options.names (options.dialect.loading == .script) [] :=
    program.value_lowerMarkup (Surroundings.describes_root _ _)
  refine ⟨hplain, ?_⟩
  intro path span name attributes children hpath
  rw [hplain, at?_append, at?_image_lowerInPlace _ _ hpath []]
  rfl

/-- The program `function f() { return <a>{() => <c><this/></c>}</a>; }`. -/
private def nested : Tree :=
  .node (.program none) ⟨0, 54⟩ [.node (.function .declaration false false false false) ⟨0, 54⟩
    [.node (.binding "f") ⟨9, 10⟩ [], .node .parameters ⟨10, 12⟩ [], .node .functionBody ⟨13, 54⟩
      [.node .returnValue ⟨15, 52⟩ [.markup (.element ⟨22, 51⟩ (.plain ⟨23, 24⟩ "a") []
        [.expression (.node (.arrow false false false) ⟨26, 46⟩ [.node .parameters ⟨26, 28⟩ [],
          .markup (.element ⟨32, 46⟩ (.plain ⟨33, 34⟩ "c") [] [.markup (.element ⟨35, 42⟩ (.self ⟨36, 40⟩) [] [])])])])]]]]

/-- The innermost element of `nested` finds the receiver of the function, through both the arrow and the braces. -/
theorem lowerProgram_nested_this :
    (lowerProgram .standard nested).value.at?
        [.part 0, .part 2, .part 0, .part 0, .part 3, .part 1, .part 3, .part 1] = some (.this ⟨36, 40⟩) :=
  (lowerProgram_eq_lowerInPlace .standard nested).2
    [.part 0, .part 2, .part 0, .part 0, .ofChild 0, .part 1, .ofChild 0] ⟨35, 42⟩ (.self ⟨36, 40⟩) [] [] rfl

end JsxLowering
