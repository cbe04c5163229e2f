import JsxLowering.Proofs.ReceiverRule

/-!
# Drafts of lowered trees

A draft is a lowered tree whose calls are left open: it says for which element or text a call is made, and only filling
it in (`Draft.fill`) puts the names of the methods and the tags there.  Markup that is lowered alone and programs that
are lowered as a whole both fill in a draft that was made without names and receivers (`Markup.value_lower_eq_fill`,
`Tree.lowerInPlace_eq_fill`); the draft of markup alone keeps what stands between braces.
-/

namespace JsxLowering

/-- A lowered tree whose calls are left open. -/
inductive Draft where
  | node (form : Form) (span : Span) (parts : List Draft)
  /-- A tree that is taken as it is. -/
  | kept (t : Tree)
  /-- The call for an element inside the given ancestors. -/
  | component (ancestors : List Ancestor) (span : Span) (name : ElementName) (attributes : Draft)
      (children : List Draft)
  /-- The call for a text. -/
  | literal (span : Span) (text : String)

namespace Draft

mutual

/-- A draft with its calls filled in; `bound` says whether there is a receiver inside given ancestors. -/
def fill (names : MethodNames) (bound : List Ancestor → Bool) : Draft → Tree
  | node form span parts => .node form span (fillAll names bound parts)
  | kept t => t
  | component ancestors span name attributes children =>
    names.componentCall span ((name.tag (bound ancestors)).argument span) (some (attributes.fill names bound))
      (fillAll names bound children)
  | literal span text => names.literalCall span text

/-- Drafts with their calls filled in. -/
def fillAll (names : MethodNames) (bound : List Ancestor → Bool) : List Draft → List Tree
  | [] => []
  | d :: rest => d.fill names bound :: fillAll names bound rest

end

theorem fillAll_eq_map (names : MethodNames) (bound : List Ancestor → Bool) (drafts : List Draft) :
    fillAll names bound drafts = drafts.map (fill names bound) := by
  induction drafts with
  | nil => rw [fillAll, List.map_nil]
  | cons d rest ih => rw [fillAll, ih, List.map_cons]

/-- A tree that is no markup or stands between braces: its draft, or the tree as it is. -/
def between (deep : Bool) (content : Tree) (d : Draft) : Draft := if deep then d else .kept content

end Draft

/-! ### Drafts of trees -/

mutual

/-- The draft of a tree; `deep` says whether markup in nodes and between braces is lowered too. -/
def Tree.draft (deep : Bool) (ancestors : List Ancestor) : Tree → Draft
  | .node form span parts =>
    .between deep (.node form span parts) (.node form span (partDrafts deep (.node form :: ancestors) parts))
  | .markup m => m.draft deep ancestors

/-- The drafts of the parts of a node. -/
def partDrafts (deep : Bool) (ancestors : List Ancestor) : List Tree → List Draft
  | [] => []
  | part :: rest => part.draft deep ancestors :: partDrafts deep ancestors rest

/-- The draft of an element or a fragment. -/
def Markup.draft (deep : Bool) (ancestors : List Ancestor) : Markup → Draft
  | .element span name attributes children =>
    .component ancestors span name
      (if attributes.isEmpty then .kept (.null span)
        else .node .object (attributesSpan attributes) (attributeDrafts deep (.element :: ancestors) attributes))
      (childDrafts deep (.element :: ancestors) children)
  | .fragment span children => .node .array span (childDrafts deep (.fragment :: ancestors) children)

/-- The drafts of the properties of an attribute list. -/
def attributeDrafts (deep : Bool) (ancestors : List Ancestor) : List Attribute → List Draft
  | [] => []
  | head :: rest => head.draft deep ancestors :: attributeDrafts deep ancestors rest

/-- The draft of the property of an attribute. -/
def Attribute.draft (deep : Bool) (ancestors : List Ancestor) : Attribute → Draft
  | .named span name value =>
    .node (.property false false) span [.kept name.key, value.draft deep (.named :: ancestors) span]
  | .spread span argument => .node .spread span [.between deep argument (argument.draft deep (.braces :: ancestors))]

/-- The draft of the value of an attribute with the given span. -/
def AttributeValue.draft (deep : Bool) (ancestors : List Ancestor) (span : Span) : AttributeValue → Draft
  | .missing => .kept (.boolean span true)
  | .text textSpan raw => .kept (.string textSpan (attributeText raw))
  | .expression content => .between deep content (content.draft deep (.braces :: ancestors))
  | .empty => .kept (.boolean span true)
  | .markup m => m.draft deep ancestors

/-- The drafts of what remains of children. -/
def childDrafts (deep : Bool) (ancestors : List Ancestor) : List Child → List Draft
  | [] => []
  | child :: rest => (child.draft deep ancestors).toList ++ childDrafts deep ancestors rest

/-- The draft of what a child becomes, if anything. -/
def Child.draft (deep : Bool) (ancestors : List Ancestor) : Child → Option Draft
  | .text span raw => if (childText raw).isEmpty then none else some (.literal span (childText raw))
  | .expression content => some (.between deep content (content.draft deep (.braces :: ancestors)))
  | .empty => none
  | .spread span argument =>
    some (.node .spread span [.between deep argument (argument.draft deep (.braces :: ancestors))])
  | .markup m => some (m.draft deep ancestors)

end

section

variable (deep : Bool) (ancestors : List Ancestor)

theorem partDrafts_eq_map (parts : List Tree) :
    partDrafts deep ancestors parts = parts.map (·.draft deep ancestors) := by
  induction parts with
  | nil => rw [partDrafts, List.map_nil]
  | cons part rest ih => rw [partDrafts, ih, List.map_cons]

theorem attributeDrafts_eq_map (attributes : List Attribute) :
    attributeDrafts deep ancestors attributes = attributes.map (·.draft deep ancestors) := by
  induction attributes with
  | nil => rw [attributeDrafts, List.map_nil]
  | cons head rest ih => rw [attributeDrafts, ih, List.map_cons]

theorem childDrafts_eq_filterMap (children : List Child) :
    childDrafts deep ancestors children = children.filterMap (·.draft deep ancestors) := by
  induction children with
  | nil => rw [childDrafts, List.filterMap_nil]
  | cons child rest ih =>
    rw [childDrafts, ih, List.filterMap_cons]
    cases child.draft deep ancestors <;> rfl

/-- A child has a draft exactly if anything remains of it. -/
theorem isSome_draft (child : Child) : (child.draft deep ancestors).isSome = child.remains := by
  cases child with
  | text span raw =>
    rw [Child.draft, Child.remains]
    cases (childText raw).isEmpty <;> rfl
  | expression content => rw [Child.draft]; rfl
  | empty => rw [Child.draft]; rfl
  | spread span argument => rw [Child.draft]; rfl
  | markup m => rw [Child.draft]; rfl

theorem isEmpty_childDrafts (children : List Child) :
    (childDrafts deep ancestors children).isEmpty = !children.any Child.remains := by
  induction children with
  | nil => rw [childDrafts]; rfl
  | cons child rest ih =>
    have hchild := isSome_draft deep ancestors child
    rw [childDrafts, List.any_cons, ← hchild]
    cases child.draft deep ancestors with
    | none => simpa using ih
    | some d => rfl

end

/-! ### Filling in drafts -/

section

variable (names : MethodNames) (bound : Bool)

mutual

/-- Markup that is lowered alone fills in its draft, with the same receiver everywhere. -/
theorem Markup.value_lower_eq_fill : ∀ (m : Markup) (ancestors : List Ancestor),
    (m.lower names bound).value = (m.draft false ancestors).fill names fun _ => bound
  | .element span name attributes children, ancestors => by
    rw [value_lower_element, value_lowerAttributes_eq_fill attributes (.element :: ancestors),
      value_lowerChildren_eq_fill children (.element :: ancestors), Markup.draft, Draft.fill]
    cases attributes with
    | nil => simp [attributeObject?, MethodNames.componentCall, Draft.fill]
    | cons head rest => simp [attributeObject?, MethodNames.componentCall, Draft.fill, Tree.object]
  | .fragment span children, ancestors => by
    simp only [Markup.lower, Logged.value_bind, Logged.value_pure]
    rw [value_lowerChildren_eq_fill children (.fragment :: ancestors), Markup.draft, Draft.fill, Tree.array]

private theorem value_lowerAttributes_eq_fill : ∀ (attributes : List Attribute) (ancestors : List Ancestor),
    (lowerAttributes names bound attributes).value =
      Draft.fillAll names (fun _ => bound) (attributeDrafts false ancestors attributes)
  | [], ancestors => by simp [lowerAttributes, attributeDrafts, Draft.fillAll]
  | head :: rest, ancestors => by
    simp only [lowerAttributes, Logged.value_bind, Logged.value_pure]
    rw [head.value_lower_eq_fill ancestors, value_lowerAttributes_eq_fill rest ancestors, attributeDrafts,
      Draft.fillAll]

private theorem Attribute.value_lower_eq_fill : ∀ (head : Attribute) (ancestors : List Ancestor),
    (head.lower names bound).value = (head.draft false ancestors).fill names fun _ => bound
  | .named span name value, ancestors => by
    simp only [Attribute.lower, Logged.value_bind, Logged.value_pure]
    rw [value.value_lower_eq_fill (.named :: ancestors) span]
    simp [Attribute.draft, Draft.fill, Draft.fillAll, Tree.property]
  | .spread span argument, ancestors => by
    simp [Attribute.lower, Attribute.draft, Draft.between, Draft.fill, Draft.fillAll, Tree.spread]

private theorem AttributeValue.value_lower_eq_fill :
    ∀ (value : AttributeValue) (ancestors : List Ancestor) (span : Span),
      (value.lower names bound span).value = (value.draft false ancestors span).fill names fun _ => bound
  | .missing, ancestors, span => by simp [AttributeValue.lower, AttributeValue.draft, Draft.fill]
  | .text textSpan raw, ancestors, span => by simp [AttributeValue.lower, AttributeValue.draft, Draft.fill]
  | .expression content, ancestors, span => by
    simp [AttributeValue.lower, AttributeValue.draft, Draft.between, Draft.fill]
  | .empty, ancestors, span => by simp [AttributeValue.lower, AttributeValue.draft, Draft.fill]
  | .markup m, ancestors, span => by
    rw [AttributeValue.lower, AttributeValue.draft, m.value_lower_eq_fill ancestors]

theorem value_lowerChildren_eq_fill : ∀ (children : List Child) (ancestors : List Ancestor),
    (lowerChildren names bound children).value =
      Draft.fillAll names (fun _ => bound) (childDrafts false ancestors children)
  | [], ancestors => by simp [lowerChildren, childDrafts, Draft.fillAll]
  | child :: rest, ancestors => by
    simp only [lowerChildren, Logged.value_bind, Logged.value_pure]
    rw [child.value_lower_eq_fill ancestors, value_lowerChildren_eq_fill rest ancestors, childDrafts]
    cases child.draft false ancestors <;> simp [Draft.fillAll]

private theorem Child.value_lower_eq_fill : ∀ (child : Child) (ancestors : List Ancestor),
    (child.lower names bound).value =
      (child.draft false ancestors).map fun d => d.fill names fun _ => bound
  | .text span raw, ancestors => by
    rw [value_lower_text, Child.draft]
    split <;> simp [Draft.fill]
  | .expression content, ancestors => by simp [Child.lower, Child.draft, Draft.between, Draft.fill]
  | .empty, ancestors => by simp [Child.lower, Child.draft]
  | .spread span argument, ancestors => by
    simp [Child.lower, Child.draft, Draft.between, Draft.fill, Draft.fillAll, Tree.spread]
  | .markup m, ancestors => by
    simp only [Child.lower, Logged.value_bind, Logged.value_pure]
    rw [m.value_lower_eq_fill ancestors, Child.draft, Option.map_some]

end

end

section

variable (names : MethodNames) (script : Bool)

mutual

/-- A program that is lowered as a whole fills in its draft, with the receiver at each place. -/
theorem Tree.lowerInPlace_eq_fill : ∀ (t : Tree) (ancestors : List Ancestor),
    t.lowerInPlace names script ancestors = (t.draft true ancestors).fill names (boundAt script)
  | .node form span parts, ancestors => by
    rw [Tree.lowerInPlace, partsInPlace_eq_fill parts (.node form :: ancestors), Tree.draft]
    simp [Draft.between, Draft.fill]
  | .markup m, ancestors => by rw [Tree.lowerInPlace, m.lowerInPlace_eq_fill ancestors, Tree.draft]

private theorem partsInPlace_eq_fill : ∀ (parts : List Tree) (ancestors : List Ancestor),
    partsInPlace names script ancestors parts =
      Draft.fillAll names (boundAt script) (partDrafts true ancestors parts)
  | [], ancestors => by simp [partsInPlace, partDrafts, Draft.fillAll]
  | part :: rest, ancestors => by
    rw [partsInPlace, part.lowerInPlace_eq_fill ancestors, partsInPlace_eq_fill rest ancestors, partDrafts,
      Draft.fillAll]

private theorem Markup.lowerInPlace_eq_fill : ∀ (m : Markup) (ancestors : List Ancestor),
    m.lowerInPlace names script ancestors = (m.draft true ancestors).fill names (boundAt script)
  | .element span name attributes children, ancestors => by
    rw [Markup.lowerInPlace, attributesInPlace_eq_fill attributes (.element :: ancestors),
      childrenInPlace_eq_fill children (.element :: ancestors), Markup.draft, Draft.fill]
    cases attributes with
    | nil => simp [attributeObject?, MethodNames.componentCall, Draft.fill]
    | cons head rest => simp [attributeObject?, MethodNames.componentCall, Draft.fill, Tree.object]
  | .fragment span children, ancestors => by
    rw [Markup.lowerInPlace, childrenInPlace_eq_fill children (.fragment :: ancestors), Markup.draft, Draft.fill,
      Tree.array]

private theorem attributesInPlace_eq_fill : ∀ (attributes : List Attribute) (ancestors : List Ancestor),
    attributesInPlace names script ancestors attributes =
      Draft.fillAll names (boundAt script) (attributeDrafts true ancestors attributes)
  | [], ancestors => by simp [attributesInPlace, attributeDrafts, Draft.fillAll]
  | head :: rest, ancestors => by
    rw [attributesInPlace, head.lowerInPlace_eq_fill ancestors, attributesInPlace_eq_fill rest ancestors,
      attributeDrafts, Draft.fillAll]

private theorem Attribute.lowerInPlace_eq_fill : ∀ (head : Attribute) (ancestors : List Ancestor),
    head.lowerInPlace names script ancestors = (head.draft true ancestors).fill names (boundAt script)
  | .named span name value, ancestors => by
    rw [Attribute.lowerInPlace, value.lowerInPlace_eq_fill (.named :: ancestors) span]
    simp [Attribute.draft, Draft.fill, Draft.fillAll, Tree.property]
  | .spread span argument, ancestors => by
    rw [Attribute.lowerInPlace, argument.lowerInPlace_eq_fill (.braces :: ancestors)]
    simp [Attribute.draft, Draft.between, Draft.fill, Draft.fillAll, Tree.spread]

private theorem AttributeValue.lowerInPlace_eq_fill :
    ∀ (value : AttributeValue) (ancestors : List Ancestor) (span : Span),
      value.lowerInPlace names script ancestors span =
        (value.draft true ancestors span).fill names (boundAt script)
  | .missing, ancestors, span => by simp [AttributeValue.lowerInPlace, AttributeValue.draft, Draft.fill]
  | .text textSpan raw, ancestors, span => by simp [AttributeValue.lowerInPlace, AttributeValue.draft, Draft.fill]
  | .expression content, ancestors, span => by
    rw [AttributeValue.lowerInPlace, content.lowerInPlace_eq_fill (.braces :: ancestors), AttributeValue.draft]
    rfl
  | .empty, ancestors, span => by simp [AttributeValue.lowerInPlace, AttributeValue.draft, Draft.fill]
  | .markup m, ancestors, span => by
    rw [AttributeValue.lowerInPlace, m.lowerInPlace_eq_fill ancestors, AttributeValue.draft]

private theorem childrenInPlace_eq_fill : ∀ (children : List Child) (ancestors : List Ancestor),
    childrenInPlace names script ancestors children =
      Draft.fillAll names (boundAt script) (childDrafts true ancestors children)
  | [], ancestors => by simp [childrenInPlace, childDrafts, Draft.fillAll]
  | child :: rest, ancestors => by
    rw [childrenInPlace, child.lowerInPlace_eq_fill ancestors, childrenInPlace_eq_fill rest ancestors, childDrafts]
    cases child.draft true ancestors <;> simp [Draft.fillAll]

private theorem Child.lowerInPlace_eq_fill : ∀ (child : Child) (ancestors : List Ancestor),
    child.lowerInPlace names script ancestors =
      (child.draft true ancestors).map (·.fill names (boundAt script))
  | .text span raw, ancestors => by
    rw [Child.lowerInPlace, Child.draft]
    split <;> simp [Draft.fill]
  | .expression content, ancestors => by
    rw [Child.lowerInPlace, content.lowerInPlace_eq_fill (.braces :: ancestors), Child.draft]
    rfl
  | .empty, ancestors => by simp [Child.lowerInPlace, Child.draft]
  | .spread span argument, ancestors => by
    rw [Child.lowerInPlace, argument.lowerInPlace_eq_fill (.braces :: ancestors)]
    simp [Child.draft, Draft.between, Draft.fill, Draft.fillAll, Tree.spread]
  | .markup m, ancestors => by
    rw [Child.lowerInPlace, m.lowerInPlace_eq_fill ancestors, Child.draft, Option.map_some]

end

end

theorem lowerProgram_eq_fill (options : Options) (program : Tree) : (lowerProgram options program).value =
    (program.draft true []).fill options.names (boundAt (options.dialect.loading == .script)) := by
  rw [lowerProgram, program.value_lowerMarkup (Surroundings.describes_root _ _), Tree.lowerInPlace_eq_fill]

end JsxLowering
