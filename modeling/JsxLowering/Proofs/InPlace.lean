import JsxLowering.Proofs.Equations

/-!
# Lowering in place

The walk over a program lowers markup in two ways: where an expression stands it lowers on leaving, and markup
directly inside markup is lowered together with the markup around it, under the receiver found for that.  The plain way
(`Tree.lowerInPlace`) is one recursion that lowers every element where it stands and looks for a receiver among
everything around that very place, the markup around it included.

Both give the same tree (`Tree.value_lowerMarkup`): markup puts nothing around its parts that matters for a
receiver, so the search from the outermost markup and the search from the element itself find the same.
-/

namespace JsxLowering

/-! ### Places -/

/-- What may stand around a place in a program. -/
inductive Ancestor where
  | node (form : Form)
  | element
  | fragment
  /-- An attribute with a name. -/
  | named
  /-- Braces in markup, with a spread or without. -/
  | braces

/-- What an ancestor is for the search of a receiver. -/
def Ancestor.frame : Ancestor → Frame
  | node form => form.frame
  | _ => .plain

/-- Whether `this` has a receiver at the place inside the given ancestors, innermost first. -/
def boundAt (script : Bool) (ancestors : List Ancestor) : Bool :=
  receiverBound script (ancestors.map Ancestor.frame)

/-! ### The plain recursion -/

mutual

/-- A tree whose markup is lowered where it stands. -/
def Tree.lowerInPlace (names : MethodNames) (script : Bool) (ancestors : List Ancestor) : Tree → Tree
  | .node form span parts => .node form span (partsInPlace names script (.node form :: ancestors) parts)
  | .markup m => m.lowerInPlace names script ancestors

/-- The parts of a node, each lowered where it stands. -/
def partsInPlace (names : MethodNames) (script : Bool) (ancestors : List Ancestor) : List Tree → List Tree
  | [] => []
  | part :: rest => part.lowerInPlace names script ancestors :: partsInPlace names script ancestors rest

/-- An element or a fragment, lowered where it stands. -/
def Markup.lowerInPlace (names : MethodNames) (script : Bool) (ancestors : List Ancestor) : Markup → Tree
  | .element span name attributes children =>
    names.componentCall span ((name.tag (boundAt script ancestors)).argument span)
      (attributeObject? attributes (attributesInPlace names script (.element :: ancestors) attributes))
      (childrenInPlace names script (.element :: ancestors) children)
  | .fragment span children => .array span (childrenInPlace names script (.fragment :: ancestors) children)

/-- The properties of an attribute list. -/
def attributesInPlace (names : MethodNames) (script : Bool) (ancestors : List Ancestor) :
    List Attribute → List Tree
  | [] => []
  | head :: rest => head.lowerInPlace names script ancestors :: attributesInPlace names script ancestors rest

/-- The property of an attribute. -/
def Attribute.lowerInPlace (names : MethodNames) (script : Bool) (ancestors : List Ancestor) : Attribute → Tree
  | .named span name value =>
    .property span name.key (value.lowerInPlace names script (.named :: ancestors) span)
  | .spread span argument => .spread span (argument.lowerInPlace names script (.braces :: ancestors))

/-- The value of an attribute with the given span. -/
def AttributeValue.lowerInPlace (names : MethodNames) (script : Bool) (ancestors : List Ancestor) (span : Span) :
    AttributeValue → Tree
  | .missing => .boolean span true
  | .text textSpan raw => .string textSpan (attributeText raw)
  | .expression content => content.lowerInPlace names script (.braces :: ancestors)
  | .empty => .boolean span true
  | .markup m => m.lowerInPlace names script ancestors

/-- The arguments or elements of a list of children. -/
def childrenInPlace (names : MethodNames) (script : Bool) (ancestors : List Ancestor) : List Child → List Tree
  | [] => []
  | child :: rest =>
    (child.lowerInPlace names script ancestors).toList ++ childrenInPlace names script ancestors rest

/-- What a child becomes, if anything. -/
def Child.lowerInPlace (names : MethodNames) (script : Bool) (ancestors : List Ancestor) : Child → Option Tree
  | .text span raw =>
    if (childText raw).isEmpty then none else some (names.literalCall span (childText raw))
  | .expression content => some (content.lowerInPlace names script (.braces :: ancestors))
  | .empty => none
  | .spread span argument => some (.spread span (argument.lowerInPlace names script (.braces :: ancestors)))
  | .markup m => some (m.lowerInPlace names script ancestors)

end

/-! ### Receivers seen from inside markup -/

private theorem scopeBinds_filter (script : Bool) (frames : List Frame) :
    scopeBinds script (frames.filter (· != .plain)) = scopeBinds script frames := by
  induction frames with
  | nil => rfl
  | cons frame outer ih =>
    rw [List.filter_cons]
    cases frame <;> simp [scopeBinds, ih]

private theorem inFieldValue_filter (frames : List Frame) :
    inFieldValue (frames.filter (· != .plain)) = inFieldValue frames := by
  unfold inFieldValue
  rw [List.any_filter]
  congr 1
  funext frame
  cases frame <;> rfl

/-- Frames that bind nothing do not matter for a receiver. -/
theorem receiverBound_filter (script : Bool) (frames : List Frame) :
    receiverBound script (frames.filter (· != .plain)) = receiverBound script frames := by
  unfold receiverBound
  rw [inFieldValue_filter, scopeBinds_filter]

/-- Surroundings of the walk describe a place if they hold the frames of its ancestors, as far as these matter. -/
def Surroundings.Describes (s : Surroundings) (ancestors : List Ancestor) : Prop :=
  s.frames.filter (· != .plain) = (ancestors.map Ancestor.frame).filter (· != .plain)

/-- The surroundings at the root describe the place that nothing is around. -/
theorem Surroundings.describes_root (names : MethodNames) (script : Bool) :
    Surroundings.Describes ⟨names, script, []⟩ [] := rfl

namespace Surroundings.Describes

variable {s : Surroundings} {ancestors : List Ancestor}

/-- The receiver that the walk finds is the one found at the place itself. -/
theorem bound_eq (h : s.Describes ancestors) : s.bound = boundAt s.script ancestors := by
  unfold Surroundings.bound boundAt
  rw [← receiverBound_filter, h, receiverBound_filter]

theorem enter (h : s.Describes ancestors) (form : Form) : (s.enter form).Describes (.node form :: ancestors) := by
  unfold Describes at h ⊢
  simp only [Surroundings.enter, List.map_cons, Ancestor.frame, List.filter_cons]
  rw [h]

/-- Markup around a place leaves the surroundings as they are. -/
theorem cons_plain (h : s.Describes ancestors) (ancestor : Ancestor) (hplain : ancestor.frame = .plain) :
    s.Describes (ancestor :: ancestors) := by
  unfold Describes at h ⊢
  rw [List.map_cons, hplain, List.filter_cons_of_neg (by decide), h]

end Surroundings.Describes

/-! ### Agreement -/

private theorem span_lowerInside (s : Surroundings) (head : Attribute) : (head.lowerInside s).value.span = head.span := by
  cases head <;> simp [Attribute.lowerInside, Attribute.span]

private theorem map_span_lowerInAttributes (s : Surroundings) (attributes : List Attribute) :
    (lowerInAttributes s attributes).value.map Attribute.span = attributes.map Attribute.span := by
  induction attributes with
  | nil => simp [lowerInAttributes]
  | cons head rest ih => simp [lowerInAttributes, span_lowerInside, ih]

private theorem attributesSpan_eq (attributes : List Attribute) :
    attributesSpan attributes =
      match attributes.map Attribute.span with
      | [] => ⟨0, 0⟩
      | first :: rest => first.through (rest.getLast?.getD first) := by
  cases attributes with
  | nil => rfl
  | cons first rest =>
    simp only [attributesSpan, List.map_cons, List.getLast?_map]
    cases rest.getLast? <;> rfl

/-- What the walk does inside attributes leaves the span of their object as it is. -/
theorem attributeObject?_lowerInAttributes (s : Surroundings) (attributes : List Attribute) (properties : List Tree) :
    attributeObject? (lowerInAttributes s attributes).value properties = attributeObject? attributes properties := by
  have hspan := map_span_lowerInAttributes s attributes
  unfold attributeObject?
  rw [attributesSpan_eq, hspan, ← attributesSpan_eq]
  cases attributes with
  | nil => simp [lowerInAttributes]
  | cons head rest => simp [lowerInAttributes]

-- The walk first lowers what is between braces and then the markup, from the outside in; the plain recursion does both
-- at once.  The surroundings stay those of the outermost markup, while the ancestors grow with every step inside.
mutual

/-- The walk and the plain recursion agree wherever the surroundings describe the place. -/
theorem Tree.value_lowerMarkup (t : Tree) {s : Surroundings} {ancestors : List Ancestor}
    (h : s.Describes ancestors) : (t.lowerMarkup s).value = t.lowerInPlace s.names s.script ancestors :=
  match t with
  | .node form span parts => by
    rw [value_lowerMarkup_node, value_lowerInParts parts (h.enter form), Tree.lowerInPlace]
    rfl
  | .markup m => by
    rw [value_lowerMarkup_markup, m.value_lower_lowerInside h, Tree.lowerInPlace]

theorem value_lowerInParts (parts : List Tree) {s : Surroundings} {ancestors : List Ancestor}
    (h : s.Describes ancestors) : (lowerInParts s parts).value = partsInPlace s.names s.script ancestors parts :=
  match parts with
  | [] => by simp [lowerInParts, partsInPlace]
  | part :: rest => by
    simp only [lowerInParts, Logged.value_bind, Logged.value_pure]
    rw [part.value_lowerMarkup h, value_lowerInParts rest h, partsInPlace]

theorem Markup.value_lower_lowerInside (m : Markup) {s : Surroundings} {ancestors : List Ancestor}
    (h : s.Describes ancestors) :
    ((m.lowerInside s).value.lower s.names s.bound).value = m.lowerInPlace s.names s.script ancestors :=
  match m with
  | .element span name attributes children => by
    have hattributes := value_lowerAttributes attributes (h.cons_plain .element rfl)
    have hchildren := value_lowerChildren children (h.cons_plain .element rfl)
    simp only [Markup.lowerInside, Logged.value_bind, Logged.value_pure, value_lower_element]
    rw [attributeObject?_lowerInAttributes, hattributes, hchildren, Markup.lowerInPlace, h.bound_eq]
  | .fragment span children => by
    have hchildren := value_lowerChildren children (h.cons_plain .fragment rfl)
    simp only [Markup.lowerInside, Markup.lower, Logged.value_bind, Logged.value_pure]
    rw [hchildren, Markup.lowerInPlace]

theorem value_lowerAttributes (attributes : List Attribute) {s : Surroundings} {ancestors : List Ancestor}
    (h : s.Describes ancestors) :
    (lowerAttributes s.names s.bound (lowerInAttributes s attributes).value).value =
      attributesInPlace s.names s.script ancestors attributes :=
  match attributes with
  | [] => by simp [lowerInAttributes, lowerAttributes, attributesInPlace]
  | head :: rest => by
    simp only [lowerInAttributes, lowerAttributes, Logged.value_bind, Logged.value_pure]
    rw [head.value_lower h, value_lowerAttributes rest h, attributesInPlace]

theorem Attribute.value_lower (head : Attribute) {s : Surroundings} {ancestors : List Ancestor}
    (h : s.Describes ancestors) :
    ((head.lowerInside s).value.lower s.names s.bound).value = head.lowerInPlace s.names s.script ancestors :=
  match head with
  | .named span name value => by
    simp only [Attribute.lowerInside, Attribute.lower, Logged.value_bind, Logged.value_pure]
    rw [value.value_lower span (h.cons_plain .named rfl), Attribute.lowerInPlace]
  | .spread span argument => by
    simp only [Attribute.lowerInside, Attribute.lower, Logged.value_bind, Logged.value_pure]
    rw [argument.value_lowerMarkup (h.cons_plain .braces rfl), Attribute.lowerInPlace]

theorem AttributeValue.value_lower (value : AttributeValue) (span : Span) {s : Surroundings}
    {ancestors : List Ancestor} (h : s.Describes ancestors) :
    ((value.lowerInside s).value.lower s.names s.bound span).value =
      value.lowerInPlace s.names s.script ancestors span :=
  match value with
  | .missing => by simp [AttributeValue.lowerInside, AttributeValue.lower, AttributeValue.lowerInPlace]
  | .text textSpan raw => by simp [AttributeValue.lowerInside, AttributeValue.lower, AttributeValue.lowerInPlace]
  | .expression content => by
    simp only [AttributeValue.lowerInside, AttributeValue.lower, Logged.value_bind, Logged.value_pure]
    rw [content.value_lowerMarkup (h.cons_plain .braces rfl), AttributeValue.lowerInPlace]
  | .empty => by simp [AttributeValue.lowerInside, AttributeValue.lower, AttributeValue.lowerInPlace]
  | .markup m => by
    simp only [AttributeValue.lowerInside, AttributeValue.lower, Logged.value_bind, Logged.value_pure]
    rw [m.value_lower_lowerInside h, AttributeValue.lowerInPlace]

theorem value_lowerChildren (children : List Child) {s : Surroundings} {ancestors : List Ancestor}
    (h : s.Describes ancestors) :
    (lowerChildren s.names s.bound (lowerInChildren s children).value).value =
      childrenInPlace s.names s.script ancestors children :=
  match children with
  | [] => by simp [lowerInChildren, lowerChildren, childrenInPlace]
  | child :: rest => by
    simp only [lowerInChildren, lowerChildren, Logged.value_bind, Logged.value_pure]
    rw [child.value_lower h, value_lowerChildren rest h, childrenInPlace]

theorem Child.value_lower (child : Child) {s : Surroundings} {ancestors : List Ancestor} (h : s.Describes ancestors) :
    ((child.lowerInside s).value.lower s.names s.bound).value = child.lowerInPlace s.names s.script ancestors :=
  match child with
  | .text span raw => by
    simp only [Child.lowerInside, Logged.value_pure]
    rw [value_lower_text, Child.lowerInPlace]
  | .expression content => by
    simp only [Child.lowerInside, Child.lower, Logged.value_bind, Logged.value_pure]
    rw [content.value_lowerMarkup (h.cons_plain .braces rfl), Child.lowerInPlace]
  | .empty => by simp [Child.lowerInside, Child.lower, Child.lowerInPlace]
  | .spread span argument => by
    simp only [Child.lowerInside, Child.lower, Logged.value_bind, Logged.value_pure]
    rw [argument.value_lowerMarkup (h.cons_plain .braces rfl), Child.lowerInPlace]
  | .markup m => by
    simp only [Child.lowerInside, Child.lower, Logged.value_bind, Logged.value_pure]
    rw [m.value_lower_lowerInside h, Child.lowerInPlace]

end

end JsxLowering
