import JsxLowering.Proofs.Places
import Mathlib.Data.List.Perm.Basic

/-!
# The pieces of markup

For the walk markup is made of two kinds of pieces, listed here in source post-order (`Markup.pieces`): the elements that
stand directly in it, itself included, and what stands between its braces.  Each element knows whether children of it
remain, since only then its call is hinted at.

* Induction over programs needs no more than these pieces (`Tree.piecewise`).
* The elements of a program in source post-order (`Tree.elements`) are those of its pieces, one after the other.
* The walk reports what is between braces first and the elements then (`hints_lowerInside`, `hints_lower_lowerInside`),
  and all in all every element with remaining children once (`hints_lowerMarkup_perm`).
-/

namespace JsxLowering

/-! ### Pieces and elements -/

/-- A piece of markup. -/
inductive Piece where
  /-- An element, and whether children of it remain. -/
  | element (span : Span) (filled : Bool)
  /-- What stands between braces. -/
  | braces (content : Tree)

mutual

/-- The pieces of an element or a fragment, in source post-order. -/
def Markup.pieces : Markup → List Piece
  | .element span _ attributes children =>
    attributesPieces attributes ++ childrenPieces children ++ [.element span (children.any Child.remains)]
  | .fragment _ children => childrenPieces children

/-- The pieces of attributes. -/
def attributesPieces : List Attribute → List Piece
  | [] => []
  | head :: rest => head.pieces ++ attributesPieces rest

/-- The pieces of an attribute. -/
def Attribute.pieces : Attribute → List Piece
  | .named _ _ value => value.pieces
  | .spread _ argument => [.braces argument]

/-- The pieces of the value of an attribute. -/
def AttributeValue.pieces : AttributeValue → List Piece
  | .expression content => [.braces content]
  | .markup m => m.pieces
  | .missing => []
  | .text _ _ => []
  | .empty => []

/-- The pieces of children. -/
def childrenPieces : List Child → List Piece
  | [] => []
  | child :: rest => child.pieces ++ childrenPieces rest

/-- The pieces of a child. -/
def Child.pieces : Child → List Piece
  | .expression content => [.braces content]
  | .spread _ argument => [.braces argument]
  | .markup m => m.pieces
  | .text _ _ => []
  | .empty => []

end

mutual

/-- The elements in a tree, in source post-order, each with whether children of it remain. -/
def Tree.elements : Tree → List (Span × Bool)
  | .node _ _ parts => partsElements parts
  | .markup m => m.elements

/-- The elements in a list of parts. -/
def partsElements : List Tree → List (Span × Bool)
  | [] => []
  | part :: rest => part.elements ++ partsElements rest

/-- The elements in an element, which comes last, or in a fragment. -/
def Markup.elements : Markup → List (Span × Bool)
  | .element span _ attributes children =>
    attributesElements attributes ++ childrenElements children ++ [(span, children.any Child.remains)]
  | .fragment _ children => childrenElements children

/-- The elements in attributes. -/
def attributesElements : List Attribute → List (Span × Bool)
  | [] => []
  | head :: rest => head.elements ++ attributesElements rest

/-- The elements in an attribute. -/
def Attribute.elements : Attribute → List (Span × Bool)
  | .named _ _ value => value.elements
  | .spread _ argument => argument.elements

/-- The elements in the value of an attribute. -/
def AttributeValue.elements : AttributeValue → List (Span × Bool)
  | .expression content => content.elements
  | .markup m => m.elements
  | .missing => []
  | .text _ _ => []
  | .empty => []

/-- The elements in children. -/
def childrenElements : List Child → List (Span × Bool)
  | [] => []
  | child :: rest => child.elements ++ childrenElements rest

/-- The elements in a child. -/
def Child.elements : Child → List (Span × Bool)
  | .expression content => content.elements
  | .spread _ argument => argument.elements
  | .markup m => m.elements
  | .text _ _ => []
  | .empty => []

end

/-- The elements in a piece. -/
def Piece.elements : Piece → List (Span × Bool)
  | .element span filled => [(span, filled)]
  | .braces content => content.elements

/-- The spans of the elements with remaining children. -/
def filledSpans (elements : List (Span × Bool)) : List Span :=
  (elements.filter (·.2)).map (·.1)

/-- The spans of the elements with remaining children in a tree, in source post-order. -/
def Tree.calls (t : Tree) : List Span := filledSpans t.elements

/-- The spans of the elements with remaining children in a piece. -/
def Piece.calls (piece : Piece) : List Span := filledSpans piece.elements

@[simp] theorem filledSpans_nil : filledSpans [] = [] := rfl

@[simp] theorem filledSpans_append (first rest : List (Span × Bool)) :
    filledSpans (first ++ rest) = filledSpans first ++ filledSpans rest := by
  simp [filledSpans]

theorem filledSpans_flatMap {α : Type} (items : List α) (elements : α → List (Span × Bool)) :
    filledSpans (items.flatMap elements) = items.flatMap fun item => filledSpans (elements item) := by
  induction items with
  | nil => rfl
  | cons item rest ih => rw [List.flatMap_cons, filledSpans_append, ih, List.flatMap_cons]

/-! ### Induction over pieces -/

/-- Everything between braces among the pieces is settled. -/
private def BracesHold (motive : Tree → Prop) (pieces : List Piece) : Prop :=
  ∀ content, Piece.braces content ∈ pieces → motive content

private theorem bracesHold_append {motive : Tree → Prop} {first rest : List Piece} (hfirst : BracesHold motive first)
    (hrest : BracesHold motive rest) : BracesHold motive (first ++ rest) :=
  fun content h => (List.mem_append.1 h).elim (hfirst content) (hrest content)

/-- A tree is settled once its parts are, and markup once what stands between its braces is. -/
@[elab_as_elim] theorem Tree.piecewise {motive : Tree → Prop}
    (node : ∀ (form : Form) (span : Span) (parts : List Tree), (∀ part ∈ parts, motive part) →
      motive (.node form span parts))
    (markup : ∀ m : Markup, (∀ content, Piece.braces content ∈ m.pieces → motive content) → motive (.markup m))
    (t : Tree) : motive t := by
  have hnone {pieces : List Piece} (h : ∀ content, Piece.braces content ∉ pieces) : BracesHold motive pieces :=
    fun content hmem => absurd hmem (h content)
  have hbraces {content : Tree} (h : motive content) : BracesHold motive [.braces content] := by
    intro content' hmem
    cases List.mem_singleton.1 hmem
    exact h
  refine @Tree.rec motive (fun m => BracesHold motive m.pieces) (fun a => BracesHold motive a.pieces)
    (fun value => BracesHold motive value.pieces) (fun child => BracesHold motive child.pieces)
    (fun parts => ∀ part ∈ parts, motive part) (fun attributes => BracesHold motive (attributesPieces attributes))
    (fun children => BracesHold motive (childrenPieces children)) node markup
    ?element ?fragment ?named ?spread ?missing ?text ?expression ?empty ?valueMarkup
    ?childText ?childExpression ?childEmpty ?childSpread ?childMarkup
    ?noParts ?parts ?noAttributes ?attributes ?noChildren ?children t
  case element =>
    intro span name attributes children hattributes hchildren
    rw [Markup.pieces]
    exact bracesHold_append (bracesHold_append hattributes hchildren) (hnone (by simp))
  case fragment => exact fun span children hchildren => by rwa [Markup.pieces]
  case named => exact fun span name value hvalue => by rwa [Attribute.pieces]
  case spread => exact fun span argument hargument => by rw [Attribute.pieces]; exact hbraces hargument
  case missing => exact hnone (by simp [AttributeValue.pieces])
  case text => exact fun span raw => hnone (by simp [AttributeValue.pieces])
  case expression => exact fun content hcontent => by rw [AttributeValue.pieces]; exact hbraces hcontent
  case empty => exact hnone (by simp [AttributeValue.pieces])
  case valueMarkup => exact fun m hm => by rwa [AttributeValue.pieces]
  case childText => exact fun span raw => hnone (by simp [Child.pieces])
  case childExpression => exact fun content hcontent => by rw [Child.pieces]; exact hbraces hcontent
  case childEmpty => exact hnone (by simp [Child.pieces])
  case childSpread => exact fun span argument hargument => by rw [Child.pieces]; exact hbraces hargument
  case childMarkup => exact fun m hm => by rwa [Child.pieces]
  case noParts => simp
  case parts => exact fun first rest hfirst hrest => List.forall_mem_cons.2 ⟨hfirst, hrest⟩
  case noAttributes => exact hnone (by simp [attributesPieces])
  case attributes =>
    intro head rest hhead hrest
    rw [attributesPieces]
    exact bracesHold_append hhead hrest
  case noChildren => exact hnone (by simp [childrenPieces])
  case children =>
    intro child rest hchild hrest
    rw [childrenPieces]
    exact bracesHold_append hchild hrest

/-! ### The elements of the pieces -/

theorem partsElements_eq_flatMap (parts : List Tree) : partsElements parts = parts.flatMap Tree.elements := by
  induction parts with
  | nil => simp [partsElements]
  | cons part rest ih => rw [partsElements, ih, List.flatMap_cons]

mutual

/-- The elements of markup are those of its pieces, one after the other. -/
theorem Markup.elements_eq_flatMap : ∀ m : Markup, m.elements = m.pieces.flatMap Piece.elements
  | .element span name attributes children => by
    simp [Markup.elements, Markup.pieces, attributesElements_eq_flatMap attributes,
      childrenElements_eq_flatMap children, Piece.elements]
  | .fragment span children => by
    rw [Markup.elements, Markup.pieces, childrenElements_eq_flatMap children]

private theorem attributesElements_eq_flatMap : ∀ attributes : List Attribute,
    attributesElements attributes = (attributesPieces attributes).flatMap Piece.elements
  | [] => by simp [attributesElements, attributesPieces]
  | head :: rest => by
    rw [attributesElements, attributesPieces, List.flatMap_append, head.elements_eq_flatMap,
      attributesElements_eq_flatMap rest]

private theorem Attribute.elements_eq_flatMap : ∀ head : Attribute,
    head.elements = head.pieces.flatMap Piece.elements
  | .named span name value => by
    rw [Attribute.elements, Attribute.pieces, value.elements_eq_flatMap]
  | .spread span argument => by
    simp [Attribute.elements, Attribute.pieces, Piece.elements]

private theorem AttributeValue.elements_eq_flatMap : ∀ value : AttributeValue,
    value.elements = value.pieces.flatMap Piece.elements
  | .markup m => by rw [AttributeValue.elements, AttributeValue.pieces, m.elements_eq_flatMap]
  | .expression content => by simp [AttributeValue.elements, AttributeValue.pieces, Piece.elements]
  | .missing => by simp [AttributeValue.elements, AttributeValue.pieces]
  | .text span raw => by simp [AttributeValue.elements, AttributeValue.pieces]
  | .empty => by simp [AttributeValue.elements, AttributeValue.pieces]

private theorem childrenElements_eq_flatMap : ∀ children : List Child,
    childrenElements children = (childrenPieces children).flatMap Piece.elements
  | [] => by simp [childrenElements, childrenPieces]
  | child :: rest => by
    rw [childrenElements, childrenPieces, List.flatMap_append, child.elements_eq_flatMap,
      childrenElements_eq_flatMap rest]

private theorem Child.elements_eq_flatMap : ∀ child : Child, child.elements = child.pieces.flatMap Piece.elements
  | .markup m => by rw [Child.elements, Child.pieces, m.elements_eq_flatMap]
  | .expression content => by simp [Child.elements, Child.pieces, Piece.elements]
  | .spread span argument => by simp [Child.elements, Child.pieces, Piece.elements]
  | .text span raw => by simp [Child.elements, Child.pieces]
  | .empty => by simp [Child.elements, Child.pieces]

end

theorem calls_node (form : Form) (span : Span) (parts : List Tree) :
    (Tree.node form span parts).calls = parts.flatMap Tree.calls := by
  rw [Tree.calls, Tree.elements, partsElements_eq_flatMap, filledSpans_flatMap]
  rfl

theorem calls_markup (m : Markup) : (Tree.markup m).calls = m.pieces.flatMap Piece.calls := by
  rw [Tree.calls, Tree.elements, m.elements_eq_flatMap, filledSpans_flatMap]
  rfl

/-! ### What the walk reports -/

/-- Whether a piece stands between braces. -/
def Piece.isBraced : Piece → Bool
  | .element _ _ => false
  | .braces _ => true

/-- What the walk reports for a piece. -/
def Piece.hints (s : Surroundings) : Piece → List Span
  | .element span filled => filledSpans [(span, filled)]
  | .braces content => (content.lowerMarkup s).hints

/-- What the walk reports for the pieces between braces. -/
def bracedHints (s : Surroundings) (pieces : List Piece) : List Span :=
  (pieces.filter Piece.isBraced).flatMap (Piece.hints s)

/-- What the lowering reports for the elements among the pieces. -/
def elementHints (s : Surroundings) (pieces : List Piece) : List Span :=
  (pieces.filter (!·.isBraced)).flatMap (Piece.hints s)

@[simp] theorem bracedHints_append (s : Surroundings) (first rest : List Piece) :
    bracedHints s (first ++ rest) = bracedHints s first ++ bracedHints s rest := by
  simp [bracedHints]

@[simp] theorem elementHints_append (s : Surroundings) (first rest : List Piece) :
    elementHints s (first ++ rest) = elementHints s first ++ elementHints s rest := by
  simp [elementHints]

theorem bracedHints_flatMap {α : Type} (s : Surroundings) (items : List α) (pieces : α → List Piece) :
    bracedHints s (items.flatMap pieces) = items.flatMap fun item => bracedHints s (pieces item) := by
  induction items with
  | nil => rfl
  | cons item rest ih => rw [List.flatMap_cons, bracedHints_append, ih, List.flatMap_cons]

theorem elementHints_flatMap {α : Type} (s : Surroundings) (items : List α) (pieces : α → List Piece) :
    elementHints s (items.flatMap pieces) = items.flatMap fun item => elementHints s (pieces item) := by
  induction items with
  | nil => rfl
  | cons item rest ih => rw [List.flatMap_cons, elementHints_append, ih, List.flatMap_cons]

section

variable (s : Surroundings)

@[simp] theorem bracedHints_nil : bracedHints s [] = [] := rfl

@[simp] theorem elementHints_nil : elementHints s [] = [] := rfl

@[simp] theorem bracedHints_braces (content : Tree) :
    bracedHints s [.braces content] = (content.lowerMarkup s).hints :=
  List.append_nil _

@[simp] theorem elementHints_braces (content : Tree) : elementHints s [.braces content] = [] := rfl

@[simp] theorem bracedHints_element (span : Span) (filled : Bool) :
    bracedHints s [.element span filled] = [] := rfl

@[simp] theorem elementHints_element (span : Span) (filled : Bool) :
    elementHints s [.element span filled] = filledSpans [(span, filled)] :=
  List.append_nil _

end

theorem hints_lowerInParts (s : Surroundings) (parts : List Tree) :
    (lowerInParts s parts).hints = parts.flatMap fun part => (part.lowerMarkup s).hints := by
  induction parts with
  | nil => simp [lowerInParts]
  | cons part rest ih => simp [lowerInParts, ih]

section

variable (s : Surroundings)

mutual

/-- The walk inside markup reports what is between braces and nothing else. -/
theorem hints_lowerInside : ∀ m : Markup, (m.lowerInside s).hints = bracedHints s m.pieces
  | .element span name attributes children => by
    simp [Markup.lowerInside, Markup.pieces, hints_lowerInAttributes attributes, hints_lowerInChildren children]
  | .fragment span children => by
    simp [Markup.lowerInside, Markup.pieces, hints_lowerInChildren children]

private theorem hints_lowerInAttributes : ∀ attributes : List Attribute,
    (lowerInAttributes s attributes).hints = bracedHints s (attributesPieces attributes)
  | [] => by simp [lowerInAttributes, attributesPieces]
  | head :: rest => by
    simp [lowerInAttributes, attributesPieces, hints_lowerInside_attribute head, hints_lowerInAttributes rest]

private theorem hints_lowerInside_attribute : ∀ head : Attribute,
    (head.lowerInside s).hints = bracedHints s head.pieces
  | .named span name value => by
    simp [Attribute.lowerInside, Attribute.pieces, hints_lowerInside_value value]
  | .spread span argument => by
    simp [Attribute.lowerInside, Attribute.pieces]

private theorem hints_lowerInside_value : ∀ value : AttributeValue,
    (value.lowerInside s).hints = bracedHints s value.pieces
  | .markup m => by simp [AttributeValue.lowerInside, AttributeValue.pieces, hints_lowerInside m]
  | .expression content => by
    simp [AttributeValue.lowerInside, AttributeValue.pieces]
  | .missing => by simp [AttributeValue.lowerInside, AttributeValue.pieces]
  | .text span raw => by simp [AttributeValue.lowerInside, AttributeValue.pieces]
  | .empty => by simp [AttributeValue.lowerInside, AttributeValue.pieces]

private theorem hints_lowerInChildren : ∀ children : List Child,
    (lowerInChildren s children).hints = bracedHints s (childrenPieces children)
  | [] => by simp [lowerInChildren, childrenPieces]
  | child :: rest => by
    simp [lowerInChildren, childrenPieces, hints_lowerInside_child child, hints_lowerInChildren rest]

private theorem hints_lowerInside_child : ∀ child : Child,
    (child.lowerInside s).hints = bracedHints s child.pieces
  | .markup m => by simp [Child.lowerInside, Child.pieces, hints_lowerInside m]
  | .expression content => by
    simp [Child.lowerInside, Child.pieces]
  | .spread span argument => by
    simp [Child.lowerInside, Child.pieces]
  | .text span raw => by simp [Child.lowerInside, Child.pieces]
  | .empty => by simp [Child.lowerInside, Child.pieces]

end

end

private theorem isSome_value_lower (names : MethodNames) (bound : Bool) (child : Child) :
    (child.lower names bound).value.isSome = child.remains := by
  cases child with
  | text span raw =>
    rw [value_lower_text, Child.remains]
    cases h : (childText raw).isEmpty <;> simp
  | expression content => simp [Child.lower, Child.remains]
  | empty => simp [Child.lower, Child.remains]
  | spread span argument => simp [Child.lower, Child.remains]
  | markup m => simp [Child.lower, Child.remains]

private theorem remains_lowerInside (s : Surroundings) (child : Child) :
    (child.lowerInside s).value.remains = child.remains := by
  cases child <;> simp [Child.lowerInside, Child.remains]

/-- Arguments are left exactly if children remain, whatever is lowered between their braces. -/
private theorem isEmpty_value_lowerChildren (s : Surroundings) (children : List Child) :
    (lowerChildren s.names s.bound (lowerInChildren s children).value).value.isEmpty =
      !children.any Child.remains := by
  induction children with
  | nil => simp [lowerInChildren, lowerChildren]
  | cons child rest ih =>
    have hchild : ((child.lowerInside s).value.lower s.names s.bound).value.toList.isEmpty = !child.remains := by
      rw [← remains_lowerInside s child, ← isSome_value_lower s.names s.bound]
      cases ((child.lowerInside s).value.lower s.names s.bound).value <;> rfl
    have happend (first others : List Tree) : (first ++ others).isEmpty = (first.isEmpty && others.isEmpty) := by
      cases first <;> rfl
    simp [lowerInChildren, lowerChildren, happend, hchild, ih]

section

variable (s : Surroundings)

mutual

/-- The lowering of markup that was walked reports the elements that stand directly in it. -/
theorem hints_lower_lowerInside : ∀ m : Markup,
    ((m.lowerInside s).value.lower s.names s.bound).hints = elementHints s m.pieces
  | .element span name attributes children => by
    have hfilled : (if !children.any Child.remains then [] else [span]) =
        filledSpans [(span, children.any Child.remains)] := by
      cases children.any Child.remains <;> rfl
    simp only [Markup.lowerInside, Logged.value_bind, Logged.value_pure, hints_lower_element, Markup.pieces,
      elementHints_append, hints_lowerAttributes attributes, hints_lowerChildren children,
      isEmpty_value_lowerChildren, hfilled, elementHints_element]
  | .fragment span children => by
    simp [Markup.lowerInside, Markup.lower, Markup.pieces, hints_lowerChildren children]

private theorem hints_lowerAttributes : ∀ attributes : List Attribute,
    (lowerAttributes s.names s.bound (lowerInAttributes s attributes).value).hints =
      elementHints s (attributesPieces attributes)
  | [] => by simp [lowerInAttributes, lowerAttributes, attributesPieces]
  | head :: rest => by
    simp [lowerInAttributes, lowerAttributes, attributesPieces, hints_lower_attribute head,
      hints_lowerAttributes rest]

private theorem hints_lower_attribute : ∀ head : Attribute,
    ((head.lowerInside s).value.lower s.names s.bound).hints = elementHints s head.pieces
  | .named span name value => by
    simp [Attribute.lowerInside, Attribute.lower, Attribute.pieces, hints_lower_value span value]
  | .spread span argument => by
    simp [Attribute.lowerInside, Attribute.lower, Attribute.pieces]

private theorem hints_lower_value (span : Span) : ∀ value : AttributeValue,
    ((value.lowerInside s).value.lower s.names s.bound span).hints = elementHints s value.pieces
  | .markup m => by
    simp [AttributeValue.lowerInside, AttributeValue.lower, AttributeValue.pieces, hints_lower_lowerInside m]
  | .expression content => by
    simp [AttributeValue.lowerInside, AttributeValue.lower, AttributeValue.pieces]
  | .missing => by simp [AttributeValue.lowerInside, AttributeValue.lower, AttributeValue.pieces]
  | .text _ raw => by simp [AttributeValue.lowerInside, AttributeValue.lower, AttributeValue.pieces]
  | .empty => by simp [AttributeValue.lowerInside, AttributeValue.lower, AttributeValue.pieces]

private theorem hints_lowerChildren : ∀ children : List Child,
    (lowerChildren s.names s.bound (lowerInChildren s children).value).hints =
      elementHints s (childrenPieces children)
  | [] => by simp [lowerInChildren, lowerChildren, childrenPieces]
  | child :: rest => by
    simp [lowerInChildren, lowerChildren, childrenPieces, hints_lower_child child, hints_lowerChildren rest]

private theorem hints_lower_child : ∀ child : Child,
    ((child.lowerInside s).value.lower s.names s.bound).hints = elementHints s child.pieces
  | .markup m => by simp [Child.lowerInside, Child.lower, Child.pieces, hints_lower_lowerInside m]
  | .expression content => by
    simp [Child.lowerInside, Child.lower, Child.pieces]
  | .spread span argument => by
    simp [Child.lowerInside, Child.lower, Child.pieces]
  | .text span raw => by simp [Child.lowerInside, Child.pieces]
  | .empty => by simp [Child.lowerInside, Child.lower, Child.pieces]

end

end

/-- Markup where an expression stands reports what is between braces, and then its elements. -/
theorem hints_lowerMarkup_pieces (s : Surroundings) (m : Markup) :
    ((Tree.markup m).lowerMarkup s).hints = bracedHints s m.pieces ++ elementHints s m.pieces := by
  rw [hints_lowerMarkup_markup, hints_lowerInside, hints_lower_lowerInside]

/-- The walk reports every element with remaining children exactly once. -/
theorem hints_lowerMarkup_perm (t : Tree) (s : Surroundings) : (t.lowerMarkup s).hints.Perm t.calls := by
  induction t using Tree.piecewise generalizing s with
  | node form span parts ih =>
    rw [hints_lowerMarkup_node, hints_lowerInParts, calls_node]
    exact List.Perm.flatMap_left parts fun part hpart => ih part hpart (s.enter form)
  | markup m ih =>
    have hpieces : ∀ piece ∈ m.pieces, (piece.hints s).Perm piece.calls := by
      intro piece hpiece
      cases piece with
      | element span filled => exact .refl _
      | braces content => exact ih content hpiece s
    rw [hints_lowerMarkup_pieces, calls_markup]
    calc (bracedHints s m.pieces ++ elementHints s m.pieces).Perm (m.pieces.flatMap (Piece.hints s)) := by
          rw [bracedHints, elementHints, ← List.flatMap_append]
          exact (List.filter_append_perm Piece.isBraced m.pieces).flatMap_right (Piece.hints s)
      _ |>.Perm (m.pieces.flatMap Piece.calls) := List.Perm.flatMap_left m.pieces hpieces

theorem Piece.hints_perm (piece : Piece) (s : Surroundings) : (piece.hints s).Perm piece.calls :=
  match piece with
  | .element _ _ => .refl _
  | .braces content => hints_lowerMarkup_perm content s

end JsxLowering
