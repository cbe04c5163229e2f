import JsxLowering.Proofs.DraftPlaces
import JsxLowering.Session

/-!
# Nested spans

In a source tree as it is read, the span of every node lies inside the span of the node around it, and the attributes of
an element come one after the other (`Tree.isNested`).  A generated call has nodes with the span of the element, of its
name, of an attribute, of the whole attribute list or of a text, and takes over what stands between braces as it is.
All these spans are nested again (`isNested_fill_draft`): the object of an attribute list reaches from the first
attribute to the last, so the order of the attributes is what keeps each property inside it.
-/

namespace JsxLowering

/-- The span starts no later than it ends and lies inside the other one. -/
def Span.Within (s outer : Span) : Prop := s.start ≤ s.stop ∧ s.Inside outer

instance (s outer : Span) : Decidable (s.Within outer) :=
  inferInstanceAs (Decidable (s.start ≤ s.stop ∧ s.Inside outer))

theorem Span.Within.trans {s t u : Span} (h : s.Within t) (k : t.Within u) : s.Within u := ⟨h.1, h.2.trans k.2⟩

theorem Span.Within.self {s outer : Span} (h : s.Within outer) : s.Within s := ⟨h.1, .refl s⟩

/-- A form that stands for something in the source. -/
def Form.isWritten : Form → Bool
  | .absent => false
  | _ => true

theorem isPresent_node (form : Form) (span : Span) (parts : List Tree) :
    (Tree.node form span parts).isPresent = form.isWritten := by
  cases form <;> rfl

/-! ### Nested source trees -/

/-- The names in a dotted name lie inside each other, the longest outermost. -/
def DottedName.isNested (outer : Span) : DottedName → Bool
  | head span _ => span.Within outer
  | self span => span.Within outer
  | dot span object propertySpan _ => span.Within outer && object.isNested span && propertySpan.Within span

/-- An element name lies inside the given span, and its parts inside it. -/
def ElementName.isNested (outer : Span) : ElementName → Bool
  | plain span _ => span.Within outer
  | self span => span.Within outer
  | dotted span object propertySpan property => (DottedName.dot span object propertySpan property).isNested outer
  | namespaced span _ _ => span.Within outer

/-- Attributes that come one after the other. -/
def inOrder (attributes : List Attribute) : Bool :=
  attributes.Pairwise fun a b => a.span.stop ≤ b.span.start

mutual

/-- A tree lies inside the given span, and every node of it inside the node around it.  A part that is not written has
no span and nothing inside it. -/
def Tree.isNested (outer : Span) : Tree → Bool
  | .node form span parts => if form.isWritten then span.Within outer && partsNested span parts else parts.isEmpty
  | .markup m => m.isNested outer

def partsNested (outer : Span) : List Tree → Bool
  | [] => true
  | part :: rest => part.isNested outer && partsNested outer rest

/-- Markup lies inside the given span, and everything in it is nested; the attributes of elements are in order. -/
def Markup.isNested (outer : Span) : Markup → Bool
  | .element span name attributes children => span.Within outer && name.isNested span && inOrder attributes &&
    attributesNested span attributes && childrenNested span children
  | .fragment span children => span.Within outer && childrenNested span children

def attributesNested (outer : Span) : List Attribute → Bool
  | [] => true
  | head :: rest => head.isNested outer && attributesNested outer rest

def Attribute.isNested (outer : Span) : Attribute → Bool
  | .named span name value => span.Within outer && name.span.Within span && value.isNested span
  | .spread span argument => span.Within outer && argument.isNested span

def AttributeValue.isNested (outer : Span) : AttributeValue → Bool
  | .missing => true
  | .text span _ => span.Within outer
  | .expression content => content.isNested outer
  | .empty => true
  | .markup m => m.isNested outer

def childrenNested (outer : Span) : List Child → Bool
  | [] => true
  | child :: rest => child.isNested outer && childrenNested outer rest

def Child.isNested (outer : Span) : Child → Bool
  | .text span _ => span.Within outer
  | .expression content => content.isNested outer
  | .empty => true
  | .spread span argument => span.Within outer && argument.isNested span
  | .markup m => m.isNested outer

end

section

variable {outer span : Span}

theorem isNested_node_iff {form : Form} {parts : List Tree} (hform : form.isWritten = true) :
    (Tree.node form span parts).isNested outer = true ↔ span.Within outer ∧ partsNested span parts = true := by
  rw [Tree.isNested, hform]
  simp

theorem isNested_element_iff {name : ElementName} {attributes : List Attribute} {children : List Child} :
    (Markup.element span name attributes children).isNested outer = true ↔
      span.Within outer ∧ name.isNested span = true ∧ inOrder attributes = true ∧
        attributesNested span attributes = true ∧ childrenNested span children = true := by
  simp only [Markup.isNested, Bool.and_eq_true, decide_eq_true_eq, and_assoc]

theorem isNested_fragment_iff {children : List Child} :
    (Markup.fragment span children).isNested outer = true ↔
      span.Within outer ∧ childrenNested span children = true := by
  simp only [Markup.isNested, Bool.and_eq_true, decide_eq_true_eq]

theorem partsNested_eq_all (parts : List Tree) : partsNested outer parts = parts.all (·.isNested outer) := by
  induction parts with
  | nil => rw [partsNested, List.all_nil]
  | cons part rest ih => rw [partsNested, ih, List.all_cons]

theorem attributesNested_eq_all (attributes : List Attribute) :
    attributesNested outer attributes = attributes.all (·.isNested outer) := by
  induction attributes with
  | nil => rw [attributesNested, List.all_nil]
  | cons head rest ih => rw [attributesNested, ih, List.all_cons]

theorem childrenNested_eq_all (children : List Child) :
    childrenNested outer children = children.all (·.isNested outer) := by
  induction children with
  | nil => rw [childrenNested, List.all_nil]
  | cons child rest ih => rw [childrenNested, ih, List.all_cons]

theorem Attribute.within_of_isNested {head : Attribute} (h : head.isNested outer = true) :
    head.span.Within outer := by
  cases head with
  | named span name value =>
    simp only [Attribute.isNested, Bool.and_eq_true, decide_eq_true_eq] at h
    exact h.1.1
  | spread span argument =>
    simp only [Attribute.isNested, Bool.and_eq_true, decide_eq_true_eq] at h
    exact h.1

theorem Markup.within_of_isNested {m : Markup} (h : m.isNested outer = true) : m.span.Within outer := by
  cases m with
  | element span name attributes children => exact (isNested_element_iff.1 h).1
  | fragment span children => exact (isNested_fragment_iff.1 h).1

theorem Tree.within_of_isNested {t : Tree} (h : t.isNested outer = true) (hpresent : t.isPresent = true) :
    t.span.Within outer := by
  cases t with
  | node form span parts =>
    rw [isPresent_node] at hpresent
    exact ((isNested_node_iff hpresent).1 h).1
  | markup m =>
    rw [Tree.isNested] at h
    exact m.within_of_isNested h

end

/-! ### Generated nodes -/

section

variable {outer span : Span}

theorem isNested_leaf {form : Form} (h : span.Within outer) : (Tree.node form span []).isNested outer = true := by
  rw [Tree.isNested, partsNested]
  simp [h]

theorem isNested_parts {form : Form} {parts : List Tree} (hform : form.isWritten = true) (h : span.Within outer)
    (hparts : ∀ part ∈ parts, part.isNested span = true) : (Tree.node form span parts).isNested outer = true := by
  rw [isNested_node_iff hform, partsNested_eq_all]
  exact ⟨h, List.all_eq_true.2 hparts⟩

theorem isNested_pair {form : Form} {first second : Tree} (hform : form.isWritten = true) (h : span.Within outer)
    (hfirst : first.isNested span = true) (hsecond : second.isNested span = true) :
    (Tree.node form span [first, second]).isNested outer = true := by
  refine isNested_parts hform h fun part hpart => ?_
  rcases List.mem_cons.1 hpart with rfl | hpart
  · exact hfirst
  · obtain rfl := List.mem_singleton.1 hpart
    exact hsecond

theorem DottedName.isNested_path {d : DottedName} (h : d.isNested outer = true) : d.path.isNested outer = true := by
  induction d generalizing outer with
  | head span name =>
    have hspan : span.Within outer := of_decide_eq_true h
    exact isNested_leaf hspan
  | self span =>
    have hspan : span.Within outer := of_decide_eq_true h
    exact isNested_leaf hspan
  | dot span object propertySpan property ih =>
    simp only [DottedName.isNested, Bool.and_eq_true, decide_eq_true_eq] at h
    obtain ⟨⟨hspan, hobject⟩, hproperty⟩ := h
    exact isNested_pair rfl hspan (ih hobject) (isNested_leaf hproperty)

theorem isNested_simpleTag (name : String) (h : span.Within outer) (whole : Span) :
    ((simpleTag span name).argument whole).isNested outer = true := by
  unfold simpleTag
  split
  · exact isNested_leaf h
  · split
    · exact isNested_leaf h
    · exact isNested_leaf h

/-- Only the tag of a name in a namespace has the span of the element; all others have that of the name. -/
theorem isNested_tag {name : ElementName} {bound : Bool} (hspan : span.Within outer) (h : name.isNested span = true) :
    ((name.tag bound).argument span).isNested span = true := by
  cases name with
  | plain nameSpan text =>
    have hname : nameSpan.Within span := of_decide_eq_true h
    exact isNested_simpleTag text hname span
  | self nameSpan =>
    have hname : nameSpan.Within span := of_decide_eq_true h
    cases bound with
    | true => exact isNested_leaf hname
    | false => exact isNested_simpleTag "this" hname span
  | dotted nameSpan object propertySpan property => exact DottedName.isNested_path h
  | namespaced nameSpan space text => exact isNested_leaf hspan.self

theorem isNested_callee (names : MethodNames) (method : String) (h : span.Within outer) :
    (names.callee span method).isNested outer = true := by
  exact isNested_pair rfl h (isNested_leaf h.self) (isNested_leaf h.self)

theorem isNested_literalCall (names : MethodNames) (text : String) (h : span.Within outer) :
    (names.literalCall span text).isNested outer = true := by
  exact isNested_pair rfl h (isNested_callee names names.literal h.self) (isNested_leaf h.self)

theorem isNested_componentCall (names : MethodNames) {tag attributes : Tree} {children : List Tree}
    (h : span.Within outer) (htag : tag.isNested span = true) (hattributes : attributes.isNested span = true)
    (hchildren : ∀ child ∈ children, child.isNested span = true) :
    (names.componentCall span tag (some attributes) children).isNested outer = true := by
  refine isNested_parts rfl h fun part hpart => ?_
  rcases List.mem_cons.1 hpart with rfl | hpart
  · exact isNested_callee names names.component h.self
  · rcases List.mem_cons.1 hpart with rfl | hpart
    · exact htag
    · rcases List.mem_cons.1 hpart with rfl | hpart
      · exact hattributes
      · exact hchildren part hpart

theorem isNested_key {name : AttributeName} (h : name.span.Within outer) : name.key.isNested outer = true := by
  unfold AttributeName.key
  split
  · exact isNested_leaf h
  · exact isNested_leaf h

end

/-! ### The span of an attribute list -/

section

variable {outer : Span} {attributes : List Attribute}

theorem exists_attributesSpan_eq (first : Attribute) (rest : List Attribute) :
    ∃ before last, first :: rest = before ++ [last] ∧
      attributesSpan (first :: rest) = first.span.through last.span := by
  rcases List.eq_nil_or_concat rest with rfl | ⟨between, last, rfl⟩
  · exact ⟨[], first, rfl, rfl⟩
  · refine ⟨first :: between, last, by simp, ?_⟩
    rw [attributesSpan]
    simp

/-- Attributes that come one after the other lie between the start of the first and the end of the last. -/
theorem within_attributesSpan (hnested : ∀ head ∈ attributes, head.span.Within outer)
    (horder : inOrder attributes = true) {head : Attribute} (hhead : head ∈ attributes) :
    head.span.Within (attributesSpan attributes) := by
  have hpairs : attributes.Pairwise fun a b => a.span.stop ≤ b.span.start := of_decide_eq_true horder
  have hproper : ∀ other ∈ attributes, other.span.start ≤ other.span.stop := fun other h => (hnested other h).1
  cases attributes with
  | nil => cases hhead
  | cons first rest =>
    obtain ⟨before, last, hlast, hspan⟩ := exists_attributesSpan_eq first rest
    have hstart : first.span.start ≤ head.span.start := by
      rcases List.mem_cons.1 hhead with rfl | hrest
      · exact Nat.le_refl _
      · have hafter := (List.pairwise_cons.1 hpairs).1 head hrest
        have hfirst := hproper first List.mem_cons_self
        omega
    have hstop : head.span.stop ≤ last.span.stop := by
      rw [hlast] at hhead hpairs hproper
      rcases List.mem_append.1 hhead with hbefore | hsame
      · have hafter := (List.pairwise_append.1 hpairs).2.2 head hbefore last (List.mem_singleton.2 rfl)
        have hproperLast := hproper last (List.mem_append_right before (List.mem_singleton.2 rfl))
        omega
      · obtain rfl := List.mem_singleton.1 hsame
        exact Nat.le_refl _
    rw [hspan]
    exact ⟨hproper head hhead, hstart, hstop⟩

theorem attributesSpan_within (hnested : ∀ head ∈ attributes, head.span.Within outer)
    (horder : inOrder attributes = true) (hfilled : attributes ≠ []) : (attributesSpan attributes).Within outer := by
  cases attributes with
  | nil => exact absurd rfl hfilled
  | cons first rest =>
    have hhead : first ∈ first :: rest := List.mem_cons_self
    have hinside := within_attributesSpan hnested horder hhead
    obtain ⟨before, last, hlast, hspan⟩ := exists_attributesSpan_eq first rest
    have hmem : last ∈ first :: rest := by rw [hlast]; simp
    have hfirst := hnested first hhead
    have hstop := (hnested last hmem).2.2
    rw [hspan] at hinside ⊢
    exact ⟨Nat.le_trans hinside.1 hinside.2.2, hfirst.2.1, hstop⟩

end

/-! ### Lowered trees -/

section

variable {deep : Bool} (names : MethodNames) (bound : List Ancestor → Bool)

theorem isNested_fill_between {outer : Span} {content : Tree} {d : Draft} (hkept : content.isNested outer = true)
    (hlowered : (d.fill names bound).isNested outer = true) :
    ((Draft.between deep content d).fill names bound).isNested outer = true := by
  cases deep with
  | true => exact hlowered
  | false =>
    rw [Draft.between, if_neg Bool.false_ne_true, Draft.fill]
    exact hkept

-- One induction for markup that is lowered alone and for whole programs: `deep` says whether what stands between braces
-- is lowered too.  The parts of an attribute list are nested in the span of the list, not only in that of the element.
mutual

/-- A nested tree stays nested when it is lowered. -/
theorem Tree.isNested_fill_draft : ∀ (t : Tree) (ancestors : List Ancestor) (outer : Span),
    t.isNested outer = true → ((t.draft deep ancestors).fill names bound).isNested outer = true
  | .node form span parts, ancestors, outer, h => by
    rw [Tree.draft]
    refine isNested_fill_between names bound h ?_
    rw [Draft.fill]
    cases hform : form.isWritten with
    | false =>
      rw [Tree.isNested, hform, if_neg Bool.false_ne_true] at h ⊢
      obtain rfl := List.isEmpty_iff.1 h
      rw [partDrafts, Draft.fillAll, List.isEmpty_nil]
    | true =>
      rw [isNested_node_iff hform] at h ⊢
      exact ⟨h.1, partsNested_fill_drafts parts (.node form :: ancestors) span h.2⟩
  | .markup m, ancestors, outer, h => by
    rw [Tree.isNested] at h
    rw [Tree.draft]
    exact m.isNested_fill_draft ancestors outer h

private theorem partsNested_fill_drafts : ∀ (parts : List Tree) (ancestors : List Ancestor) (outer : Span),
    partsNested outer parts = true →
      partsNested outer (Draft.fillAll names bound (partDrafts deep ancestors parts)) = true
  | [], ancestors, outer, h => by rw [partDrafts, Draft.fillAll, partsNested]
  | part :: rest, ancestors, outer, h => by
    rw [partsNested, Bool.and_eq_true] at h
    rw [partDrafts, Draft.fillAll, partsNested, Bool.and_eq_true]
    exact ⟨part.isNested_fill_draft ancestors outer h.1, partsNested_fill_drafts rest ancestors outer h.2⟩

private theorem Markup.isNested_fill_draft : ∀ (m : Markup) (ancestors : List Ancestor) (outer : Span),
    m.isNested outer = true → ((m.draft deep ancestors).fill names bound).isNested outer = true
  | .element span name attributes children, ancestors, outer, h => by
    obtain ⟨hspan, hname, horder, hattributes, hchildren⟩ := isNested_element_iff.1 h
    have hinside : ∀ head ∈ attributes, head.span.Within span := by
      rw [attributesNested_eq_all, List.all_eq_true] at hattributes
      exact fun head hhead => head.within_of_isNested (hattributes head hhead)
    rw [Markup.draft, Draft.fill]
    refine isNested_componentCall names hspan (isNested_tag hspan hname) ?_ ?_
    · cases hempty : attributes.isEmpty with
      | true => exact isNested_leaf hspan.self
      | false =>
        have hfilled : attributes ≠ [] := List.isEmpty_eq_false_iff.1 hempty
        have hlist := attributesSpan_within hinside horder hfilled
        rw [if_neg Bool.false_ne_true, Draft.fill, isNested_node_iff rfl]
        refine ⟨hlist, ?_⟩
        exact partsNested_fill_attributes attributes (.element :: ancestors) span _ hattributes
          fun head hhead => within_attributesSpan hinside horder hhead
    · have hlowered := partsNested_fill_children children (.element :: ancestors) span hchildren
      rwa [partsNested_eq_all, List.all_eq_true] at hlowered
  | .fragment span children, ancestors, outer, h => by
    obtain ⟨hspan, hchildren⟩ := isNested_fragment_iff.1 h
    rw [Markup.draft, Draft.fill, isNested_node_iff rfl]
    exact ⟨hspan, partsNested_fill_children children (.fragment :: ancestors) span hchildren⟩

private theorem partsNested_fill_attributes :
    ∀ (attributes : List Attribute) (ancestors : List Ancestor) (outer list : Span),
      attributesNested outer attributes = true → (∀ head ∈ attributes, head.span.Within list) →
        partsNested list (Draft.fillAll names bound (attributeDrafts deep ancestors attributes)) = true
  | [], ancestors, outer, list, h, hlist => by rw [attributeDrafts, Draft.fillAll, partsNested]
  | head :: rest, ancestors, outer, list, h, hlist => by
    rw [attributesNested, Bool.and_eq_true] at h
    rw [attributeDrafts, Draft.fillAll, partsNested, Bool.and_eq_true]
    have hhead := hlist head List.mem_cons_self
    have hrest := fun other hother => hlist other (List.mem_cons_of_mem head hother)
    exact ⟨head.isNested_fill_draft ancestors outer list h.1 hhead,
      partsNested_fill_attributes rest ancestors outer list h.2 hrest⟩

private theorem Attribute.isNested_fill_draft :
    ∀ (head : Attribute) (ancestors : List Ancestor) (outer list : Span), head.isNested outer = true →
      head.span.Within list → ((head.draft deep ancestors).fill names bound).isNested list = true
  | .named span name value, ancestors, outer, list, h, hlist => by
    simp only [Attribute.isNested, Bool.and_eq_true, decide_eq_true_eq] at h
    obtain ⟨⟨hspan, hname⟩, hvalue⟩ := h
    rw [Attribute.draft, Draft.fill, Draft.fillAll_eq_map]
    refine isNested_pair rfl hlist ?_ (value.isNested_fill_draft (.named :: ancestors) span hspan.self hvalue)
    rw [Draft.fill]
    exact isNested_key hname
  | .spread span argument, ancestors, outer, list, h, hlist => by
    simp only [Attribute.isNested, Bool.and_eq_true, decide_eq_true_eq] at h
    rw [Attribute.draft, Draft.fill, Draft.fillAll_eq_map]
    refine isNested_parts rfl hlist fun part hpart => ?_
    obtain rfl := List.mem_singleton.1 hpart
    exact isNested_fill_between names bound h.2 (argument.isNested_fill_draft (.braces :: ancestors) span h.2)

private theorem AttributeValue.isNested_fill_draft :
    ∀ (value : AttributeValue) (ancestors : List Ancestor) (span : Span), span.Within span →
      value.isNested span = true → ((value.draft deep ancestors span).fill names bound).isNested span = true
  | .missing, ancestors, span, hspan, h => by
    rw [AttributeValue.draft, Draft.fill]
    exact isNested_leaf hspan
  | .text textSpan raw, ancestors, span, hspan, h => by
    rw [AttributeValue.isNested, decide_eq_true_eq] at h
    rw [AttributeValue.draft, Draft.fill]
    exact isNested_leaf h
  | .expression content, ancestors, span, hspan, h => by
    rw [AttributeValue.isNested] at h
    rw [AttributeValue.draft]
    exact isNested_fill_between names bound h (content.isNested_fill_draft (.braces :: ancestors) span h)
  | .empty, ancestors, span, hspan, h => by
    rw [AttributeValue.draft, Draft.fill]
    exact isNested_leaf hspan
  | .markup m, ancestors, span, hspan, h => by
    rw [AttributeValue.isNested] at h
    rw [AttributeValue.draft]
    exact m.isNested_fill_draft ancestors span h

private theorem partsNested_fill_children : ∀ (children : List Child) (ancestors : List Ancestor) (outer : Span),
    childrenNested outer children = true →
      partsNested outer (Draft.fillAll names bound (childDrafts deep ancestors children)) = true
  | [], ancestors, outer, h => by rw [childDrafts, Draft.fillAll, partsNested]
  | child :: rest, ancestors, outer, h => by
    rw [childrenNested, Bool.and_eq_true] at h
    have hrest := partsNested_fill_children rest ancestors outer h.2
    rw [childDrafts]
    cases hdraft : child.draft deep ancestors with
    | none => exact hrest
    | some d =>
      have hchild := child.isNested_fill_draft ancestors outer h.1 d hdraft
      rw [Option.toList_some, List.singleton_append, Draft.fillAll, partsNested, hchild, hrest, Bool.and_self]

private theorem Child.isNested_fill_draft : ∀ (child : Child) (ancestors : List Ancestor) (outer : Span),
    child.isNested outer = true →
      ∀ d, child.draft deep ancestors = some d → (d.fill names bound).isNested outer = true
  | .text span raw, ancestors, outer, h => by
    intro d hd
    rw [Child.isNested, decide_eq_true_eq] at h
    rw [Child.draft] at hd
    split at hd
    · cases hd
    · obtain rfl := Option.some.inj hd
      rw [Draft.fill]
      exact isNested_literalCall names _ h
  | .expression content, ancestors, outer, h => by
    intro d hd
    rw [Child.isNested] at h
    rw [Child.draft] at hd
    obtain rfl := Option.some.inj hd
    exact isNested_fill_between names bound h (content.isNested_fill_draft (.braces :: ancestors) outer h)
  | .empty, ancestors, outer, h => by
    intro d hd
    rw [Child.draft] at hd
    cases hd
  | .spread span argument, ancestors, outer, h => by
    intro d hd
    simp only [Child.isNested, Bool.and_eq_true, decide_eq_true_eq] at h
    rw [Child.draft] at hd
    obtain rfl := Option.some.inj hd
    rw [Draft.fill, Draft.fillAll_eq_map]
    refine isNested_parts rfl h.1 fun part hpart => ?_
    obtain rfl := List.mem_singleton.1 hpart
    exact isNested_fill_between names bound h.2 (argument.isNested_fill_draft (.braces :: ancestors) span h.2)
  | .markup m, ancestors, outer, h => by
    intro d hd
    rw [Child.isNested] at h
    rw [Child.draft] at hd
    obtain rfl := Option.some.inj hd
    exact m.isNested_fill_draft ancestors outer h

end

end

/-! ### Nodes and the nodes around them -/

section

variable {outer inner : Span} {t u : Tree} {step : Step} {path : List Step}

theorem Tree.isNested_mono (h : t.isNested inner = true) (hinner : inner.Within outer) :
    t.isNested outer = true := by
  cases t with
  | node form span parts =>
    cases hform : form.isWritten with
    | false =>
      rw [Tree.isNested, hform] at h ⊢
      exact h
    | true =>
      rw [isNested_node_iff hform] at h ⊢
      exact ⟨h.1.trans hinner, h.2⟩
  | markup m =>
    rw [Tree.isNested] at h ⊢
    cases m with
    | element span name attributes children =>
      rw [isNested_element_iff] at h ⊢
      exact ⟨h.1.trans hinner, h.2⟩
    | fragment span children =>
      rw [isNested_fragment_iff] at h ⊢
      exact ⟨h.1.trans hinner, h.2⟩

private theorem Attribute.isNested_content {head : Attribute} (h : head.isNested outer = true)
    (hcontent : head.content? = some u) : u.isNested outer = true := by
  have hhead := head.within_of_isNested h
  cases head with
  | spread span argument =>
    simp only [Attribute.isNested, Bool.and_eq_true] at h
    obtain rfl := Option.some.inj hcontent
    exact Tree.isNested_mono h.2 hhead
  | named span name value =>
    simp only [Attribute.isNested, Bool.and_eq_true] at h
    have hvalue := h.2
    cases value with
    | expression content =>
      rw [AttributeValue.isNested] at hvalue
      obtain rfl := Option.some.inj hcontent
      exact Tree.isNested_mono hvalue hhead
    | markup m =>
      rw [AttributeValue.isNested, ← Tree.isNested] at hvalue
      obtain rfl := Option.some.inj hcontent
      exact Tree.isNested_mono hvalue hhead
    | missing => cases hcontent
    | text textSpan raw => cases hcontent
    | empty => cases hcontent

private theorem Child.isNested_content {child : Child} (h : child.isNested outer = true)
    (hcontent : child.content? = some u) : u.isNested outer = true := by
  cases child with
  | expression content =>
    rw [Child.isNested] at h
    obtain rfl := Option.some.inj hcontent
    exact h
  | spread span argument =>
    simp only [Child.isNested, Bool.and_eq_true, decide_eq_true_eq] at h
    obtain rfl := Option.some.inj hcontent
    exact Tree.isNested_mono h.2 h.1
  | markup m =>
    rw [Child.isNested, ← Tree.isNested] at h
    obtain rfl := Option.some.inj hcontent
    exact h
  | text span raw => cases hcontent
  | empty => cases hcontent

/-- A step leads to a tree that is nested in the one it starts from. -/
theorem isNested_of_follow? (h : t.isNested outer = true) (hstep : t.follow? step = some u) :
    u.isNested t.span = true := by
  cases t with
  | node form span parts =>
    cases step with
    | part index =>
      have hmem : u ∈ parts := List.mem_of_getElem? hstep
      cases hform : form.isWritten with
      | false =>
        rw [Tree.isNested, hform] at h
        obtain rfl := List.isEmpty_iff.1 h
        cases hmem
      | true =>
        have hparts := ((isNested_node_iff hform).1 h).2
        rw [partsNested_eq_all, List.all_eq_true] at hparts
        exact hparts u hmem
    | ofAttribute index => cases hstep
    | ofChild index => cases hstep
  | markup m =>
    rw [Tree.isNested] at h
    have hattributes : ∀ head ∈ m.attributes, head.isNested m.span = true := by
      cases m with
      | element span name attributes children =>
        have hall := (isNested_element_iff.1 h).2.2.2.1
        rw [attributesNested_eq_all, List.all_eq_true] at hall
        exact hall
      | fragment span children => exact fun head hhead => by cases hhead
    have hchildren : ∀ child ∈ m.children, child.isNested m.span = true := by
      cases m with
      | element span name attributes children =>
        have hall := (isNested_element_iff.1 h).2.2.2.2
        rw [childrenNested_eq_all, List.all_eq_true] at hall
        exact hall
      | fragment span children =>
        have hall := (isNested_fragment_iff.1 h).2
        rw [childrenNested_eq_all, List.all_eq_true] at hall
        exact hall
    cases step with
    | part index => cases hstep
    | ofAttribute index =>
      obtain ⟨head, hhead, hcontent⟩ := Option.bind_eq_some_iff.1 hstep
      exact head.isNested_content (hattributes head (List.mem_of_getElem? hhead)) hcontent
    | ofChild index =>
      obtain ⟨child, hchild, hcontent⟩ := Option.bind_eq_some_iff.1 hstep
      exact child.isNested_content (hchildren child (List.mem_of_getElem? hchild)) hcontent

theorem exists_isNested_at? (h : t.isNested outer = true) (hpath : t.at? path = some u) :
    ∃ around, u.isNested around = true := by
  induction path generalizing t outer with
  | nil =>
    obtain rfl := Option.some.inj hpath
    exact ⟨outer, h⟩
  | cons step rest ih =>
    obtain ⟨next, hstep, hrest⟩ := Option.bind_eq_some_iff.1 hpath
    exact ih (isNested_of_follow? h hstep) hrest

end

/-! ### Calls and their elements -/

section

variable {deep : Bool} (names : MethodNames) (bound : List Ancestor → Bool)

theorem span_fill_draft (t : Tree) (ancestors : List Ancestor) :
    ((t.draft deep ancestors).fill names bound).span = t.span := by
  cases t with
  | node form span parts =>
    rw [Tree.draft]
    cases deep with
    | true => rw [Draft.between, if_pos rfl, Draft.fill]; rfl
    | false => rw [Draft.between, if_neg Bool.false_ne_true, Draft.fill]
  | markup m =>
    cases m with
    | element span name attributes children => rw [Tree.draft, Markup.draft, Draft.fill]; rfl
    | fragment span children => rw [Tree.draft, Markup.draft, Draft.fill]; rfl

theorem reaches_of_at? {t u : Tree} {path : List Step} (h : t.at? path = some u) : t.reaches true path = true := by
  induction path generalizing t with
  | nil => rfl
  | cons step rest ih =>
    obtain ⟨next, hstep, hrest⟩ := Option.bind_eq_some_iff.1 h
    exact reaches_cons_iff.2 ⟨rfl, next, hstep, ih hrest⟩

theorem exists_call_at?_image {t : Tree} {path : List Step} {span : Span} {name : ElementName}
    {attributes : List Attribute} {children : List Child}
    (hpath : t.at? path = some (.markup (.element span name attributes children)))
    (hreach : t.reaches deep path = true) :
    ∃ arguments, ((t.draft deep []).fill names bound).at? (t.image path) =
      some (.call span (names.callee span names.component) arguments) := by
  have hdraft := at?_image_draft [] hpath hreach
  rw [Tree.draft, Markup.draft] at hdraft
  have hfilled := Draft.at?_fill names bound hdraft
  rw [Draft.fill] at hfilled
  exact ⟨_, hfilled⟩

end

/-- If the spans in an element or a fragment are nested, then so are those in the expression that it becomes: each node
starts no later than it ends and lies inside the node around it, and the outermost one has the span of the markup.  The
call for each element has the span of that element.  The same holds where the markup stands in a program and everything
between its braces is lowered too. -/
theorem lower_keeps_spans_nested (names : MethodNames) (bound : Bool) (m : Markup) (h : m.isNested m.span = true) :
    (m.lower names bound).value.span = m.span ∧ (m.lower names bound).value.isNested m.span = true ∧
    (∀ path parent step child, (m.lower names bound).value.at? path = some parent →
      parent.follow? step = some child → child.isPresent = true → child.span.Within parent.span) ∧
    (∀ path span name attributes children,
      (Tree.markup m).at? path = some (.markup (.element span name attributes children)) →
      (Tree.markup m).reaches false path = true →
      ∃ arguments, (m.lower names bound).value.at? ((Tree.markup m).image path) =
        some (.call span (names.callee span names.component) arguments)) ∧
    ∀ options program place, program.at? place = some (.markup m) →
      ∃ lowered, (lowerProgram options program).value.at? (program.image place) = some lowered ∧
        lowered.span = m.span ∧ lowered.isNested m.span = true := by
  have hmarkup : (Tree.markup m).isNested m.span = true := by rwa [Tree.isNested]
  have hvalue : (m.lower names bound).value = ((Tree.markup m).draft false []).fill names fun _ => bound := by
    rw [Tree.draft]
    exact m.value_lower_eq_fill names bound []
  have hlowered : (m.lower names bound).value.isNested m.span = true := by
    rw [hvalue]
    exact Tree.isNested_fill_draft names _ _ [] m.span hmarkup
  refine ⟨?_, hlowered, ?_, ?_, ?_⟩
  · rw [hvalue, span_fill_draft]
    rfl
  · intro path parent step child hpath hstep hpresent
    obtain ⟨around, hparent⟩ := exists_isNested_at? hlowered hpath
    exact Tree.within_of_isNested (isNested_of_follow? hparent hstep) hpresent
  · intro path span name attributes children hpath hreach
    rw [hvalue]
    exact exists_call_at?_image names _ hpath hreach
  · intro options program place hplace
    have hdraft := at?_image_draft [] hplace (reaches_of_at? hplace)
    have hfilled := Draft.at?_fill options.names (boundAt (options.dialect.loading == .script)) hdraft
    rw [← lowerProgram_eq_fill] at hfilled
    refine ⟨_, hfilled, ?_, Tree.isNested_fill_draft options.names _ _ _ m.span hmarkup⟩
    rw [span_fill_draft]
    rfl

/-- The element `<a.b x="1" {...p} y=<c:d/>>t{<this>{q}</this>}{...r}</a.b>` as it is read: the object of its attributes
reaches from the first to the last, and the element in the last attribute has the span of its own call. -/
theorem lower_read_spans : ∃ m : Markup,
    markupOf "<a.b x=\"1\" {...p} y=<c:d/>>t{<this>{q}</this>}{...r}</a.b>" false = .ok m ∧
      m.isNested m.span = true ∧ (m.lower .standard false).value.isNested m.span = true ∧
      ((m.lower .standard false).value.at? [.part 2]).map Tree.span = some ⟨5, 26⟩ ∧
      ((m.lower .standard false).value.at? [.part 2, .part 2, .part 1]).map Tree.span = some ⟨20, 26⟩ := by
  have hread : (markupOf "<a.b x=\"1\" {...p} y=<c:d/>>t{<this>{q}</this>}{...r}</a.b>" false).toOption.map
      (fun m => (m.isNested m.span, ((m.lower .standard false).value.at? [.part 2]).map Tree.span,
        ((m.lower .standard false).value.at? [.part 2, .part 2, .part 1]).map Tree.span)) =
        some (true, some ⟨5, 26⟩, some ⟨20, 26⟩) := by
    decide +kernel
  obtain ⟨m, hm, hfacts⟩ := ok_of_toOption hread
  rw [Prod.mk.injEq, Prod.mk.injEq] at hfacts
  obtain ⟨hnested, hlist, hlast⟩ := hfacts
  exact ⟨m, hm, hnested, (lower_keeps_spans_nested .standard false m hnested).2.1, hlist, hlast⟩

end JsxLowering
