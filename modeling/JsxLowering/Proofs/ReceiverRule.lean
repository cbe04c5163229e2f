import JsxLowering.Proofs.Slots

/-!
# The rule for the receiver

In the host language one walk outwards from a place decides what `this` is there: the first function, static block or
field value that is met binds it (`nearestBinder?`), everything else on the way is passed over, and a program binds it
where it is a script.  The walk over a program uses two look-ups instead, one for field values at any height and one for
the scopes; together they always agree with the single walk (`boundAt_iff`).

The receiver found so decides the tag of every element, and it is reported with every element that stands where an
expression stands (`lowerProgram_receiver_rule`).
-/

namespace JsxLowering

/-! ### The nearest binder -/

/-- What gives `this` its value. -/
inductive Binder where
  /-- A function or method that is no arrow function. -/
  | function
  /-- A static block of a class. -/
  | staticBlock
  /-- The value that a class field starts with. -/
  | fieldValue
  deriving DecidableEq, Repr

/-- The binder that an ancestor is, if it is one. -/
def Ancestor.binder? : Ancestor → Option Binder
  | .node (.function _ _ _ _ _) => some .function
  | .node .staticBlock => some .staticBlock
  | .node .fieldValue => some .fieldValue
  | _ => none

/-- The first binder on the way outwards. -/
def nearestBinder? (ancestors : List Ancestor) : Option Binder :=
  ancestors.findSome? Ancestor.binder?

/-- Whether a frame is that of a binder. -/
private def Frame.binds : Frame → Bool
  | .function => true
  | .staticBlock => true
  | .fieldValue => true
  | .arrow => false
  | .plain => false

/-- The two look-ups together stop at a binder and pass over everything else. -/
private theorem receiverBound_cons (script : Bool) (frame : Frame) (outer : List Frame) :
    receiverBound script (frame :: outer) = (frame.binds || receiverBound script outer) := by
  cases frame with
  | function => simp [receiverBound, scopeBinds, Frame.binds]
  | staticBlock => simp [receiverBound, scopeBinds, Frame.binds]
  | fieldValue => simp [receiverBound, inFieldValue, Frame.binds]
  | arrow => rfl
  | plain => rfl

private theorem isSome_binder? (ancestor : Ancestor) : ancestor.binder?.isSome = ancestor.frame.binds := by
  cases ancestor with
  | node form => cases form <;> rfl
  | element => rfl
  | fragment => rfl
  | named => rfl
  | braces => rfl

/-- Whether `this` has a receiver is decided by the nearest binder, and by the program if there is none. -/
theorem boundAt_iff (script : Bool) (ancestors : List Ancestor) : boundAt script ancestors = true ↔
    (∃ binder, nearestBinder? ancestors = some binder) ∨ (nearestBinder? ancestors = none ∧ script = true) := by
  unfold boundAt nearestBinder?
  induction ancestors with
  | nil => simp [receiverBound, inFieldValue, scopeBinds]
  | cons ancestor outer ih =>
    rw [List.map_cons, receiverBound_cons, ← isSome_binder?, Bool.or_eq_true, ih, List.findSome?_cons]
    cases hbinder : ancestor.binder? with
    | none => simp
    | some binder => simp

/-! ### The surroundings of a place -/

/-- What the walk knows at the parts of a tree, given what it knows at the tree. -/
def Tree.surroundingsInside (s : Surroundings) : Tree → Surroundings
  | .node form _ _ => s.enter form
  | .markup _ => s

/-- What the walk knows at the tree that steps lead to, given what it knows at the tree they start from. -/
def Tree.surroundingsAt : Tree → List Step → Surroundings → Surroundings
  | _, [], s => s
  | t, step :: rest, s => ((t.follow? step).map (·.surroundingsAt rest (t.surroundingsInside s))).getD s

private theorem Surroundings.Describes.attribute {s : Surroundings} {ancestors : List Ancestor}
    (h : s.Describes ancestors) (head : Attribute) : s.Describes (head.inside ancestors) := by
  cases head with
  | named span name value =>
    have hnamed := h.cons_plain .named rfl
    cases value with
    | expression content => exact hnamed.cons_plain .braces rfl
    | markup m => exact hnamed
    | missing => exact hnamed
    | text textSpan raw => exact hnamed
    | empty => exact hnamed
  | spread span argument => exact h.cons_plain .braces rfl

private theorem Surroundings.Describes.child {s : Surroundings} {ancestors : List Ancestor}
    (h : s.Describes ancestors) (child : Child) : s.Describes (child.inside ancestors) := by
  cases child with
  | expression content => exact h.cons_plain .braces rfl
  | spread span argument => exact h.cons_plain .braces rfl
  | text span raw => exact h
  | empty => exact h
  | markup m => exact h

/-- The surroundings describe the ancestors one step further in. -/
private theorem Surroundings.Describes.step {s : Surroundings} {ancestors : List Ancestor} (h : s.Describes ancestors)
    {t u : Tree} {step : Step} (hstep : t.follow? step = some u) :
    (t.surroundingsInside s).Describes (t.stepAncestors ancestors step) := by
  cases t with
  | node form span parts => exact h.enter form
  | markup m =>
    have hm : s.Describes (m.ancestor :: ancestors) := h.cons_plain m.ancestor (by cases m <;> rfl)
    cases step with
    | part index => cases hstep
    | ofAttribute index =>
      obtain ⟨head, hhead, -⟩ := Option.bind_eq_some_iff.1 hstep
      rw [Tree.stepAncestors, hhead]
      exact hm.attribute head
    | ofChild index =>
      obtain ⟨child, hchild, -⟩ := Option.bind_eq_some_iff.1 hstep
      rw [Tree.stepAncestors, hchild]
      exact hm.child child

/-- At every place the walk knows the ancestors of the place, as far as they matter for a receiver. -/
theorem describes_surroundingsAt {t u : Tree} {path : List Step} (hpath : t.at? path = some u) {s : Surroundings}
    {ancestors : List Ancestor} (h : s.Describes ancestors) :
    (t.surroundingsAt path s).Describes (t.ancestorsAt path ancestors) := by
  induction path generalizing t s ancestors with
  | nil => exact h
  | cons step rest ih =>
    obtain ⟨v, hstep, hrest⟩ := Option.bind_eq_some_iff.1 hpath
    rw [Tree.surroundingsAt, Tree.ancestorsAt, hstep]
    exact ih hrest (h.step hstep)

theorem script_surroundingsAt (t : Tree) (path : List Step) (s : Surroundings) :
    (t.surroundingsAt path s).script = s.script := by
  induction path generalizing t s with
  | nil => rfl
  | cons step rest ih =>
    rw [Tree.surroundingsAt]
    cases t.follow? step with
    | none => rfl
    | some u =>
      have hinside : (t.surroundingsInside s).script = s.script := by cases t <;> rfl
      exact (ih u _).trans hinside

/-! ### What is reported -/

/-- Whether a step leads to markup that stands in markup without braces. -/
def Tree.leadsDirectly : Tree → Step → Bool
  | .markup m, step => m.slots.any fun entry => entry.1 == step && entry.2.isDirect
  | .node _ _ _, _ => false

/-- Whether an expression stands at the place that steps lead to: the last of them does not lead directly to markup in
markup. -/
def Tree.standsFree : Tree → List Step → Bool
  | _, [] => true
  | t, step :: rest =>
    !(rest.isEmpty && t.leadsDirectly step) && ((t.follow? step).map (·.standsFree rest)).getD true

/-- What the walk reports inside a slot. -/
private def Slot.records (s : Surroundings) : Slot → List Record
  | .braces content => (content.lowerMarkup s).records
  | .direct m => (m.lowerInside s).records

private theorem records_lowerInParts (s : Surroundings) (parts : List Tree) :
    (lowerInParts s parts).records = parts.flatMap fun part => (part.lowerMarkup s).records := by
  induction parts with
  | nil => simp [lowerInParts]
  | cons part rest ih => simp [lowerInParts, ih]

private theorem records_lowerInAttributes (s : Surroundings) (attributes : List Attribute) :
    (lowerInAttributes s attributes).records = attributes.flatMap fun head => (head.lowerInside s).records := by
  induction attributes with
  | nil => simp [lowerInAttributes]
  | cons head rest ih => simp [lowerInAttributes, ih]

private theorem records_lowerInChildren (s : Surroundings) (children : List Child) :
    (lowerInChildren s children).records = children.flatMap fun child => (child.lowerInside s).records := by
  induction children with
  | nil => simp [lowerInChildren]
  | cons child rest ih => simp [lowerInChildren, ih]

private theorem Attribute.records_slot {head : Attribute} {slot : Slot} (h : head.slot? = some slot)
    (s : Surroundings) : (head.lowerInside s).records = slot.records s := by
  cases head with
  | named span name value =>
    cases value with
    | expression content => cases h; simp [Attribute.lowerInside, AttributeValue.lowerInside, Slot.records]
    | markup m => cases h; simp [Attribute.lowerInside, AttributeValue.lowerInside, Slot.records]
    | missing => cases h
    | text textSpan raw => cases h
    | empty => cases h
  | spread span argument => cases h; simp [Attribute.lowerInside, Slot.records]

private theorem Child.records_slot {child : Child} {slot : Slot} (h : child.slot? = some slot) (s : Surroundings) :
    (child.lowerInside s).records = slot.records s := by
  cases child with
  | expression content => cases h; simp [Child.lowerInside, Slot.records]
  | spread span argument => cases h; simp [Child.lowerInside, Slot.records]
  | markup m => cases h; simp [Child.lowerInside, Slot.records]
  | text span raw => cases h
  | empty => cases h

private theorem records_lowerInside (m : Markup) (s : Surroundings) : (m.lowerInside s).records =
    (lowerInAttributes s m.attributes).records ++ (lowerInChildren s m.children).records := by
  cases m <;> simp [Markup.lowerInside, Markup.attributes, Markup.children, lowerInAttributes]

/-- What is reported inside a slot is reported inside the markup. -/
private theorem records_slot_subset {m : Markup} {entry : Step × Slot} (h : entry ∈ m.slots) (s : Surroundings) :
    entry.2.records s ⊆ (m.lowerInside s).records := by
  intro record hrecord
  rw [records_lowerInside, List.mem_append, records_lowerInAttributes, records_lowerInChildren]
  rcases Markup.mem_slots.1 h with ⟨index, head, hhead, hslot, -⟩ | ⟨index, child, hchild, hslot, -⟩
  · rw [← head.records_slot hslot] at hrecord
    exact .inl (List.mem_flatMap.2 ⟨head, List.mem_of_getElem? hhead, hrecord⟩)
  · rw [← child.records_slot hslot] at hrecord
    exact .inr (List.mem_flatMap.2 ⟨child, List.mem_of_getElem? hchild, hrecord⟩)

private theorem records_lowerMarkup_node (s : Surroundings) (form : Form) (span : Span) (parts : List Tree) :
    ((Tree.node form span parts).lowerMarkup s).records = (lowerInParts (s.enter form) parts).records := by
  simp [Tree.lowerMarkup]

private theorem records_lowerMarkup_markup (m : Markup) (s : Surroundings) :
    (m.lowerInside s).records ⊆ ((Tree.markup m).lowerMarkup s).records ∧
      m.record s.bound ∈ ((Tree.markup m).lowerMarkup s).records := by
  have hsame : (m.lowerInside s).value.record s.bound = m.record s.bound := by
    cases m <;> simp [Markup.lowerInside, Markup.record]
  simp [Tree.lowerMarkup, Markup.replace, hsame]

/-- Markup where an expression stands is reported with the receiver there.  Below other markup this happens while the
walk is inside that markup. -/
private theorem record_mem {t : Tree} {path : List Step} {m : Markup} (hpath : t.at? path = some (.markup m))
    (hfree : t.standsFree path = true) (s : Surroundings) :
    m.record (t.surroundingsAt path s).bound ∈ (t.lowerMarkup s).records ∧
      ∀ outer, t = .markup outer → path ≠ [] →
        m.record (t.surroundingsAt path s).bound ∈ (outer.lowerInside s).records := by
  induction path generalizing t s with
  | nil =>
    obtain rfl : t = .markup m := by simpa [Tree.at?] using hpath
    exact ⟨(records_lowerMarkup_markup m s).2, fun _ _ hne => absurd rfl hne⟩
  | cons step rest ih =>
    obtain ⟨u, hstep, hrest⟩ := Option.bind_eq_some_iff.1 hpath
    rw [Tree.standsFree, hstep, Bool.and_eq_true] at hfree
    obtain ⟨hlast, hfree⟩ := hfree
    rw [Tree.surroundingsAt, hstep]
    cases t with
    | node form span parts =>
      cases step with
      | part index =>
        have hpart := (ih hrest hfree (s.enter form)).1
        refine ⟨?_, fun outer houter => by cases houter⟩
        rw [records_lowerMarkup_node, records_lowerInParts]
        exact List.mem_flatMap.2 ⟨u, List.mem_of_getElem? hstep, hpart⟩
      | ofAttribute index => cases hstep
      | ofChild index => cases hstep
    | markup outer =>
      obtain ⟨⟨way, slot⟩, hentry, rfl, rfl⟩ := follow?_markup_iff.1 hstep
      have hslot : m.record (slot.content.surroundingsAt rest s).bound ∈ slot.records s := by
        cases slot with
        | braces content => exact (ih hrest hfree s).1
        | direct inner =>
          refine (ih hrest hfree s).2 inner rfl ?_
          rintro rfl
          have hdirect : (Tree.markup outer).leadsDirectly way = true :=
            List.any_eq_true.2 ⟨_, hentry, by simp [Slot.isDirect]⟩
          simp [hdirect] at hlast
      have hinside := records_slot_subset hentry s hslot
      refine ⟨(records_lowerMarkup_markup outer s).1 hinside, ?_⟩
      rintro _ ⟨⟩ -
      exact hinside

/-! ### Whole programs -/

/-- At every element of a program the walk finds a receiver exactly if going outwards from the element leads to a
function, a static block or a field value, or else the program is a script.  By this receiver the element is classified,
and with it an element where an expression stands is reported. -/
theorem lowerProgram_receiver_rule (options : Options) (program : Tree) (path : List Step) (span : Span)
    (name : ElementName) (h : (program.at? path).bind Tree.element? = some (span, name)) :
    let s := program.surroundingsAt path ⟨options.names, options.dialect.loading == .script, []⟩
    let binder? := nearestBinder? (program.ancestorsAt path [])
    (s.bound = true ↔ (∃ binder, binder? = some binder) ∨ (binder? = none ∧ options.dialect.loading = .script)) ∧
    (lowerProgram options program).value.at? (program.image path ++ [.part 1]) =
      some ((name.tag s.bound).argument span) ∧
    (program.standsFree path = true → Record.element name span s.bound ∈ (lowerProgram options program).records) := by
  intro s binder?
  obtain ⟨u, hpath, helement⟩ := Option.bind_eq_some_iff.1 h
  have hbound : s.bound = boundAt (options.dialect.loading == .script) (program.ancestorsAt path []) := by
    rw [(describes_surroundingsAt hpath (Surroundings.describes_root _ _)).bound_eq, script_surroundingsAt]
  refine ⟨?_, ?_, ?_⟩
  · rw [hbound, boundAt_iff, beq_iff_eq]
  · have hplain : (lowerProgram options program).value =
        program.lowerInPlace options.names (options.dialect.loading == .script) [] :=
      program.value_lowerMarkup (Surroundings.describes_root _ _)
    rw [hplain, at?_tag_lowerInPlace _ _ h, hbound]
  · intro hfree
    obtain ⟨attributes, children, rfl⟩ := element?_eq_some helement
    exact (record_mem hpath hfree _).1

/-- A class in a static field, with an arrow function in the computed key of its method. -/
private def arrowInKey : String := "class A \x7b static x = class \x7b [(() => <this/>)()]() \x7b\x7d \x7d; \x7d"

/-- Where the element of `arrowInKey` stands. -/
private def placeInKey : List Step :=
  [.part 0, .part 6, .part 0, .part 3, .part 0, .part 6, .part 0, .part 1, .part 0, .part 0, .part 3]

/-- Neither the arrow function nor the key and the class around it bind a receiver, but the field does. -/
theorem receiver_arrowInKey : ∃ parsed, parseClean .standard arrowInKey = .ok parsed ∧
    nearestBinder? (parsed.tree.ancestorsAt placeInKey []) = some .fieldValue ∧
    (lowerProgram .standard parsed.tree).value.at? (parsed.tree.image placeInKey ++ [.part 1]) =
      some (.this ⟨38, 42⟩) ∧
    Record.element (.self ⟨38, 42⟩) ⟨37, 44⟩ true ∈ (lowerProgram .standard parsed.tree).records := by
  have hread : (parseClean .standard arrowInKey).toOption.map (fun parsed =>
      ((parsed.tree.at? placeInKey).bind Tree.element?, nearestBinder? (parsed.tree.ancestorsAt placeInKey []),
        parsed.tree.standsFree placeInKey)) =
      some (some (⟨37, 44⟩, .self ⟨38, 42⟩), some .fieldValue, true) := by decide +kernel
  obtain ⟨parsed, hparsed, hread⟩ := ok_of_toOption hread
  simp only [Prod.mk.injEq] at hread
  obtain ⟨helement, hbinder, hfree⟩ := hread
  obtain ⟨hrule, htag, hrecord⟩ := lowerProgram_receiver_rule .standard parsed.tree placeInKey _ _ helement
  have hbound := hrule.2 (.inl ⟨_, hbinder⟩)
  rw [hbound] at htag
  refine ⟨parsed, hparsed, hbinder, htag, ?_⟩
  simpa only [hbound] using hrecord hfree

end JsxLowering
