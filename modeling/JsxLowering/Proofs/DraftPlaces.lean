import JsxLowering.Proofs.Drafts

/-!
# Places in drafts

Steps lead through a draft as they lead through the tree that it becomes.  The draft of a tree that is reached from
another stands at the image of its place (`at?_image_draft`), and every call in a draft stands at such an image, or
where a text remains among children (`exists_path_of_at?_draft`).  So the places of the calls can be told from the
source tree alone (`component_draft_iff`, `literal_draft_iff`).
-/

namespace JsxLowering

namespace Draft

/-- The draft that a step leads to. -/
def follow? : Draft → Step → Option Draft
  | node _ _ parts, .part index => parts[index]?
  | component _ _ _ attributes _, .part 2 => some attributes
  | component _ _ _ _ children, .part (index + 3) => children[index]?
  | _, _ => none

/-- The draft that steps lead to. -/
def at? : Draft → List Step → Option Draft
  | d, [] => some d
  | d, step :: rest => (d.follow? step).bind (·.at? rest)

theorem at?_append (d : Draft) (first rest : List Step) : d.at? (first ++ rest) = (d.at? first).bind (·.at? rest) := by
  induction first generalizing d with
  | nil => rfl
  | cons step first ih => simp only [List.cons_append, at?, Option.bind_assoc, ih]

theorem follow?_node_iff {form : Form} {span : Span} {parts : List Draft} {step : Step} {inner : Draft} :
    (Draft.node form span parts).follow? step = some inner ↔
      ∃ index, step = .part index ∧ parts[index]? = some inner := by
  constructor
  · intro h
    cases step with
    | part index => exact ⟨index, rfl, h⟩
    | ofAttribute index => cases h
    | ofChild index => cases h
  · rintro ⟨index, rfl, h⟩
    exact h

theorem follow?_component_iff {ancestors : List Ancestor} {span : Span} {name : ElementName} {attributes : Draft}
    {children : List Draft} {step : Step} {inner : Draft} :
    (Draft.component ancestors span name attributes children).follow? step = some inner ↔
      (step = .part 2 ∧ attributes = inner) ∨ ∃ index, step = .part (index + 3) ∧ children[index]? = some inner := by
  constructor
  · intro h
    cases step with
    | part index =>
      rcases index with _ | _ | _ | index
      · cases h
      · cases h
      · exact .inl ⟨rfl, Option.some.inj h⟩
      · exact .inr ⟨index, rfl, h⟩
    | ofAttribute index => cases h
    | ofChild index => cases h
  · rintro (⟨rfl, rfl⟩ | ⟨index, rfl, h⟩)
    · rfl
    · exact h

private theorem follow?_fill (names : MethodNames) (bound : List Ancestor → Bool) {d inner : Draft} {step : Step}
    (h : d.follow? step = some inner) : (d.fill names bound).follow? step = some (inner.fill names bound) := by
  cases d with
  | node form span parts =>
    obtain ⟨index, rfl, hpart⟩ := follow?_node_iff.1 h
    simp [fill, fillAll_eq_map, Tree.follow?, hpart]
  | kept t => cases h
  | component ancestors span name attributes children =>
    rw [fill]
    rcases follow?_component_iff.1 h with ⟨rfl, rfl⟩ | ⟨index, rfl, hchild⟩
    · rfl
    · simp [fillAll_eq_map, MethodNames.componentCall, Tree.call, Tree.follow?, hchild]
  | literal span text => cases h

/-- What stands in a draft stands at the same place in the tree that the draft becomes. -/
theorem at?_fill (names : MethodNames) (bound : List Ancestor → Bool) {d inner : Draft} {place : List Step}
    (h : d.at? place = some inner) : (d.fill names bound).at? place = some (inner.fill names bound) := by
  induction place generalizing d with
  | nil =>
    cases h
    rfl
  | cons step rest ih =>
    obtain ⟨next, hstep, hrest⟩ := Option.bind_eq_some_iff.1 h
    rw [Tree.at?, follow?_fill names bound hstep]
    exact ih hrest

end Draft

/-- Whether steps lead anywhere; unless `deep`, only steps to markup that stands directly in markup are taken. -/
def Tree.reaches (deep : Bool) : Tree → List Step → Bool
  | _, [] => true
  | t, step :: rest => (deep || t.leadsDirectly step) && ((t.follow? step).map (·.reaches deep rest)).getD false

theorem reaches_cons_iff {deep : Bool} {t : Tree} {step : Step} {rest : List Step} :
    t.reaches deep (step :: rest) = true ↔
      (deep || t.leadsDirectly step) = true ∧ ∃ u, t.follow? step = some u ∧ u.reaches deep rest = true := by
  rw [Tree.reaches, Bool.and_eq_true]
  cases t.follow? step <;> simp

/-- The step of a slot determines the slot. -/
theorem Markup.slot_unique {m : Markup} {step : Step} {slot other : Slot} (h : (step, slot) ∈ m.slots)
    (h' : (step, other) ∈ m.slots) : slot = other := by
  rcases Markup.mem_slots.1 h with ⟨i, head, hhead, hslot, rfl⟩ | ⟨i, child, hchild, hslot, rfl⟩
  · rcases Markup.mem_slots.1 h' with ⟨j, head', hhead', hslot', hj⟩ | ⟨j, child', -, -, hj⟩
    · cases hj
      obtain rfl : head = head' := Option.some.inj (hhead.symm.trans hhead')
      exact Option.some.inj (hslot.symm.trans hslot')
    · cases hj
  · rcases Markup.mem_slots.1 h' with ⟨j, head', -, -, hj⟩ | ⟨j, child', hchild', hslot', hj⟩
    · cases hj
    · cases hj
      obtain rfl : child = child' := Option.some.inj (hchild.symm.trans hchild')
      exact Option.some.inj (hslot.symm.trans hslot')

/-- A step leads directly to markup exactly if it is the step of a direct slot. -/
theorem leadsDirectly_markup_iff {m : Markup} {step : Step} :
    (Tree.markup m).leadsDirectly step = true ↔ ∃ inner, (step, Slot.direct inner) ∈ m.slots := by
  rw [Tree.leadsDirectly, List.any_eq_true]
  constructor
  · rintro ⟨⟨way, slot⟩, hentry, hslot⟩
    obtain ⟨hway, hdirect⟩ := Bool.and_eq_true_iff.1 hslot
    obtain rfl : way = step := by simpa using hway
    cases slot with
    | braces content => cases hdirect
    | direct inner => exact ⟨inner, hentry⟩
  · rintro ⟨inner, hentry⟩
    exact ⟨_, hentry, by simp [Slot.isDirect]⟩

theorem leadsDirectly_of_mem_slots {m : Markup} {step : Step} {slot : Slot} (h : (step, slot) ∈ m.slots) :
    (Tree.markup m).leadsDirectly step = slot.isDirect := by
  cases slot with
  | direct inner => exact leadsDirectly_markup_iff.2 ⟨inner, h⟩
  | braces content =>
    refine Bool.eq_false_iff.2 fun hdirect => ?_
    obtain ⟨inner, hinner⟩ := leadsDirectly_markup_iff.1 hdirect
    cases m.slot_unique h hinner

section

variable {deep : Bool} {ancestors : List Ancestor}

private theorem getElem?_filterMap {α β : Type} {f : α → Option β} {items : List α} {index : Nat} {item : α} {b : β}
    (hitem : items[index]? = some item) (hb : f item = some b) :
    (items.filterMap f)[(items.take index).countP fun x => (f x).isSome]? = some b := by
  induction items generalizing index with
  | nil => cases hitem
  | cons head rest ih =>
    cases index with
    | zero =>
      obtain rfl : head = item := by simpa using hitem
      simp [hb]
    | succ index =>
      have hrest : rest[index]? = some item := hitem
      cases hhead : f head <;> simp [hhead, ih hrest]

private theorem exists_getElem?_of_filterMap {α β : Type} {f : α → Option β} {items : List α} {k : Nat} {b : β}
    (h : (items.filterMap f)[k]? = some b) :
    ∃ index item, items[index]? = some item ∧ f item = some b ∧
      (items.take index).countP (fun x => (f x).isSome) = k := by
  induction items generalizing k with
  | nil => cases h
  | cons head rest ih =>
    cases hhead : f head with
    | none =>
      rw [List.filterMap_cons_none hhead] at h
      obtain ⟨index, item, hitem, hb, hk⟩ := ih h
      exact ⟨index + 1, item, hitem, hb, by simp [hhead, hk]⟩
    | some d =>
      rw [List.filterMap_cons_some hhead] at h
      cases k with
      | zero =>
        obtain rfl : d = b := by simpa using h
        exact ⟨0, head, rfl, hhead, rfl⟩
      | succ k =>
        obtain ⟨index, item, hitem, hb, hk⟩ := ih (by simpa using h)
        exact ⟨index + 1, item, hitem, hb, by simp [hhead, hk]⟩

private theorem countP_isSome_draft (deep : Bool) (ancestors : List Ancestor) (children : List Child) :
    children.countP (fun child => (child.draft deep ancestors).isSome) = children.countP Child.remains :=
  List.countP_congr fun child _ => by rw [isSome_draft]

/-- The draft of a child that remains stands after those of the children before it that remain. -/
private theorem getElem?_childDrafts {children : List Child} {index : Nat} {child : Child} {d : Draft}
    (hchild : children[index]? = some child) (hd : child.draft deep ancestors = some d) :
    (childDrafts deep ancestors children)[(children.take index).countP Child.remains]? = some d := by
  rw [childDrafts_eq_filterMap, ← countP_isSome_draft deep ancestors]
  exact getElem?_filterMap hchild hd

private theorem exists_child_of_childDrafts {children : List Child} {k : Nat} {d : Draft}
    (h : (childDrafts deep ancestors children)[k]? = some d) :
    ∃ index child, children[index]? = some child ∧ child.draft deep ancestors = some d ∧
      (children.take index).countP Child.remains = k := by
  rw [childDrafts_eq_filterMap] at h
  obtain ⟨index, child, hchild, hd, hk⟩ := exists_getElem?_of_filterMap h
  exact ⟨index, child, hchild, hd, by rw [← hk, countP_isSome_draft]⟩

/-! One step forward: the draft of what stands in a slot stands at the image of the step. -/

private theorem Attribute.at?_draft {head : Attribute} {slot : Slot} (h : head.slot? = some slot)
    (hdeep : (deep || slot.isDirect) = true) :
    (head.draft deep ancestors).at? head.image = some (slot.content.draft deep (head.inside ancestors)) := by
  cases head with
  | spread span argument =>
    cases h
    obtain rfl : deep = true := by simpa [Slot.isDirect] using hdeep
    simp [Attribute.draft, Attribute.image, Attribute.inside, Slot.content, Draft.between, Draft.at?, Draft.follow?]
  | named span name value =>
    cases value with
    | expression content =>
      cases h
      obtain rfl : deep = true := by simpa [Slot.isDirect] using hdeep
      simp [Attribute.draft, AttributeValue.draft, Attribute.image, Attribute.inside, Slot.content, Draft.between,
        Draft.at?, Draft.follow?]
    | markup m =>
      cases h
      simp [Attribute.draft, AttributeValue.draft, Attribute.image, Attribute.inside, Slot.content, Tree.draft,
        Draft.at?, Draft.follow?]
    | missing => cases h
    | text textSpan raw => cases h
    | empty => cases h

private theorem Child.at?_draft {child : Child} {slot : Slot} (h : child.slot? = some slot)
    (hdeep : (deep || slot.isDirect) = true) :
    ∃ d, child.draft deep ancestors = some d ∧
      d.at? child.image = some (slot.content.draft deep (child.inside ancestors)) := by
  cases child with
  | expression content =>
    cases h
    obtain rfl : deep = true := by simpa [Slot.isDirect] using hdeep
    refine ⟨_, by rw [Child.draft], ?_⟩
    simp [Child.image, Child.inside, Slot.content, Draft.between, Draft.at?]
  | spread span argument =>
    cases h
    obtain rfl : deep = true := by simpa [Slot.isDirect] using hdeep
    refine ⟨_, by rw [Child.draft], ?_⟩
    simp [Child.image, Child.inside, Slot.content, Draft.between, Draft.at?, Draft.follow?]
  | markup m =>
    cases h
    refine ⟨_, by rw [Child.draft], ?_⟩
    simp [Child.image, Child.inside, Slot.content, Tree.draft, Draft.at?]
  | text span raw => cases h
  | empty => cases h

/-- The drafts of the children of markup stand where its children stand in the lowered tree. -/
private theorem follow?_draft_child (m : Markup) (k : Nat) :
    (m.draft deep ancestors).follow? (.part (k + m.firstChild)) =
      (childDrafts deep (m.ancestor :: ancestors) m.children)[k]? := by
  cases m with
  | element span name attributes children =>
    rw [Markup.draft]
    rfl
  | fragment span children =>
    rw [Markup.draft]
    rfl

/-- The drafts of the attributes of markup stand in the object of the attributes. -/
private theorem at?_draft_attribute {m : Markup} {index : Nat} {head : Attribute}
    (h : m.attributes[index]? = some head) (rest : List Step) :
    (m.draft deep ancestors).at? (.part 2 :: .part index :: rest) =
      (head.draft deep (m.ancestor :: ancestors)).at? rest := by
  cases m with
  | element span name attributes children =>
    replace h : attributes[index]? = some head := h
    have hfilled : attributes.isEmpty = false := by
      cases attributes with
      | nil => cases h
      | cons first others => rfl
    rw [Markup.draft, hfilled]
    simp [Draft.at?, Draft.follow?, attributeDrafts_eq_map, h, Markup.ancestor]
  | fragment span children => cases h

private theorem at?_stepImage_draft {t u : Tree} {step : Step} (h : t.follow? step = some u)
    (hdeep : (deep || t.leadsDirectly step) = true) :
    (t.draft deep ancestors).at? (t.stepImage step) = some (u.draft deep (t.stepAncestors ancestors step)) := by
  cases t with
  | node form span parts =>
    obtain rfl : deep = true := by simpa [Tree.leadsDirectly] using hdeep
    cases step with
    | part index =>
      replace h : parts[index]? = some u := h
      simp [Tree.draft, Draft.between, partDrafts_eq_map, Tree.stepImage, Tree.stepAncestors, Draft.at?, Draft.follow?,
        h]
    | ofAttribute index => cases h
    | ofChild index => cases h
  | markup m =>
    obtain ⟨⟨way, slot⟩, hentry, rfl, rfl⟩ := follow?_markup_iff.1 h
    rw [leadsDirectly_of_mem_slots hentry] at hdeep
    rw [Tree.draft]
    rcases Markup.mem_slots.1 hentry with ⟨index, head, hhead, hslot, rfl⟩ | ⟨index, child, hchild, hslot, rfl⟩
    · have hinner : (head.draft deep (m.ancestor :: ancestors)).at? head.image =
          some (slot.content.draft deep (head.inside (m.ancestor :: ancestors))) := head.at?_draft hslot hdeep
      rw [Tree.stepImage, Tree.stepAncestors, hhead, at?_draft_attribute hhead]
      exact hinner
    · obtain ⟨d, hd, hinner⟩ : ∃ d, child.draft deep (m.ancestor :: ancestors) = some d ∧
          d.at? child.image = some (slot.content.draft deep (child.inside (m.ancestor :: ancestors))) :=
        child.at?_draft hslot hdeep
      rw [Tree.stepImage, Tree.stepAncestors, hchild, Draft.at?, follow?_draft_child, getElem?_childDrafts hchild hd]
      exact hinner

/-! One step back: a call in a draft is that of the tree itself, of a text in it, or stands in the draft of a tree that
a step leads to. -/

/-- Whether a draft is a call. -/
def Draft.isCall : Draft → Bool
  | .node _ _ _ => false
  | .kept _ => false
  | .component _ _ _ _ _ => true
  | .literal _ _ => true

private theorem at?_kept_ne {d : Draft} (hd : d.isCall = true) (t : Tree) (place : List Step) :
    (Draft.kept t).at? place ≠ some d := by
  intro h
  cases place with
  | nil =>
    cases h
    cases hd
  | cons step rest => cases h

private theorem at?_between {content : Tree} {inner d : Draft} {place : List Step} (hd : d.isCall = true)
    (h : (Draft.between deep content inner).at? place = some d) : deep = true ∧ inner.at? place = some d := by
  cases deep with
  | false => exact absurd h (at?_kept_ne hd content place)
  | true => exact ⟨rfl, h⟩

/-- In a node that is no call itself, calls stand in the parts. -/
private theorem exists_part_of_at?_node {form : Form} {span : Span} {parts : List Draft} {d : Draft}
    {place : List Step} (hd : d.isCall = true) (h : (Draft.node form span parts).at? place = some d) :
    ∃ index part rest, place = .part index :: rest ∧ parts[index]? = some part ∧ part.at? rest = some d := by
  cases place with
  | nil => cases h; cases hd
  | cons step rest =>
    obtain ⟨part, hstep, hrest⟩ := Option.bind_eq_some_iff.1 h
    obtain ⟨index, rfl, hpart⟩ := Draft.follow?_node_iff.1 hstep
    exact ⟨index, part, rest, rfl, hpart, hrest⟩

private theorem Attribute.slot_of_at?_draft {head : Attribute} {d : Draft} {place : List Step} (hd : d.isCall = true)
    (h : (head.draft deep ancestors).at? place = some d) :
    ∃ slot rest, head.slot? = some slot ∧ (deep || slot.isDirect) = true ∧ place = head.image ++ rest ∧
      (slot.content.draft deep (head.inside ancestors)).at? rest = some d := by
  cases head with
  | spread span argument =>
    rw [Attribute.draft] at h
    obtain ⟨index, part, rest, rfl, hpart, hrest⟩ := exists_part_of_at?_node hd h
    cases index with
    | zero =>
      cases hpart
      obtain ⟨rfl, hinner⟩ := at?_between hd hrest
      exact ⟨_, rest, rfl, rfl, rfl, hinner⟩
    | succ index => cases hpart
  | named span name value =>
    rw [Attribute.draft] at h
    obtain ⟨index, part, rest, rfl, hpart, hrest⟩ := exists_part_of_at?_node hd h
    rcases index with _ | _ | index
    · cases hpart
      exact absurd hrest (at?_kept_ne hd _ rest)
    · obtain rfl : value.draft deep (.named :: ancestors) span = part := by simpa using hpart
      cases value with
      | missing =>
        rw [AttributeValue.draft] at hrest
        exact absurd hrest (at?_kept_ne hd _ rest)
      | text textSpan raw =>
        rw [AttributeValue.draft] at hrest
        exact absurd hrest (at?_kept_ne hd _ rest)
      | expression content =>
        rw [AttributeValue.draft] at hrest
        obtain ⟨rfl, hinner⟩ := at?_between hd hrest
        exact ⟨_, rest, rfl, rfl, rfl, hinner⟩
      | empty =>
        rw [AttributeValue.draft] at hrest
        exact absurd hrest (at?_kept_ne hd _ rest)
      | markup m =>
        rw [AttributeValue.draft] at hrest
        refine ⟨.direct m, rest, rfl, by simp [Slot.isDirect], rfl, ?_⟩
        simpa [Slot.content, Attribute.inside, Tree.draft] using hrest
    · cases hpart

private theorem Child.slot_of_at?_draft {child : Child} {inner d : Draft} {place : List Step} (hd : d.isCall = true)
    (hinner : child.draft deep ancestors = some inner) (h : inner.at? place = some d) :
    (∃ slot rest, child.slot? = some slot ∧ (deep || slot.isDirect) = true ∧ place = child.image ++ rest ∧
      (slot.content.draft deep (child.inside ancestors)).at? rest = some d) ∨
    ∃ span raw, child = .text span raw ∧ child.remains = true ∧ place = [] ∧ d = .literal span (childText raw) := by
  cases child with
  | text span raw =>
    rw [Child.draft] at hinner
    split at hinner
    · cases hinner
    · next hremains =>
      cases hinner
      cases place with
      | nil =>
        cases h
        exact .inr ⟨span, raw, rfl, by simpa [Child.remains] using hremains, rfl, rfl⟩
      | cons step rest => cases h
  | expression content =>
    rw [Child.draft] at hinner
    cases hinner
    obtain ⟨rfl, hcontent⟩ := at?_between hd h
    exact .inl ⟨_, place, rfl, rfl, rfl, hcontent⟩
  | empty => rw [Child.draft] at hinner; cases hinner
  | spread span argument =>
    rw [Child.draft] at hinner
    cases hinner
    obtain ⟨index, part, rest, rfl, hpart, hrest⟩ := exists_part_of_at?_node hd h
    cases index with
    | zero =>
      cases hpart
      obtain ⟨rfl, hcontent⟩ := at?_between hd hrest
      exact .inl ⟨_, rest, rfl, rfl, rfl, hcontent⟩
    | succ index => cases hpart
  | markup m =>
    rw [Child.draft] at hinner
    cases hinner
    refine .inl ⟨.direct m, place, rfl, by simp [Slot.isDirect], rfl, ?_⟩
    simpa [Slot.content, Child.inside, Tree.draft] using h

/-- From the draft of markup one step leads to the attributes of an element or to a child. -/
private theorem follow?_draft_cases {m : Markup} {step : Step} {inner : Draft}
    (h : (m.draft deep ancestors).follow? step = some inner) :
    (step = .part 2 ∧ (inner = .kept (.null m.span) ∨
      inner = .node .object (attributesSpan m.attributes)
        (attributeDrafts deep (m.ancestor :: ancestors) m.attributes))) ∨
    ∃ k, step = .part (k + m.firstChild) ∧
      (childDrafts deep (m.ancestor :: ancestors) m.children)[k]? = some inner := by
  cases m with
  | element span name attributes children =>
    rw [Markup.draft] at h
    rcases Draft.follow?_component_iff.1 h with ⟨rfl, rfl⟩ | ⟨index, rfl, hchild⟩
    · refine .inl ⟨rfl, ?_⟩
      cases attributes with
      | nil => exact .inl rfl
      | cons head rest => exact .inr rfl
    · exact .inr ⟨index, rfl, hchild⟩
  | fragment span children =>
    rw [Markup.draft] at h
    obtain ⟨index, rfl, hchild⟩ := Draft.follow?_node_iff.1 h
    exact .inr ⟨index, rfl, hchild⟩

end

/-- Where what remains of a child stands in the lowered markup. -/
def Markup.childImage (m : Markup) (index : Nat) : Step :=
  .part ((m.children.take index).countP Child.remains + m.firstChild)

section

variable {deep : Bool} {ancestors : List Ancestor} {t u : Tree} {place path : List Step} {d : Draft}

private theorem at?_draft_cases (hd : d.isCall = true) (h : (t.draft deep ancestors).at? place = some d) :
    (place = [] ∧ d = t.draft deep ancestors) ∨
    (∃ step u rest, t.follow? step = some u ∧ (deep || t.leadsDirectly step) = true ∧
      place = t.stepImage step ++ rest ∧ (u.draft deep (t.stepAncestors ancestors step)).at? rest = some d) ∨
    ∃ m index span raw, t = .markup m ∧ m.children[index]? = some (.text span raw) ∧
      (Child.text span raw).remains = true ∧ place = [m.childImage index] ∧ d = .literal span (childText raw) := by
  cases t with
  | node form span parts =>
    rw [Tree.draft] at h
    obtain ⟨rfl, h⟩ := at?_between hd h
    obtain ⟨index, part, rest, rfl, hpart, hrest⟩ := exists_part_of_at?_node hd h
    rw [partDrafts_eq_map, List.getElem?_map] at hpart
    obtain ⟨u, hu, rfl⟩ := Option.map_eq_some_iff.1 hpart
    exact .inr (.inl ⟨.part index, u, rest, hu, rfl, rfl, hrest⟩)
  | markup m =>
    rw [Tree.draft] at h ⊢
    cases place with
    | nil => exact .inl ⟨rfl, (Option.some.inj h).symm⟩
    | cons step rest =>
      refine .inr ?_
      obtain ⟨inner, hstep, hinner⟩ := Option.bind_eq_some_iff.1 h
      rcases follow?_draft_cases hstep with ⟨rfl, rfl | rfl⟩ | ⟨k, rfl, hremaining⟩
      · exact absurd hinner (at?_kept_ne hd _ rest)
      · obtain ⟨index, part, rest, rfl, hpart, hrest⟩ := exists_part_of_at?_node hd hinner
        rw [attributeDrafts_eq_map, List.getElem?_map] at hpart
        obtain ⟨head, hhead, rfl⟩ := Option.map_eq_some_iff.1 hpart
        obtain ⟨slot, deeper, hslot, hopen, rfl, hdeeper⟩ := head.slot_of_at?_draft hd hrest
        have hentry : (Step.ofAttribute index, slot) ∈ m.slots :=
          Markup.mem_slots.2 (.inl ⟨index, head, hhead, hslot, rfl⟩)
        rw [← leadsDirectly_of_mem_slots hentry] at hopen
        have hstep' : (Tree.markup m).follow? (.ofAttribute index) = some slot.content :=
          follow?_markup_iff.2 ⟨_, hentry, rfl, rfl⟩
        refine .inl ⟨.ofAttribute index, slot.content, deeper, hstep', hopen, ?_, ?_⟩
        · simp [Tree.stepImage, hhead]
        · simpa [Tree.stepAncestors, hhead] using hdeeper
      · obtain ⟨index, child, hchild, hdraft, rfl⟩ := exists_child_of_childDrafts hremaining
        rcases child.slot_of_at?_draft hd hdraft hinner with
          ⟨slot, deeper, hslot, hopen, rfl, hdeeper⟩ | ⟨span, raw, rfl, hremains, rfl, rfl⟩
        · have hentry : (Step.ofChild index, slot) ∈ m.slots :=
            Markup.mem_slots.2 (.inr ⟨index, child, hchild, hslot, rfl⟩)
          rw [← leadsDirectly_of_mem_slots hentry] at hopen
          have hstep' : (Tree.markup m).follow? (.ofChild index) = some slot.content :=
            follow?_markup_iff.2 ⟨_, hentry, rfl, rfl⟩
          refine .inl ⟨.ofChild index, slot.content, deeper, hstep', hopen, ?_, ?_⟩
          · simp [Tree.stepImage, hchild]
          · simpa [Tree.stepAncestors, hchild] using hdeeper
        · exact .inr ⟨m, index, span, raw, rfl, hchild, hremains, rfl, rfl⟩

/-- The draft of a tree that is reached stands at the image of its place. -/
theorem at?_image_draft (ancestors : List Ancestor) (h : t.at? path = some u) (hreach : t.reaches deep path = true) :
    (t.draft deep ancestors).at? (t.image path) = some (u.draft deep (t.ancestorsAt path ancestors)) := by
  induction path generalizing t ancestors with
  | nil =>
    cases h
    rfl
  | cons step rest ih =>
    obtain ⟨v, hstep, hrest⟩ := Option.bind_eq_some_iff.1 h
    obtain ⟨hopen, v', hstep', hreach⟩ := reaches_cons_iff.1 hreach
    obtain rfl : v = v' := Option.some.inj (hstep.symm.trans hstep')
    rw [Tree.image, Tree.ancestorsAt, Draft.at?_append, at?_stepImage_draft hstep hopen, hstep]
    exact ih _ hrest hreach

private theorem length_stepImage_pos (t : Tree) (step : Step) : 0 < (t.stepImage step).length := by
  cases t <;> cases step <;> simp [Tree.stepImage]

/-- A call in the draft of a tree is that of a tree that is reached, or that of a text in markup that is reached. -/
theorem exists_path_of_at?_draft (hd : d.isCall = true) (h : (t.draft deep ancestors).at? place = some d) :
    ∃ path u, t.at? path = some u ∧ t.reaches deep path = true ∧
      ((place = t.image path ∧ d = u.draft deep (t.ancestorsAt path ancestors)) ∨
        ∃ m index span raw, u = .markup m ∧ m.children[index]? = some (.text span raw) ∧
          (Child.text span raw).remains = true ∧ place = t.image path ++ [m.childImage index] ∧
          d = .literal span (childText raw)) := by
  -- the image of a step is never empty, so what is left of the place gets shorter
  induction hlength : place.length using Nat.strongRecOn generalizing t ancestors place with
  | ind length ih =>
    rcases at?_draft_cases hd h with ⟨rfl, rfl⟩ | ⟨step, u, rest, hstep, hopen, rfl, hrest⟩ |
      ⟨m, index, span, raw, rfl, hchild, hremains, rfl, rfl⟩
    · exact ⟨[], t, rfl, rfl, .inl ⟨rfl, rfl⟩⟩
    · have hshorter : rest.length < length := by
        have hpos := length_stepImage_pos t step
        rw [← hlength, List.length_append]
        omega
      obtain ⟨path, v, hpath, hreach, hcall⟩ := ih rest.length hshorter hrest rfl
      refine ⟨step :: path, v, ?_, reaches_cons_iff.2 ⟨hopen, u, hstep, hreach⟩, ?_⟩
      · rw [Tree.at?, hstep]
        exact hpath
      · rw [Tree.image, Tree.ancestorsAt, hstep]
        rcases hcall with ⟨rfl, rfl⟩ | ⟨m, index, span, raw, rfl, hchild, hremains, rfl, rfl⟩
        · exact .inl ⟨rfl, rfl⟩
        · exact .inr ⟨m, index, span, raw, rfl, hchild, hremains, (List.append_assoc _ _ _).symm, rfl⟩
    · exact ⟨[], _, rfl, rfl, .inr ⟨m, index, span, raw, rfl, hchild, hremains, rfl, rfl⟩⟩

end

/-! ### The calls of a tree -/

/-- At `place` the lowered tree has the call for an element with this name inside these ancestors. -/
def Tree.ElementCallAt (t : Tree) (deep : Bool) (place : List Step) (ancestors : List Ancestor) (name : ElementName) :
    Prop :=
  ∃ path span, (t.at? path).bind Tree.element? = some (span, name) ∧ t.reaches deep path = true ∧
    t.image path = place ∧ t.ancestorsAt path [] = ancestors

/-- At `place` the lowered tree has the call for a text child of which something remains. -/
def Tree.TextCallAt (t : Tree) (deep : Bool) (place : List Step) : Prop :=
  ∃ path m index span raw, t.at? path = some (.markup m) ∧ t.reaches deep path = true ∧
    m.children[index]? = some (.text span raw) ∧ (Child.text span raw).remains = true ∧
    t.image path ++ [m.childImage index] = place

section

variable {deep : Bool} {t : Tree} {place : List Step} {ancestors : List Ancestor} {span : Span} {name : ElementName}

private theorem draft_eq_component {u : Tree} {outer : List Ancestor} {attributes : Draft} {children : List Draft}
    (h : u.draft deep outer = .component ancestors span name attributes children) :
    u.element? = some (span, name) ∧ outer = ancestors := by
  cases u with
  | node form nodeSpan parts => rw [Tree.draft] at h; cases deep <;> cases h
  | markup m =>
    cases m with
    | element span name attributes children =>
      rw [Tree.draft, Markup.draft] at h
      cases h
      exact ⟨rfl, rfl⟩
    | fragment span children => rw [Tree.draft, Markup.draft] at h; cases h

private theorem draft_ne_literal (u : Tree) (outer : List Ancestor) (span : Span) (text : String) :
    u.draft deep outer ≠ .literal span text := by
  intro h
  cases u with
  | node form nodeSpan parts => rw [Tree.draft] at h; cases deep <;> cases h
  | markup m => cases m <;> rw [Tree.draft, Markup.draft] at h <;> cases h

/-- The draft of a tree has the calls for the elements where the lowered tree has them. -/
theorem component_draft_iff : t.ElementCallAt deep place ancestors name ↔
    ∃ span attributes children,
      (t.draft deep []).at? place = some (.component ancestors span name attributes children) := by
  constructor
  · rintro ⟨path, span, helement, hreach, rfl, rfl⟩
    obtain ⟨u, hpath, helement⟩ := Option.bind_eq_some_iff.1 helement
    obtain ⟨attributes, children, rfl⟩ := element?_eq_some helement
    rw [at?_image_draft [] hpath hreach, Tree.draft, Markup.draft]
    exact ⟨_, _, _, rfl⟩
  · rintro ⟨span, attributes, children, h⟩
    obtain ⟨path, u, hpath, hreach, ⟨rfl, hdraft⟩ | ⟨m, index, span', raw, -, -, -, -, hdraft⟩⟩ :=
      exists_path_of_at?_draft rfl h
    · obtain ⟨helement, hancestors⟩ := draft_eq_component hdraft.symm
      exact ⟨path, span, Option.bind_eq_some_iff.2 ⟨u, hpath, helement⟩, hreach, rfl, hancestors⟩
    · cases hdraft

/-- The draft of a tree has the calls for the texts where the lowered tree has them. -/
theorem literal_draft_iff : t.TextCallAt deep place ↔
    ∃ span text, (t.draft deep []).at? place = some (.literal span text) := by
  constructor
  · rintro ⟨path, m, index, span, raw, hpath, hreach, hchild, hremains, rfl⟩
    have hdraft : (Child.text span raw).draft deep (m.ancestor :: t.ancestorsAt path []) =
        some (.literal span (childText raw)) := by
      have hfilled : (childText raw).isEmpty = false := by simpa [Child.remains] using hremains
      rw [Child.draft, hfilled]
      rfl
    rw [Draft.at?_append, at?_image_draft [] hpath hreach, Tree.draft]
    refine ⟨span, childText raw, ?_⟩
    rw [Option.bind_some, Draft.at?, Markup.childImage, follow?_draft_child, getElem?_childDrafts hchild hdraft]
    rfl
  · rintro ⟨span, text, h⟩
    obtain ⟨path, u, hpath, hreach, ⟨-, hdraft⟩ | ⟨m, index, span', raw, rfl, hchild, hremains, rfl, -⟩⟩ :=
      exists_path_of_at?_draft rfl h
    · exact absurd hdraft.symm (draft_ne_literal u _ span text)
    · exact ⟨path, m, index, span', raw, hpath, hreach, hchild, hremains, rfl⟩

end

end JsxLowering
