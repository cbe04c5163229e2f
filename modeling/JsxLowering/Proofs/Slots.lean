import JsxLowering.Proofs.Pieces

/-!
# The slots of markup

A step from markup leads to one of its slots: an attribute or a child that holds an expression between braces, or that
is markup itself.  The slots are listed in source order, each with its step (`Markup.slots`).

* The steps of the slots are all different, and they are exactly the steps that lead anywhere (`follow?_markup_iff`).
* The pieces of markup are those of its slots, and then the element itself (`Markup.pieces_eq`).
* Induction over markup needs only the markup that stands directly in its slots (`Markup.slotwise`).
-/

namespace JsxLowering

/-- What stands in an attribute or in a child. -/
inductive Slot where
  /-- An expression between braces. -/
  | braces (content : Tree)
  /-- An element or a fragment without braces. -/
  | direct (m : Markup)

namespace Slot

/-- The tree in a slot. -/
def content : Slot → Tree
  | braces content => content
  | direct m => .markup m

/-- Whether a slot is markup without braces. -/
def isDirect : Slot → Bool
  | braces _ => false
  | direct _ => true

/-- The pieces in a slot. -/
def pieces : Slot → List Piece
  | braces content => [.braces content]
  | direct m => m.pieces

end Slot

/-- The slot that an attribute is, if it holds a tree. -/
def Attribute.slot? : Attribute → Option Slot
  | .named _ _ (.expression content) => some (.braces content)
  | .named _ _ (.markup m) => some (.direct m)
  | .named _ _ _ => none
  | .spread _ argument => some (.braces argument)

/-- The slot that a child is, if it holds a tree. -/
def Child.slot? : Child → Option Slot
  | .expression content => some (.braces content)
  | .spread _ argument => some (.braces argument)
  | .markup m => some (.direct m)
  | _ => none

/-- The slots among items, each with its step. -/
def slotsAmong {α : Type} (step : Nat → Step) (slot? : α → Option Slot) (items : List α) : List (Step × Slot) :=
  items.zipIdx.filterMap fun (item, index) => (slot? item).map (step index, ·)

/-- The slots of markup in source order, each with the step that leads to it. -/
def Markup.slots (m : Markup) : List (Step × Slot) :=
  slotsAmong .ofAttribute Attribute.slot? m.attributes ++ slotsAmong .ofChild Child.slot? m.children

/-- The piece that markup itself is: an element is one, a fragment is none. -/
def Markup.ownPiece : Markup → List Piece
  | .element span _ _ children => [.element span (children.any Child.remains)]
  | .fragment _ _ => []

/-! ### Steps to slots -/

section

variable {α : Type} {step : Nat → Step} {slot? : α → Option Slot} {items : List α}

private theorem mem_slotsAmong {entry : Step × Slot} : entry ∈ slotsAmong step slot? items ↔
    ∃ index item, items[index]? = some item ∧ slot? item = some entry.2 ∧ step index = entry.1 := by
  unfold slotsAmong
  simp only [List.mem_filterMap, Prod.exists, List.mem_zipIdx_iff_getElem?, Option.map_eq_some_iff]
  constructor
  · rintro ⟨item, index, hitem, slot, hslot, rfl⟩
    exact ⟨index, item, hitem, hslot, rfl⟩
  · rintro ⟨index, item, hitem, hslot, hstep⟩
    exact ⟨item, index, hitem, entry.2, hslot, Prod.ext hstep rfl⟩

theorem zipIdx_pairwise_ne (items : List α) : items.zipIdx.Pairwise fun x y => x.2 ≠ y.2 := by
  apply List.pairwise_map.1
  rw [List.zipIdx_map_snd]
  exact List.nodup_range'

private theorem steps_slotsAmong (hstep : ∀ i j, step i = step j → i = j) :
    (slotsAmong step slot? items).Pairwise fun x y => x.1 ≠ y.1 := by
  apply (zipIdx_pairwise_ne items).filterMap
  rintro ⟨x, i⟩ ⟨y, j⟩ hij a ha b hb
  obtain ⟨slot, -, rfl⟩ := Option.map_eq_some_iff.1 ha
  obtain ⟨other, -, rfl⟩ := Option.map_eq_some_iff.1 hb
  exact fun heq => hij (hstep i j heq)

private theorem flatMap_slotsAmong (pieces : α → List Piece)
    (hpieces : ∀ item, pieces item = ((slot? item).map Slot.pieces).getD []) :
    (slotsAmong step slot? items).flatMap (·.2.pieces) = items.flatMap pieces := by
  have hfrom : ∀ (items : List α) (start : Nat),
      ((items.zipIdx start).filterMap fun (item, index) => (slot? item).map (step index, ·)).flatMap (·.2.pieces) =
        items.flatMap pieces := by
    intro items
    induction items with
    | nil => intro start; rfl
    | cons item rest ih =>
      intro start
      rw [List.zipIdx_cons, List.filterMap_cons, List.flatMap_cons, hpieces item, ← ih (start + 1)]
      cases hslot : slot? item <;> simp [hslot]
  exact hfrom items 0

end

/-- A slot is an attribute or a child, and its step has the index of this. -/
theorem Markup.mem_slots {m : Markup} {entry : Step × Slot} : entry ∈ m.slots ↔
    (∃ index head, m.attributes[index]? = some head ∧ head.slot? = some entry.2 ∧ .ofAttribute index = entry.1) ∨
      ∃ index child, m.children[index]? = some child ∧ child.slot? = some entry.2 ∧ .ofChild index = entry.1 := by
  rw [Markup.slots, List.mem_append, mem_slotsAmong, mem_slotsAmong]

/-- No two slots have the same step. -/
theorem Markup.steps_slots (m : Markup) : m.slots.Pairwise fun x y => x.1 ≠ y.1 := by
  refine List.pairwise_append.2 ⟨?_, ?_, ?_⟩
  · exact steps_slotsAmong fun i j h => by injection h
  · exact steps_slotsAmong fun i j h => by injection h
  · intro x hx y hy heq
    obtain ⟨i, -, -, -, hi⟩ := mem_slotsAmong.1 hx
    obtain ⟨j, -, -, -, hj⟩ := mem_slotsAmong.1 hy
    rw [← hi, ← hj] at heq
    cases heq

private theorem Attribute.content?_eq (head : Attribute) : head.content? = head.slot?.map Slot.content := by
  cases head with
  | named span name value => cases value <;> rfl
  | spread span argument => rfl

private theorem Child.content?_eq (child : Child) : child.content? = child.slot?.map Slot.content := by
  cases child <;> rfl

/-- A step from markup leads to what stands in the slot with this step. -/
theorem follow?_markup_iff {m : Markup} {step : Step} {u : Tree} :
    (Tree.markup m).follow? step = some u ↔ ∃ entry ∈ m.slots, entry.1 = step ∧ entry.2.content = u := by
  simp only [Markup.mem_slots]
  cases step with
  | part index =>
    simp only [Tree.follow?, reduceCtorEq, false_iff]
    rintro ⟨entry, ⟨_, _, -, -, hstep⟩ | ⟨_, _, -, -, hstep⟩, hpart, -⟩
    · cases hstep.trans hpart
    · cases hstep.trans hpart
  | ofAttribute index =>
    simp only [Tree.follow?, Option.bind_eq_some_iff, Attribute.content?_eq, Option.map_eq_some_iff]
    constructor
    · rintro ⟨head, hhead, slot, hslot, rfl⟩
      exact ⟨(.ofAttribute index, slot), .inl ⟨index, head, hhead, hslot, rfl⟩, rfl, rfl⟩
    · rintro ⟨entry, ⟨i, head, hhead, hslot, hi⟩ | ⟨i, child, -, -, hi⟩, hindex, rfl⟩
      · cases hi.trans hindex
        exact ⟨head, hhead, entry.2, hslot, rfl⟩
      · cases hi.trans hindex
  | ofChild index =>
    simp only [Tree.follow?, Option.bind_eq_some_iff, Child.content?_eq, Option.map_eq_some_iff]
    constructor
    · rintro ⟨child, hchild, slot, hslot, rfl⟩
      exact ⟨(.ofChild index, slot), .inr ⟨index, child, hchild, hslot, rfl⟩, rfl, rfl⟩
    · rintro ⟨entry, ⟨i, head, -, -, hi⟩ | ⟨i, child, hchild, hslot, hi⟩, hindex, rfl⟩
      · cases hi.trans hindex
      · cases hi.trans hindex
        exact ⟨child, hchild, entry.2, hslot, rfl⟩

/-! ### Pieces of slots -/

private theorem Attribute.pieces_eq (head : Attribute) : head.pieces = (head.slot?.map Slot.pieces).getD [] := by
  cases head with
  | named span name value => cases value <;> rfl
  | spread span argument => rfl

private theorem Child.pieces_eq (child : Child) : child.pieces = (child.slot?.map Slot.pieces).getD [] := by
  cases child <;> rfl

private theorem attributesPieces_eq_flatMap (attributes : List Attribute) :
    attributesPieces attributes = attributes.flatMap Attribute.pieces := by
  induction attributes with
  | nil => simp [attributesPieces]
  | cons head rest ih => rw [attributesPieces, ih, List.flatMap_cons]

private theorem childrenPieces_eq_flatMap (children : List Child) :
    childrenPieces children = children.flatMap Child.pieces := by
  induction children with
  | nil => simp [childrenPieces]
  | cons child rest ih => rw [childrenPieces, ih, List.flatMap_cons]

/-- The pieces of markup are those of its slots in turn, and then its own. -/
theorem Markup.pieces_eq (m : Markup) : m.pieces = m.slots.flatMap (·.2.pieces) ++ m.ownPiece := by
  rw [Markup.slots, List.flatMap_append, flatMap_slotsAmong Attribute.pieces Attribute.pieces_eq,
    flatMap_slotsAmong Child.pieces Child.pieces_eq, ← attributesPieces_eq_flatMap, ← childrenPieces_eq_flatMap]
  cases m with
  | element span name attributes children =>
    rw [Markup.pieces]
    rfl
  | fragment span children =>
    simp [Markup.pieces, Markup.attributes, Markup.children, Markup.ownPiece, attributesPieces]

/-! ### Induction over slots -/

private theorem Attribute.sizeOf_direct {head : Attribute} {m : Markup} (h : head.slot? = some (.direct m)) :
    sizeOf m < sizeOf head := by
  cases head with
  | named span name value =>
    cases value with
    | markup inner => cases h; simp; omega
    | missing => cases h
    | text textSpan raw => cases h
    | expression content => cases h
    | empty => cases h
  | spread span argument => cases h

private theorem Child.sizeOf_direct {child : Child} {m : Markup} (h : child.slot? = some (.direct m)) :
    sizeOf m < sizeOf child := by
  cases child with
  | markup inner => cases h; simp
  | text span raw => cases h
  | expression content => cases h
  | empty => cases h
  | spread span argument => cases h

private theorem Markup.sizeOf_direct {m inner : Markup} {step : Step} (h : (step, Slot.direct inner) ∈ m.slots) :
    sizeOf inner < sizeOf m := by
  rcases Markup.mem_slots.1 h with ⟨index, head, hhead, hslot, -⟩ | ⟨index, child, hchild, hslot, -⟩
  · have hsize := Attribute.sizeOf_direct hslot
    cases m with
    | element span name attributes children =>
      have hlist := List.sizeOf_lt_of_mem (List.mem_of_getElem? hhead)
      simp only [Markup.attributes, Markup.element.sizeOf_spec] at hlist ⊢
      omega
    | fragment span children => simp [Markup.attributes] at hhead
  · have hsize := Child.sizeOf_direct hslot
    have hlist := List.sizeOf_lt_of_mem (List.mem_of_getElem? hchild)
    cases m with
    | element span name attributes children =>
      simp only [Markup.children, Markup.element.sizeOf_spec] at hlist ⊢
      omega
    | fragment span children =>
      simp only [Markup.children, Markup.fragment.sizeOf_spec] at hlist ⊢
      omega

/-- Markup is settled once the markup that stands directly in its slots is. -/
@[elab_as_elim] theorem Markup.slotwise {motive : Markup → Prop}
    (markup : ∀ m : Markup, (∀ step inner, (step, Slot.direct inner) ∈ m.slots → motive inner) → motive m)
    (m : Markup) : motive m :=
  markup m fun _ inner _ => Markup.slotwise markup inner
termination_by sizeOf m
decreasing_by exact Markup.sizeOf_direct ‹_›

end JsxLowering
