import JsxLowering.Transform

/-!
# What the lowering gives and reports

Equations for the value and the hints of the lowering and of the walk, for the constructs whose definitions branch
or report something.  Everything else follows from the definitions by the equations of `Logged`.
-/

namespace JsxLowering

/-! ### The lowering of markup -/

section

variable (names : MethodNames) (bound : Bool)

@[simp] theorem value_lower_element (span : Span) (name : ElementName) (attributes : List Attribute)
    (children : List Child) :
    ((Markup.element span name attributes children).lower names bound).value =
      names.componentCall span ((name.tag bound).argument span)
        (attributeObject? attributes (lowerAttributes names bound attributes).value)
        (lowerChildren names bound children).value := by
  rw [Markup.lower]
  simp only [Logged.value_bind]
  split <;> rfl

/-- An element reports what is inside it, and then itself if children remain. -/
@[simp] theorem hints_lower_element (span : Span) (name : ElementName) (attributes : List Attribute)
    (children : List Child) :
    ((Markup.element span name attributes children).lower names bound).hints =
      (lowerAttributes names bound attributes).hints ++ (lowerChildren names bound children).hints ++
        if (lowerChildren names bound children).value.isEmpty then [] else [span] := by
  rw [Markup.lower]
  simp only [Logged.hints_bind]
  cases h : (lowerChildren names bound children).value.isEmpty <;> simp

@[simp] theorem value_lower_text (span : Span) (raw : String) :
    ((Child.text span raw).lower names bound).value =
      if (childText raw).isEmpty then none else some (names.literalCall span (childText raw)) := by
  rw [Child.lower]
  split <;> simp [*]

@[simp] theorem hints_lower_text (span : Span) (raw : String) :
    ((Child.text span raw).lower names bound).hints = [] := by
  rw [Child.lower]
  split <;> simp [*]

/-- Children are lowered one after the other. -/
theorem value_lowerChildren_append (first rest : List Child) :
    (lowerChildren names bound (first ++ rest)).value =
      (lowerChildren names bound first).value ++ (lowerChildren names bound rest).value := by
  induction first with
  | nil => simp [lowerChildren]
  | cons child first ih => simp [lowerChildren, ih]

end

/-! ### The walk -/

section

variable (s : Surroundings)

@[simp] theorem value_lowerMarkup_node (form : Form) (span : Span) (parts : List Tree) :
    ((Tree.node form span parts).lowerMarkup s).value =
      .node form span (lowerInParts (s.enter form) parts).value := by
  simp [Tree.lowerMarkup]

@[simp] theorem hints_lowerMarkup_node (form : Form) (span : Span) (parts : List Tree) :
    ((Tree.node form span parts).lowerMarkup s).hints = (lowerInParts (s.enter form) parts).hints := by
  simp [Tree.lowerMarkup]

@[simp] theorem value_lowerMarkup_markup (m : Markup) :
    ((Tree.markup m).lowerMarkup s).value = ((m.lowerInside s).value.lower s.names s.bound).value := by
  simp [Tree.lowerMarkup, Markup.replace]

/-- What stands between braces reports first, then the markup around it. -/
@[simp] theorem hints_lowerMarkup_markup (m : Markup) :
    ((Tree.markup m).lowerMarkup s).hints =
      (m.lowerInside s).hints ++ ((m.lowerInside s).value.lower s.names s.bound).hints := by
  simp [Tree.lowerMarkup, Markup.replace]

end

/-! ### Transformations -/

/-- A source text is transformed exactly if the options are in order and it reads without faults. -/
theorem transform_eq_ok_iff {options : Options} {source : String} {output : Output} :
    transform options source = .ok output ↔ options.validate = .ok () ∧
      ∃ parsed, parseClean options source = .ok parsed ∧ transformParsed options source parsed = output := by
  unfold transform
  split
  next error herror => simp [herror]
  next hvalid =>
    split
    next error herror => simp [herror]
    next parsed hparsed => simp [hvalid, hparsed]

/-- What a successful computation gives can be read off from what is seen of it. -/
theorem ok_of_toOption {ε α β : Type} {x : Except ε α} {f : α → β} {b : β} (h : x.toOption.map f = some b) :
    ∃ a, x = .ok a ∧ f a = b := by
  cases x with
  | error e => cases h
  | ok a => exact ⟨a, rfl, Option.some.inj h⟩

end JsxLowering
