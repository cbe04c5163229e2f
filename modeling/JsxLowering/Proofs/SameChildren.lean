import JsxLowering.Proofs.Equations
import JsxLowering.Proofs.SharedHints

/-!
# The same children in elements and fragments

An element passes its children on as arguments, after its tag and its attributes, and a fragment as the items of an
array.  Both take up one child after the other, on the list of hints as it is by then.  So the arguments are the items,
whatever else the element has and whatever is on the list; the element reports what the fragment reports, between its
attributes and itself; and a list of children may be taken up in two parts.
-/

namespace JsxLowering

/-- The arguments of a call. -/
def Tree.arguments : Tree → List Tree
  | .node (.call _ _) _ (_ :: arguments) => arguments
  | _ => []

/-- The items of an array. -/
def Tree.items : Tree → List Tree
  | .node .array _ items => items
  | _ => []

section

variable (names : MethodNames) (bound : Bool)

/-! ### One child after the other -/

/-- Takes up one more child: what it becomes goes to the end of the trees so far, and its hints to the end of theirs. -/
def takeUp (soFar : List Tree × List Span) (child : Child) : List Tree × List Span :=
  let lowered := (child.lower names bound Shared).run soFar.2
  (soFar.1 ++ lowered.1.toList, lowered.2)

theorem takeUp_eq (soFar : List Tree × List Span) (child : Child) :
    takeUp names bound soFar child =
      (soFar.1 ++ (child.lower names bound).value.toList, soFar.2 ++ (child.lower names bound).hints) := by
  rw [takeUp, child.appends_lower names bound soFar.2]

theorem foldl_takeUp (children : List Child) (soFar : List Tree × List Span) :
    children.foldl (takeUp names bound) soFar =
      (soFar.1 ++ (lowerChildren names bound children).value,
        soFar.2 ++ (lowerChildren names bound children).hints) := by
  induction children generalizing soFar with
  | nil => simp [lowerChildren]
  | cons child rest ih =>
    rw [List.foldl_cons, ih, takeUp_eq]
    simp [lowerChildren]

/-- On a shared list too, children are lowered by taking up one after the other. -/
theorem run_lowerSharedChildren (children : List Child) (hints : List Span) :
    (lowerSharedChildren names bound children).run hints = children.foldl (takeUp names bound) ([], hints) := by
  rw [appends_lowerChildren names bound children hints, foldl_takeUp, List.nil_append]

/-- Children may be taken up in two parts, the second on the list that the first leaves. -/
theorem run_lowerSharedChildren_split (children : List Child) (n : Nat) (hints : List Span) :
    (lowerSharedChildren names bound children).run hints =
      let first := (lowerSharedChildren names bound (children.take n)).run hints
      let second := (lowerSharedChildren names bound (children.drop n)).run first.2
      (first.1 ++ second.1, second.2) := by
  have hsecond (soFar : List Tree × List Span) : (children.drop n).foldl (takeUp names bound) soFar =
      (soFar.1 ++ ((lowerSharedChildren names bound (children.drop n)).run soFar.2).1,
        ((lowerSharedChildren names bound (children.drop n)).run soFar.2).2) := by
    rw [foldl_takeUp, appends_lowerChildren names bound _ soFar.2]
  rw [run_lowerSharedChildren, ← List.take_append_drop n children, List.foldl_append, hsecond,
    ← run_lowerSharedChildren, List.take_append_drop]

/-- A spread among the children is taken up as it is, after what the children before it become. -/
theorem getElem?_lowerChildren_spread {children : List Child} {i : Nat} {span : Span} {argument : Tree}
    (h : children[i]? = some (.spread span argument)) :
    (lowerChildren names bound children).value[(lowerChildren names bound (children.take i)).value.length]? =
      some (.spread span argument) := by
  obtain ⟨hi, hchild⟩ := List.getElem?_eq_some_iff.1 h
  have hsplit : children = children.take i ++ .spread span argument :: children.drop (i + 1) := by
    rw [← hchild, List.getElem_cons_drop, List.take_append_drop]
  have hvalue := congrArg (fun children => (lowerChildren names bound children).value) hsplit
  rw [value_lowerChildren_append] at hvalue
  rw [hvalue, List.getElem?_append_right (Nat.le_refl _), Nat.sub_self]
  simp [lowerChildren, Child.lower]

/-! ### Arguments and items -/

theorem arguments_lower_element (span : Span) (name : ElementName) (attributes : List Attribute)
    (children : List Child) :
    ((Markup.element span name attributes children).lower names bound).value.arguments.drop 2 =
      (lowerChildren names bound children).value := by
  rw [value_lower_element]
  rfl

theorem items_lower_fragment (span : Span) (children : List Child) :
    ((Markup.fragment span children).lower names bound).value.items = (lowerChildren names bound children).value := by
  rw [Markup.lower]
  rfl

theorem hints_lower_fragment (span : Span) (children : List Child) :
    ((Markup.fragment span children).lower names bound).hints = (lowerChildren names bound children).hints := by
  simp [Markup.lower]

theorem arguments_lowerMarkup_element (s : Surroundings) (span : Span) (name : ElementName)
    (attributes : List Attribute) (children : List Child) :
    ((Tree.markup (.element span name attributes children)).lowerMarkup s).value.arguments.drop 2 =
      (lowerChildren s.names s.bound (lowerInChildren s children).value).value := by
  rw [value_lowerMarkup_markup, Markup.lowerInside]
  exact arguments_lower_element s.names s.bound span name _ _

theorem items_lowerMarkup_fragment (s : Surroundings) (span : Span) (children : List Child) :
    ((Tree.markup (.fragment span children)).lowerMarkup s).value.items =
      (lowerChildren s.names s.bound (lowerInChildren s children).value).value := by
  rw [value_lowerMarkup_markup, Markup.lowerInside]
  exact items_lower_fragment s.names s.bound span _

end

/-- An element `e` and a fragment `f` lower the same children the same way, on any list of hints.  The arguments of `e`
after its tag and its attributes are the items of `f`, in a program too, and a spread among the children is the same
spread in both.  What `f` reports is what the children report, and `e` reports it after its attributes and before
itself.  The children may be taken up in two parts. -/
theorem element_lowers_children_like_fragment (names : MethodNames) (bound : Bool) (span other : Span)
    (name : ElementName) (attributes : List Attribute) (children : List Child) (e f : Markup)
    (he : e = .element span name attributes children) (hf : f = .fragment other children) :
    (∀ hints, (e.lowerShared names bound).run hints =
        ((e.lower names bound).value, hints ++ (e.lower names bound).hints) ∧
      (f.lowerShared names bound).run hints = ((f.lower names bound).value, hints ++ (f.lower names bound).hints)) ∧
    (e.lower names bound).value.arguments.drop 2 = (f.lower names bound).value.items ∧
    (∀ s, ((Tree.markup e).lowerMarkup s).value.arguments.drop 2 = ((Tree.markup f).lowerMarkup s).value.items) ∧
    (∀ (i : Nat) (place : Span) (argument : Tree), children[i]? = some (.spread place argument) →
      ∃ k : Nat, (e.lower names bound).value.arguments[2 + k]? = some (.spread place argument) ∧
        (f.lower names bound).value.items[k]? = some (.spread place argument)) ∧
    (∀ hints, ((f.lowerShared names bound).run hints).2 = ((lowerSharedChildren names bound children).run hints).2 ∧
      ((e.lowerShared names bound).run hints).2 =
        ((f.lowerShared names bound).run ((lowerSharedAttributes names bound attributes).run hints).2).2 ++
          if (f.lower names bound).value.items.isEmpty then [] else [span]) ∧
    ∀ (n : Nat) (hints : List Span), (lowerSharedChildren names bound children).run hints =
      let first := (lowerSharedChildren names bound (children.take n)).run hints
      let second := (lowerSharedChildren names bound (children.drop n)).run first.2
      (first.1 ++ second.1, second.2) := by
  have halike : (e.lower names bound).value.arguments.drop 2 = (f.lower names bound).value.items := by
    rw [he, hf, arguments_lower_element, items_lower_fragment]
  refine ⟨?_, halike, ?_, ?_, ?_, run_lowerSharedChildren_split names bound children⟩
  · intro hints
    exact ⟨e.appends_lower names bound hints, f.appends_lower names bound hints⟩
  · intro s
    rw [he, hf, arguments_lowerMarkup_element, items_lowerMarkup_fragment]
  · intro i place argument hi
    have hspread := getElem?_lowerChildren_spread names bound hi
    rw [← items_lower_fragment names bound other, ← hf] at hspread
    refine ⟨_, ?_, hspread⟩
    rw [← List.getElem?_drop, halike, hspread]
  · intro hints
    rw [e.appends_lower names bound, f.appends_lower names bound, f.appends_lower names bound,
      appends_lowerChildren names bound, appends_lowerAttributes names bound, he, hf, hints_lower_element,
      hints_lower_fragment, items_lower_fragment]
    simp

/-- The element `<p a=<i>x</i>>{...q}<b>y</b></p>` and a fragment with its children: both start with the spread, and the
element reports the one in its attribute first. -/
theorem element_and_fragment_with_spread : ∃ e f : Markup,
    e = .element ⟨0, 32⟩ (.plain ⟨1, 2⟩ "p")
      [.named ⟨3, 13⟩ (.plain ⟨3, 4⟩ "a") (.markup (.element ⟨5, 13⟩ (.plain ⟨6, 7⟩ "i") [] [.text ⟨8, 9⟩ "x"]))]
      [.spread ⟨14, 20⟩ (.name ⟨18, 19⟩ "q"),
        .markup (.element ⟨20, 28⟩ (.plain ⟨21, 22⟩ "b") [] [.text ⟨23, 24⟩ "y"])] ∧
    f = .fragment ⟨0, 32⟩
      [.spread ⟨14, 20⟩ (.name ⟨18, 19⟩ "q"),
        .markup (.element ⟨20, 28⟩ (.plain ⟨21, 22⟩ "b") [] [.text ⟨23, 24⟩ "y"])] ∧
    (e.lower .standard false).value.arguments.drop 2 = (f.lower .standard false).value.items ∧
    (∃ k : Nat, (e.lower .standard false).value.arguments[2 + k]? = some (.spread ⟨14, 20⟩ (.name ⟨18, 19⟩ "q")) ∧
      (f.lower .standard false).value.items[k]? = some (.spread ⟨14, 20⟩ (.name ⟨18, 19⟩ "q"))) ∧
    ((f.lowerShared .standard false).run []).2 = [⟨20, 28⟩] ∧
    ((e.lowerShared .standard false).run []).2 = [⟨5, 13⟩, ⟨20, 28⟩, ⟨0, 32⟩] := by
  refine ⟨_, _, rfl, rfl, ?_⟩
  obtain ⟨-, halike, -, hspread, -⟩ :=
    element_lowers_children_like_fragment .standard false ⟨0, 32⟩ ⟨0, 32⟩ _ _ _ _ _ rfl rfl
  exact ⟨halike, hspread 0 _ _ rfl, by decide +kernel, by decide +kernel⟩

end JsxLowering
