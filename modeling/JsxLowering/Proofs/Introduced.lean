import JsxLowering.Proofs.Slots

/-!
# References that the pass introduces

Every node of a program has an image in the lowered program.  A reference in the lowered program that is the image of no
node was introduced by the pass (`Tree.Introduces`): as the object whose methods are called, as the tag of an element
with a single name, or as the head of the member expression that a dotted name becomes.

* The first is a valid identifier since the options were checked, the second since the name was.
* The head of a dotted name is taken as it is written, so that a reserved word as a head is printed as an expression.
  All introduced references are valid identifiers exactly if the heads of all dotted names are.
-/

namespace JsxLowering

/-! ### References -/

/-- The name that a tree refers to, if it is a reference. -/
def Tree.reference? : Tree → Option String
  | .node (.name text) _ _ => some text
  | _ => none

/-- The reference at a place. -/
def Tree.referenceAt? (t : Tree) (path : List Step) : Option String :=
  (t.at? path).bind Tree.reference?

/-- At the place in the lowered tree stands a reference that is the image of no node of the tree. -/
def Tree.Introduces (t lowered : Tree) (path : List Step) (name : String) : Prop :=
  lowered.referenceAt? path = some name ∧
    ∀ origin form span parts, t.at? origin = some (.node form span parts) → t.image origin ≠ path

/-- The name at the head of a dotted name, unless that is `this`. -/
def DottedName.headName? : DottedName → Option String
  | head _ name => some name
  | self _ => none
  | dot _ object _ _ => object.headName?

/-- The name at the head of an element name, if that is dotted. -/
def ElementName.dottedHead? : ElementName → Option String
  | dotted _ object _ _ => object.headName?
  | _ => none

/-- A dotted name with this head stands somewhere in the tree. -/
def Tree.HasDottedHead (t : Tree) (name : String) : Prop :=
  ∃ path span element, (t.at? path).bind Tree.element? = some (span, element) ∧ element.dottedHead? = some name

private theorem getElem?_cons_cases {α : Type} {first item : α} {rest : List α} {index : Nat}
    (h : (first :: rest)[index]? = some item) :
    (index = 0 ∧ first = item) ∨ ∃ next, index = next + 1 ∧ rest[next]? = some item := by
  cases index with
  | zero => exact .inl ⟨rfl, Option.some.inj h⟩
  | succ next => exact .inr ⟨next, rfl, h⟩

/-- A reference in a node is the node itself or stands in one of its parts. -/
private theorem referenceAt?_node {form : Form} {span : Span} {parts : List Tree} {path : List Step} {name : String}
    (h : (Tree.node form span parts).referenceAt? path = some name) :
    (path = [] ∧ form = .name name) ∨ ∃ index rest part, path = .part index :: rest ∧ parts[index]? = some part ∧
      part.referenceAt? rest = some name := by
  cases path with
  | nil =>
    left
    cases form <;> cases h
    exact ⟨rfl, rfl⟩
  | cons step rest =>
    right
    obtain ⟨u, hu, hname⟩ := Option.bind_eq_some_iff.1 h
    obtain ⟨part, hpart, hrest⟩ := Option.bind_eq_some_iff.1 hu
    cases step with
    | part index => exact ⟨index, rest, part, rfl, hpart, Option.bind_eq_some_iff.2 ⟨u, hrest, hname⟩⟩
    | ofAttribute index => cases hpart
    | ofChild index => cases hpart

/-- A node that is no reference has references only in its parts. -/
private theorem referenceAt?_parts {form : Form} {span : Span} {parts : List Tree} {path : List Step} {name : String}
    (hform : form ≠ .name name) (h : (Tree.node form span parts).referenceAt? path = some name) :
    ∃ index rest part, path = .part index :: rest ∧ parts[index]? = some part ∧
      part.referenceAt? rest = some name := by
  rcases referenceAt?_node h with ⟨-, hname⟩ | hparts
  · exact absurd hname hform
  · exact hparts

/-- A node without parts that is no reference holds none. -/
private theorem referenceAt?_leaf {form : Form} {span : Span} {path : List Step} {name : String}
    (hform : form ≠ .name name) : (Tree.node form span []).referenceAt? path ≠ some name := by
  intro h
  obtain ⟨index, rest, part, -, hpart, -⟩ := referenceAt?_parts hform h
  simp at hpart

private theorem referenceAt?_name {span : Span} {path : List Step} {text name : String}
    (h : (Tree.name span text).referenceAt? path = some name) : text = name := by
  rcases referenceAt?_node h with ⟨-, htext⟩ | ⟨index, rest, part, -, hpart, -⟩
  · exact Form.name.inj htext
  · simp at hpart

private theorem referenceAt?_callee {names : MethodNames} {span : Span} {method : String} {path : List Step}
    {name : String} (h : (names.callee span method).referenceAt? path = some name) : names.object = name := by
  obtain ⟨index, rest, part, -, hpart, hrest⟩ := referenceAt?_parts (by simp) h
  have hmem := List.mem_of_getElem? hpart
  simp only [List.mem_cons, List.not_mem_nil, or_false] at hmem
  rcases hmem with rfl | rfl
  · exact referenceAt?_name hrest
  · exact absurd hrest (referenceAt?_leaf (by simp))

private theorem referenceAt?_literalCall {names : MethodNames} {span : Span} {text : String} {path : List Step}
    {name : String} (h : (names.literalCall span text).referenceAt? path = some name) : names.object = name := by
  obtain ⟨index, rest, part, -, hpart, hrest⟩ := referenceAt?_parts (by simp) h
  have hmem := List.mem_of_getElem? hpart
  simp only [List.mem_cons, List.not_mem_nil, or_false] at hmem
  rcases hmem with rfl | rfl
  · exact referenceAt?_callee hrest
  · exact absurd hrest (referenceAt?_leaf (by simp))

private theorem referenceAt?_key (key : AttributeName) {path : List Step} {name : String} :
    key.key.referenceAt? path ≠ some name := by
  unfold AttributeName.key
  split
  · exact referenceAt?_leaf (by simp)
  · exact referenceAt?_leaf (by simp)

/-! ### Tags -/

private theorem referenceAt?_path {object : DottedName} {path : List Step} {name : String}
    (h : object.path.referenceAt? path = some name) : object.headName? = some name := by
  induction object generalizing path with
  | head span text => exact congrArg some (referenceAt?_name h)
  | self span => exact absurd h (referenceAt?_leaf (by simp))
  | dot span object propertySpan property ih =>
    obtain ⟨index, rest, part, -, hpart, hrest⟩ := referenceAt?_parts (by simp) h
    have hmem := List.mem_of_getElem? hpart
    simp only [List.mem_cons, List.not_mem_nil, or_false] at hmem
    rcases hmem with rfl | rfl
    · exact ih hrest
    · exact absurd hrest (referenceAt?_leaf (by simp))

/-- The head of a dotted name stands in its member expression. -/
private theorem exists_referenceAt?_path {object : DottedName} {name : String} (h : object.headName? = some name) :
    ∃ path, object.path.referenceAt? path = some name := by
  induction object with
  | head span text => exact ⟨[], h⟩
  | self span => cases h
  | dot span object propertySpan property ih =>
    obtain ⟨path, hpath⟩ := ih h
    exact ⟨.part 0 :: path, hpath⟩

private theorem referenceAt?_simpleTag (inner outer : Span) (text : String) {name : String} {path : List Step}
    (h : ((simpleTag inner text).argument outer).referenceAt? path = some name) :
    Text.isValidIdentifier name = true := by
  unfold simpleTag at h
  split at h
  · exact absurd h (referenceAt?_leaf (by simp))
  · split at h
    · exact absurd h (referenceAt?_leaf (by simp))
    next hname =>
      obtain rfl : text = name := referenceAt?_name h
      simp only [Bool.or_eq_true, Bool.not_eq_true', not_or, Bool.not_eq_false] at hname
      exact hname.2

/-- A reference in a tag is a valid identifier, or the head of a dotted name. -/
private theorem referenceAt?_tag {element : ElementName} {bound : Bool} {span : Span} {path : List Step}
    {name : String} (h : ((element.tag bound).argument span).referenceAt? path = some name) :
    Text.isValidIdentifier name = true ∨ element.dottedHead? = some name := by
  cases element with
  | plain inner text => exact .inl (referenceAt?_simpleTag inner span text h)
  | self inner =>
    cases bound with
    | false => exact .inl (referenceAt?_simpleTag inner span "this" h)
    | true => exact absurd h (referenceAt?_leaf (by simp))
  | dotted inner object propertySpan property =>
    have hhead : (DottedName.dot inner object propertySpan property).headName? = some name := referenceAt?_path h
    exact .inr hhead
  | namespaced inner space text => exact absurd h (referenceAt?_leaf (by simp))

/-! ### Where references come from -/

section

variable {names : MethodNames} {script : Bool} {ancestors : List Ancestor} {path : List Step} {name : String}

/-- A reference in the property of an attribute stands in the tree that the attribute holds. -/
private theorem Attribute.referenceAt? {head : Attribute}
    (h : (head.lowerInPlace names script ancestors).referenceAt? path = some name) :
    ∃ content rest, head.content? = some content ∧ path = head.image ++ rest ∧
      (content.lowerInPlace names script (head.inside ancestors)).referenceAt? rest = some name := by
  cases head with
  | spread span argument =>
    rw [Attribute.lowerInPlace] at h
    obtain ⟨index, rest, part, rfl, hpart, hrest⟩ := referenceAt?_parts (by simp) h
    rcases getElem?_cons_cases hpart with ⟨rfl, rfl⟩ | ⟨next, -, hnext⟩
    · exact ⟨argument, rest, rfl, rfl, hrest⟩
    · simp at hnext
  | named span key value =>
    rw [Attribute.lowerInPlace] at h
    obtain ⟨index, rest, part, rfl, hpart, hrest⟩ := referenceAt?_parts (by simp) h
    rcases getElem?_cons_cases hpart with ⟨-, rfl⟩ | ⟨next, rfl, hnext⟩
    · exact absurd hrest (referenceAt?_key key)
    rcases getElem?_cons_cases hnext with ⟨rfl, rfl⟩ | ⟨_, -, hnone⟩
    · cases value with
      | expression content =>
        rw [AttributeValue.lowerInPlace] at hrest
        exact ⟨content, rest, rfl, rfl, hrest⟩
      | markup m =>
        rw [AttributeValue.lowerInPlace] at hrest
        refine ⟨.markup m, rest, rfl, rfl, ?_⟩
        rwa [Tree.lowerInPlace]
      | missing =>
        rw [AttributeValue.lowerInPlace] at hrest
        exact absurd hrest (referenceAt?_leaf (by simp))
      | text textSpan raw =>
        rw [AttributeValue.lowerInPlace] at hrest
        exact absurd hrest (referenceAt?_leaf (by simp))
      | empty =>
        rw [AttributeValue.lowerInPlace] at hrest
        exact absurd hrest (referenceAt?_leaf (by simp))
    · simp at hnone

/-- A reference in what a child becomes is the object of the call for its text, or stands in the tree that the child
holds. -/
private theorem Child.referenceAt? {child : Child} {tree : Tree}
    (hchild : child.lowerInPlace names script ancestors = some tree) (h : tree.referenceAt? path = some name) :
    names.object = name ∨ ∃ content rest, child.content? = some content ∧ path = child.image ++ rest ∧
      (content.lowerInPlace names script (child.inside ancestors)).referenceAt? rest = some name := by
  cases child with
  | text span raw =>
    rw [Child.lowerInPlace] at hchild
    split at hchild
    · cases hchild
    · cases hchild
      exact .inl (referenceAt?_literalCall h)
  | expression content =>
    rw [Child.lowerInPlace] at hchild
    cases hchild
    exact .inr ⟨content, path, rfl, rfl, h⟩
  | empty =>
    rw [Child.lowerInPlace] at hchild
    cases hchild
  | spread span argument =>
    rw [Child.lowerInPlace] at hchild
    cases hchild
    obtain ⟨index, rest, part, rfl, hpart, hrest⟩ := referenceAt?_parts (by simp) h
    rcases getElem?_cons_cases hpart with ⟨rfl, rfl⟩ | ⟨next, -, hnext⟩
    · exact .inr ⟨argument, rest, rfl, rfl, hrest⟩
    · simp at hnext
  | markup m =>
    rw [Child.lowerInPlace] at hchild
    cases hchild
    refine .inr ⟨.markup m, path, rfl, rfl, ?_⟩
    rwa [Tree.lowerInPlace]

/-- What stands among the arguments comes from the child with as many remaining children before it. -/
private theorem exists_child_of_getElem? {children : List Child} {index : Nat} {tree : Tree}
    (h : (childrenInPlace names script ancestors children)[index]? = some tree) :
    ∃ place child, children[place]? = some child ∧ child.lowerInPlace names script ancestors = some tree ∧
      (children.take place).countP Child.remains = index := by
  induction children generalizing index with
  | nil => simp [childrenInPlace] at h
  | cons child rest ih =>
    have hremains := isSome_lowerInPlace names script ancestors child
    rw [childrenInPlace] at h
    cases hchild : child.lowerInPlace names script ancestors with
    | none =>
      rw [hchild] at h hremains
      obtain ⟨place, other, hother, htree, hcount⟩ := ih h
      refine ⟨place + 1, other, hother, htree, ?_⟩
      rw [List.take_succ_cons, List.countP_cons_of_neg (by simp [← hremains]), hcount]
    | some first =>
      rw [hchild] at h hremains
      rcases getElem?_cons_cases h with ⟨rfl, rfl⟩ | ⟨next, rfl, hnext⟩
      · exact ⟨0, child, rfl, hchild, rfl⟩
      · obtain ⟨place, other, hother, htree, hcount⟩ := ih hnext
        refine ⟨place + 1, other, hother, htree, ?_⟩
        rw [List.take_succ_cons, List.countP_cons_of_pos hremains.symm, hcount]

/-- A reference among the arguments that children become. -/
private theorem referenceAt?_children {m : Markup} {index : Nat} {tree : Tree}
    (htree : (childrenInPlace names script (m.ancestor :: ancestors) m.children)[index]? = some tree)
    (h : tree.referenceAt? path = some name) :
    names.object = name ∨ ∃ step u rest, (Tree.markup m).follow? step = some u ∧
      .part (index + m.firstChild) :: path = (Tree.markup m).stepImage step ++ rest ∧
      (u.lowerInPlace names script ((Tree.markup m).stepAncestors ancestors step)).referenceAt? rest = some name := by
  obtain ⟨place, child, hchild, hlower, rfl⟩ := exists_child_of_getElem? htree
  rcases child.referenceAt? hlower h with hobject | ⟨content, rest, hcontent, rfl, hrest⟩
  · exact .inl hobject
  · refine .inr ⟨.ofChild place, content, rest, ?_, ?_, ?_⟩
    · simp [Tree.follow?, hchild, hcontent]
    · simp [Tree.stepImage, hchild]
    · simpa [Tree.stepAncestors, hchild] using hrest

/-- A reference in the object that attributes become. -/
private theorem referenceAt?_attributes {m : Markup} {span : Span}
    (h : ((attributeObject? m.attributes (attributesInPlace names script (m.ancestor :: ancestors) m.attributes)).getD
      (.null span)).referenceAt? path = some name) :
    ∃ step u rest, (Tree.markup m).follow? step = some u ∧
      .part 2 :: path = (Tree.markup m).stepImage step ++ rest ∧
      (u.lowerInPlace names script ((Tree.markup m).stepAncestors ancestors step)).referenceAt? rest = some name := by
  unfold attributeObject? at h
  split at h
  · exact absurd h (referenceAt?_leaf (by simp))
  · obtain ⟨index, inner, property, rfl, hproperty, hinner⟩ := referenceAt?_parts (by simp) h
    rw [attributesInPlace_eq_map, List.getElem?_map] at hproperty
    obtain ⟨head, hhead, rfl⟩ := Option.map_eq_some_iff.1 hproperty
    obtain ⟨content, rest, hcontent, rfl, hrest⟩ := head.referenceAt? hinner
    refine ⟨.ofAttribute index, content, rest, ?_, ?_, ?_⟩
    · simp [Tree.follow?, hhead, hcontent]
    · simp [Tree.stepImage, hhead]
    · simpa [Tree.stepAncestors, hhead] using hrest

/-- A reference in lowered markup is the object of a call, or stands in a tag or in a tree that the markup holds. -/
private theorem Markup.referenceAt? {m : Markup}
    (h : (m.lowerInPlace names script ancestors).referenceAt? path = some name) :
    names.object = name ∨
    (∃ span element attributes children rest, m = .element span element attributes children ∧
      ((element.tag (boundAt script ancestors)).argument span).referenceAt? rest = some name) ∨
    ∃ step u rest, (Tree.markup m).follow? step = some u ∧ path = (Tree.markup m).stepImage step ++ rest ∧
      (u.lowerInPlace names script ((Tree.markup m).stepAncestors ancestors step)).referenceAt? rest = some name := by
  cases m with
  | fragment span children =>
    rw [Markup.lowerInPlace] at h
    obtain ⟨index, rest, part, rfl, hpart, hrest⟩ := referenceAt?_parts (by simp) h
    exact (referenceAt?_children (m := .fragment span children) hpart hrest).imp_right .inr
  | element span element attributes children =>
    rw [Markup.lowerInPlace] at h
    obtain ⟨index, rest, part, rfl, hpart, hrest⟩ := referenceAt?_parts (by simp) h
    rcases getElem?_cons_cases hpart with ⟨rfl, rfl⟩ | ⟨index, rfl, harguments⟩
    · exact .inl (referenceAt?_callee hrest)
    rcases getElem?_cons_cases harguments with ⟨rfl, rfl⟩ | ⟨index, rfl, hafterTag⟩
    · exact .inr (.inl ⟨span, element, attributes, children, rest, rfl, hrest⟩)
    rcases getElem?_cons_cases hafterTag with ⟨rfl, rfl⟩ | ⟨index, rfl, hchildren⟩
    · exact .inr (.inr (referenceAt?_attributes (m := .element span element attributes children) hrest))
    · exact (referenceAt?_children (m := .element span element attributes children) hchildren hrest).imp_right .inr

end

/-- The image of a step is no empty path. -/
private theorem stepImage_ne_nil (t : Tree) (step : Step) : t.stepImage step ≠ [] := by
  cases t <;> cases step <;> exact List.cons_ne_nil _ _

/-- Where a reference in a lowered tree comes from: it is the image of a node, the object of a call, a valid identifier,
or the head of a dotted name. -/
def Tree.Accounts (t : Tree) (names : MethodNames) (path : List Step) (name : String) : Prop :=
  (∃ origin form span parts, t.at? origin = some (.node form span parts) ∧ t.image origin = path) ∨
    names.object = name ∨ Text.isValidIdentifier name = true ∨ t.HasDottedHead name

/-- What accounts for a reference one step further in accounts for it. -/
private theorem Tree.Accounts.step {names : MethodNames} {t u : Tree} {step : Step} {path : List Step} {name : String}
    (hstep : t.follow? step = some u) (h : u.Accounts names path name) :
    t.Accounts names (t.stepImage step ++ path) name := by
  rcases h with ⟨origin, form, span, parts, horigin, rfl⟩ | hobject | hvalid | ⟨origin, span, element, horigin, hhead⟩
  · refine .inl ⟨step :: origin, form, span, parts, ?_, ?_⟩
    · simpa [Tree.at?, hstep] using horigin
    · simp [Tree.image, hstep]
  · exact .inr (.inl hobject)
  · exact .inr (.inr (.inl hvalid))
  · refine .inr (.inr (.inr ⟨step :: origin, span, element, ?_, hhead⟩))
    simpa [Tree.at?, hstep] using horigin

theorem accounts_of_referenceAt? {names : MethodNames} {script : Bool} {t : Tree} {ancestors : List Ancestor}
    {path : List Step} {name : String}
    (h : (t.lowerInPlace names script ancestors).referenceAt? path = some name) : t.Accounts names path name := by
  -- Each step into the lowered tree either leads into what the pass made or follows the image of a step of the tree,
  -- which is not empty, so the induction is on the length of the path.
  induction hlength : path.length using Nat.strongRecOn generalizing t ancestors path with
  | ind length ih =>
    have hfollow : ∀ {step u rest}, t.follow? step = some u → path = t.stepImage step ++ rest →
        (u.lowerInPlace names script (t.stepAncestors ancestors step)).referenceAt? rest = some name →
        t.Accounts names path name := by
      rintro step u rest hstep rfl hrest
      have hshorter : rest.length < length := by
        have hpos := List.length_pos_iff.2 (stepImage_ne_nil t step)
        rw [List.length_append] at hlength
        omega
      exact (ih rest.length hshorter hrest rfl).step hstep
    cases t with
    | node form span parts =>
      rw [Tree.lowerInPlace] at h
      rcases referenceAt?_node h with ⟨rfl, -⟩ | ⟨index, rest, part, rfl, hpart, hrest⟩
      · exact .inl ⟨[], form, span, parts, rfl, rfl⟩
      · rw [partsInPlace_eq_map, List.getElem?_map] at hpart
        obtain ⟨u, hu, rfl⟩ := Option.map_eq_some_iff.1 hpart
        have hstep : (Tree.node form span parts).follow? (.part index) = some u := hu
        exact hfollow hstep rfl hrest
    | markup m =>
      rw [Tree.lowerInPlace] at h
      rcases m.referenceAt? h with hobject | ⟨span, element, attributes, children, rest, rfl, htag⟩ |
        ⟨step, u, rest, hstep, hpath, hrest⟩
      · exact .inr (.inl hobject)
      · rcases referenceAt?_tag htag with hvalid | hhead
        · exact .inr (.inr (.inl hvalid))
        · exact .inr (.inr (.inr ⟨[], span, element, rfl, hhead⟩))
      · exact hfollow hstep hpath hrest

/-! ### Images keep places apart -/

/-- A child of which something remains counts for every child after it. -/
private theorem countP_take_lt {children : List Child} {near far : Nat} {child : Child}
    (hchild : children[near]? = some child) (hremains : child.remains = true) (h : near < far) :
    (children.take near).countP Child.remains < (children.take far).countP Child.remains := by
  have hnext : (children.take (near + 1)).countP Child.remains = (children.take near).countP Child.remains + 1 := by
    simp [List.take_add_one, hchild, hremains]
  have hle : (children.take (near + 1)).countP Child.remains ≤ (children.take far).countP Child.remains :=
    (List.take_sublist_take_left h).countP_le
  omega

/-- Children of which something remains stand at different arguments. -/
private theorem place_eq_of_countP_eq {children : List Child} {first second : Nat} {one other : Child}
    (hone : children[first]? = some one) (hother : children[second]? = some other)
    (honeRemains : one.remains = true) (hotherRemains : other.remains = true)
    (h : (children.take first).countP Child.remains = (children.take second).countP Child.remains) :
    first = second := by
  rcases Nat.lt_trichotomy first second with hlt | heq | hgt
  · exact absurd h (Nat.ne_of_lt (countP_take_lt hone honeRemains hlt))
  · exact heq
  · exact absurd h (Nat.ne_of_gt (countP_take_lt hother hotherRemains hgt))

private theorem remains_of_content? {child : Child} {content : Tree} (h : child.content? = some content) :
    child.remains = true := by
  cases child with
  | text span raw => cases h
  | empty => cases h
  | expression inside => rfl
  | spread span argument => rfl
  | markup m => rfl

/-- What a step out of markup leads to stands after the tag. -/
private theorem exists_stepImage_markup {m : Markup} {u : Tree} {step : Step}
    (h : (Tree.markup m).follow? step = some u) :
    (∃ index inner, step = .ofAttribute index ∧ m.firstChild = 3 ∧
      (Tree.markup m).stepImage step = .part 2 :: .part index :: inner) ∨
    ∃ index child inner, step = .ofChild index ∧ m.children[index]? = some child ∧ child.remains = true ∧
      (Tree.markup m).stepImage step =
        .part ((m.children.take index).countP Child.remains + m.firstChild) :: inner := by
  cases step with
  | part index => cases h
  | ofAttribute index =>
    refine .inl ⟨index, _, rfl, ?_, rfl⟩
    cases m with
    | element span name attributes children => rfl
    | fragment span children => simp [Tree.follow?, Markup.attributes] at h
  | ofChild index =>
    obtain ⟨child, hchild, hcontent⟩ := Option.bind_eq_some_iff.1 h
    exact .inr ⟨index, child, _, rfl, hchild, remains_of_content? hcontent, rfl⟩

/-- Different steps lead to different places of the lowered tree, and to none inside each other. -/
private theorem step_eq_of_stepImage {t u v : Tree} {first second : Step} {rest others : List Step}
    (hfirst : t.follow? first = some u) (hsecond : t.follow? second = some v)
    (h : t.stepImage first ++ rest = t.stepImage second ++ others) : first = second := by
  cases t with
  | node form span parts => exact (List.cons.inj h).1
  | markup m =>
    rcases exists_stepImage_markup hfirst with ⟨i, inner, rfl, hthree, himage⟩ |
      ⟨i, child, inner, rfl, hchild, hremains, himage⟩
    · rcases exists_stepImage_markup hsecond with ⟨j, other, rfl, -, hother⟩ | ⟨j, _, other, rfl, -, -, hother⟩
      · rw [himage, hother] at h
        simp only [List.cons_append, List.cons.injEq, Step.part.injEq] at h
        rw [h.2.1]
      · rw [himage, hother] at h
        simp only [List.cons_append, List.cons.injEq, Step.part.injEq] at h
        omega
    · rcases exists_stepImage_markup hsecond with ⟨j, other, rfl, hthree, hother⟩ |
        ⟨j, sibling, other, rfl, hsibling, hstays, hother⟩
      · rw [himage, hother] at h
        simp only [List.cons_append, List.cons.injEq, Step.part.injEq] at h
        omega
      · rw [himage, hother] at h
        simp only [List.cons_append, List.cons.injEq, Step.part.injEq] at h
        rw [place_eq_of_countP_eq hchild hsibling hremains hstays (Nat.add_right_cancel h.1)]

/-- No tree has its image in the tag of an element. -/
private theorem image_ne_tag {t u : Tree} {origin other rest : List Step} {span : Span} {element : ElementName}
    (horigin : (t.at? origin).bind Tree.element? = some (span, element)) (hother : t.at? other = some u) :
    t.image other ≠ t.image origin ++ .part 1 :: rest := by
  intro himage
  induction origin generalizing t other with
  | nil =>
    obtain ⟨attributes, children, rfl⟩ := element?_eq_some (t := t) horigin
    cases other with
    | nil => cases himage
    | cons step other =>
      obtain ⟨v, hstep, -⟩ := Option.bind_eq_some_iff.1 hother
      rcases exists_stepImage_markup hstep with ⟨index, inner, rfl, -, hinner⟩ |
        ⟨index, child, inner, rfl, -, -, hinner⟩
      · simp [Tree.image, hinner] at himage
      · simp [Tree.image, hinner, Markup.firstChild] at himage
  | cons step origin ih =>
    obtain ⟨w, hw, helement⟩ := Option.bind_eq_some_iff.1 horigin
    obtain ⟨v, hstep, hv⟩ := Option.bind_eq_some_iff.1 hw
    cases other with
    | nil => simp [Tree.image, stepImage_ne_nil] at himage
    | cons next other =>
      obtain ⟨v', hnext, hv'⟩ := Option.bind_eq_some_iff.1 hother
      rw [Tree.image, Tree.image, hnext, hstep, List.append_assoc] at himage
      obtain rfl := step_eq_of_stepImage hnext hstep himage
      obtain rfl : v' = v := Option.some.inj (hnext.symm.trans hstep)
      exact ih (Option.bind_eq_some_iff.2 ⟨w, hv, helement⟩) hv' (List.append_cancel_left himage)

/-- The head of every dotted name is introduced. -/
theorem exists_introduces_of_hasDottedHead (names : MethodNames) (script : Bool) (ancestors : List Ancestor) {t : Tree}
    {name : String} (h : t.HasDottedHead name) :
    ∃ path, t.Introduces (t.lowerInPlace names script ancestors) path name := by
  obtain ⟨origin, span, element, horigin, hhead⟩ := h
  cases element with
  | dotted inner object propertySpan property =>
    obtain ⟨path, hpath⟩ : ∃ path,
        (DottedName.dot inner object propertySpan property).path.referenceAt? path = some name :=
      exists_referenceAt?_path hhead
    refine ⟨t.image origin ++ .part 1 :: path, ?_, fun other form nodeSpan parts hother => image_ne_tag horigin hother⟩
    have htag := at?_tag_lowerInPlace names script horigin ancestors
    rw [List.append_cons, Tree.referenceAt?, at?_append, htag]
    exact hpath
  | plain inner text => cases hhead
  | self inner => cases hhead
  | namespaced inner space text => cases hhead

/-! ### Source texts -/

/-- Accepted options call the methods of a valid identifier. -/
theorem isValidIdentifier_of_validate {options : Options} (h : options.validate = .ok ()) :
    Text.isValidIdentifier options.names.object = true := by
  unfold Options.validate at h
  cases hobject : Text.isValidIdentifier options.names.object with
  | true => rfl
  | false => simp [hobject] at h

/-- A reference that the pass introduces under accepted options is a valid identifier or the head of a dotted name. -/
theorem valid_or_hasDottedHead_of_introduces {options : Options} (hoptions : options.validate = .ok ()) {script : Bool}
    {ancestors : List Ancestor} {t : Tree} {path : List Step} {name : String}
    (h : t.Introduces (t.lowerInPlace options.names script ancestors) path name) :
    Text.isValidIdentifier name = true ∨ t.HasDottedHead name := by
  obtain ⟨hreference, hnew⟩ := h
  rcases accounts_of_referenceAt? hreference with ⟨origin, form, span, parts, horigin, himage⟩ | rfl | hvalid | hhead
  · exact absurd himage (hnew origin form span parts horigin)
  · exact .inl (isValidIdentifier_of_validate hoptions)
  · exact .inl hvalid
  · exact .inr hhead

/-- Under accepted options the object of the calls and the tags of single names are valid identifiers, and the head of
every dotted name is introduced as it is written.  So all introduced references are valid identifiers exactly if the
heads of all dotted names are. -/
theorem transform_references_valid_iff {options : Options} {source : String} {output : Output}
    (h : transform options source = .ok output) : ∃ parsed lowered, parseClean options source = .ok parsed ∧
      lowered = (lowerProgram options parsed.tree).value ∧
      output.code = (lowered.sheet options.dialect.markup parsed.comments).text ∧
      (∀ path name, parsed.tree.Introduces lowered path name →
        Text.isValidIdentifier name = true ∨ parsed.tree.HasDottedHead name) ∧
      (∀ name, parsed.tree.HasDottedHead name → ∃ path, parsed.tree.Introduces lowered path name) ∧
      ((∀ path name, parsed.tree.Introduces lowered path name → Text.isValidIdentifier name = true) ↔
        ∀ name, parsed.tree.HasDottedHead name → Text.isValidIdentifier name = true) := by
  obtain ⟨hoptions, parsed, hparse, rfl⟩ := transform_eq_ok_iff.1 h
  obtain ⟨lowered, hlowered⟩ : ∃ lowered, lowered = (lowerProgram options parsed.tree).value := ⟨_, rfl⟩
  have hplain : lowered = parsed.tree.lowerInPlace options.names (options.dialect.loading == .script) [] :=
    hlowered.trans (parsed.tree.value_lowerMarkup (Surroundings.describes_root _ _))
  have honly : ∀ path name, parsed.tree.Introduces lowered path name →
      Text.isValidIdentifier name = true ∨ parsed.tree.HasDottedHead name := by
    rw [hplain]
    exact fun path name => valid_or_hasDottedHead_of_introduces hoptions
  have hall : ∀ name, parsed.tree.HasDottedHead name → ∃ path, parsed.tree.Introduces lowered path name := by
    rw [hplain]
    exact fun name => exists_introduces_of_hasDottedHead _ _ _
  refine ⟨parsed, lowered, hparse, hlowered, by rw [hlowered]; rfl, honly, hall, ?_, ?_⟩
  · intro hvalid name hhead
    obtain ⟨path, hpath⟩ := hall name hhead
    exact hvalid path name hpath
  · intro hheads path name hpath
    exact (honly path name hpath).elim id (hheads name)

/-- A reserved word at the head of a dotted name is printed as an expression. -/
theorem transform_reserved_head : ∃ output parsed lowered path, transform .standard "<class.B/>" = .ok output ∧
    parseClean .standard "<class.B/>" = .ok parsed ∧ lowered = (lowerProgram .standard parsed.tree).value ∧
    output.code = "Plasmatic.createComponent(class.B, null);\n" ∧
    parsed.tree.Introduces lowered path "class" ∧ Text.isValidIdentifier "class" = false := by
  have hcode : (transform .standard "<class.B/>").toOption.map Output.code =
      some "Plasmatic.createComponent(class.B, null);\n" := by decide +kernel
  have hname : (parseClean .standard "<class.B/>").toOption.map
      (fun parsed => ((parsed.tree.at? [.part 0, .part 0]).bind Tree.element?).map
        fun element => (element.1, element.2.dottedHead?)) =
      some (some (⟨0, 10⟩, some "class")) := by decide +kernel
  obtain ⟨output, houtput, hcode⟩ := ok_of_toOption hcode
  obtain ⟨parsed, lowered, hparse, hlowered, -, -, hall, -⟩ := transform_references_valid_iff houtput
  rw [hparse] at hname
  obtain ⟨⟨span, element⟩, helement, hhead⟩ := Option.map_eq_some_iff.1 (Option.some.inj hname)
  obtain ⟨path, hpath⟩ := hall "class" ⟨_, span, element, helement, congrArg Prod.snd hhead⟩
  exact ⟨output, parsed, lowered, path, houtput, hparse, hlowered, hcode, hpath, by decide⟩

end JsxLowering
