import JsxLowering.Proofs.Equations

/-!
# The meaning of markup

What markup means is said twice.  `Tree.eval` evaluates the expressions that markup is lowered to, from left to right,
around a host language about which nothing is assumed; `Markup.meaning` reads markup directly, without any
expression in between.  The two agree for all markup (`eval_lower`).

The effects of the host language are those of any lawful monad, so the agreement is more than one of values: every
embedded expression is evaluated as often as it is written, which is once, and in the order of the source.
-/

namespace JsxLowering

/-! ### Values -/

mutual

/-- What an expression evaluates to.  `H` holds the values of the host language that are not looked into here. -/
inductive Value (H : Type) where
  | null
  | boolean (value : Bool)
  | string (value : String)
  | array (elements : List (Value H))
  /-- An object is what is written in it, in order. -/
  | object (entries : List (Entry H))
  /-- The object whose methods generated calls use. -/
  | runtime
  /-- A method of that object. -/
  | method (name : String)
  /-- What the component method returns. -/
  | component (tag attributes : Value H) (children : List (Value H))
  /-- What the literal method returns. -/
  | literal (text : String)
  | other (value : H)

/-- What is written in an object. -/
inductive Entry (H : Type) where
  | keyed (key : String) (value : Value H)
  | spread (value : Value H)

end

/-- The host language around generated calls, with the effects of `M`. -/
structure Host (H : Type) (M : Type → Type) where
  /-- What a name refers to. -/
  name : String → M (Value H)
  /-- What `this` refers to. -/
  receiver : M (Value H)
  /-- A member of a value. -/
  member : Value H → String → M (Value H)
  /-- A call of a value with a receiver. -/
  call : Value H → Value H → List (Value H) → M (Value H)
  /-- What a value gives where it is spread. -/
  elements : Value H → M (List (Value H))
  /-- Any expression that lowering does not make. -/
  expression : Tree → M (Value H)
  /-- Any property that lowering does not make. -/
  entry : Tree → M (Entry H)

section

variable {H : Type} {M : Type → Type} [Monad M]

/-! ### Evaluation -/

namespace Host

/-- A member of a value, where the runtime has its two methods. -/
def get (host : Host H M) (names : MethodNames) (object : Value H) (property : String) : M (Value H) :=
  match object with
  | .runtime =>
    if property = names.component ∨ property = names.literal then return .method property
    else host.member .runtime property
  | object => host.member object property

/-- A call of a value.  The component method takes a tag, attributes and children, the literal method a text. -/
def apply (host : Host H M) (names : MethodNames) (function receiver : Value H) (arguments : List (Value H)) :
    M (Value H) :=
  match function, arguments with
  | .method method, tag :: attributes :: children =>
    if method = names.component then return .component tag attributes children
    else host.call function receiver arguments
  | .method method, [.string text] =>
    if method = names.literal then return .literal text else host.call function receiver arguments
  | _, _ => host.call function receiver arguments

end Host

mutual

/-- Evaluates an expression from left to right. -/
def Tree.eval (host : Host H M) (names : MethodNames) : Tree → M (Value H)
  | .node (.name text) _ [] => if text = names.object then return .runtime else host.name text
  | .node .this _ [] => host.receiver
  | .node .null _ [] => return .null
  | .node (.boolean value) _ [] => return .boolean value
  | .node (.string value false) _ [] => return .string value
  | .node (.member false) _ [object, .node (.key property) _ []] => do
    let object ← object.eval host names
    host.get names object property
  | .node (.call false _) _ (.node (.member false) _ [object, .node (.key property) _ []] :: arguments) => do
    let object ← object.eval host names
    let method ← host.get names object property
    let arguments ← evalItems host names arguments
    host.apply names method object arguments
  | .node .array _ elements => do
    let elements ← evalItems host names elements
    return .array elements
  | .node .object _ properties => do
    let entries ← evalEntries host names properties
    return .object entries
  | tree => host.expression tree

/-- Evaluates the arguments of a call or the elements of an array, of which some may be spread. -/
def evalItems (host : Host H M) (names : MethodNames) : List Tree → M (List (Value H))
  | [] => return []
  | .node .spread _ [argument] :: rest => do
    let value ← argument.eval host names
    let first ← host.elements value
    let others ← evalItems host names rest
    return first ++ others
  | item :: rest => do
    let first ← item.eval host names
    let others ← evalItems host names rest
    return first :: others

/-- Evaluates the properties of an object. -/
def evalEntries (host : Host H M) (names : MethodNames) : List Tree → M (List (Entry H))
  | [] => return []
  | .node (.property false false) _ [.node (.key key) _ [], value] :: rest => do
    let value ← value.eval host names
    let others ← evalEntries host names rest
    return .keyed key value :: others
  | .node (.property false false) _ [.node (.string key false) _ [], value] :: rest => do
    let value ← value.eval host names
    let others ← evalEntries host names rest
    return .keyed key value :: others
  | .node .spread _ [argument] :: rest => do
    let value ← argument.eval host names
    let others ← evalEntries host names rest
    return .spread value :: others
  | property :: rest => do
    let first ← host.entry property
    let others ← evalEntries host names rest
    return first :: others

end

/-! ### Direct meaning -/

/-- What a tag stands for. -/
def Tag.meaning (host : Host H M) (names : MethodNames) : Tag → M (Value H)
  | .expression tree _ => tree.eval host names
  | .namespaced tagName => return .string tagName

mutual

/-- What an element or a fragment stands for: a component of its tag, its attributes and its children, or the array of
its children. -/
def Markup.meaning (host : Host H M) (names : MethodNames) (bound : Bool) : Markup → M (Value H)
  | .element _ name attributes children => do
    let tag ← (name.tag bound).meaning host names
    let attributes ← (if attributes.isEmpty then pure .null
      else .object <$> attributesMeaning host names bound attributes)
    let children ← childrenMeaning host names bound children
    return .component tag attributes children
  | .fragment _ children => do
    let children ← childrenMeaning host names bound children
    return .array children

/-- What attributes stand for, in source order. -/
def attributesMeaning (host : Host H M) (names : MethodNames) (bound : Bool) : List Attribute → M (List (Entry H))
  | [] => return []
  | head :: rest => do
    let first ← head.meaning host names bound
    let others ← attributesMeaning host names bound rest
    return first :: others

/-- What an attribute stands for. -/
def Attribute.meaning (host : Host H M) (names : MethodNames) (bound : Bool) : Attribute → M (Entry H)
  | .named _ name value => do
    let value ← value.meaning host names bound
    return .keyed name.text value
  | .spread _ argument => do
    let value ← argument.eval host names
    return .spread value

/-- What the value of an attribute stands for; nothing, and nothing between braces, stand for true. -/
def AttributeValue.meaning (host : Host H M) (names : MethodNames) (bound : Bool) : AttributeValue → M (Value H)
  | .missing => return .boolean true
  | .text _ raw => return .string (Text.collapse (Text.decodeEntities raw))
  | .expression content => content.eval host names
  | .empty => return .boolean true
  | .markup m => m.meaning host names bound

/-- What children stand for, in source order. -/
def childrenMeaning (host : Host H M) (names : MethodNames) (bound : Bool) : List Child → M (List (Value H))
  | [] => return []
  | child :: rest => do
    let first ← child.meaning host names bound
    let others ← childrenMeaning host names bound rest
    return first ++ others

/-- What a child stands for: one value, or none for text with nothing in it and for empty braces, or as many as a
spread gives. -/
def Child.meaning (host : Host H M) (names : MethodNames) (bound : Bool) : Child → M (List (Value H))
  | .text _ raw =>
    let text := Text.normalize (Text.decodeEntities raw)
    return if text.isEmpty then [] else [.literal text]
  | .expression content => evalItems host names [content]
  | .empty => return []
  | .spread _ argument => do
    let value ← argument.eval host names
    host.elements value
  | .markup m => do
    let value ← m.meaning host names bound
    return [value]

end

/-! ### Evaluation of what lowering makes -/

section

variable (host : Host H M) (names : MethodNames)

/-- An expression that is not a bare spread, as no expression between braces is, is one item. -/
theorem evalItems_cons_of_ne_spread {item : Tree} (h : ∀ span argument, item ≠ .node .spread span [argument])
    (rest : List Tree) :
    evalItems host names (item :: rest) = (do
      let first ← item.eval host names
      let others ← evalItems host names rest
      return first :: others) := by
  rw [evalItems]
  intro span argument hitem
  exact h span argument hitem

private theorem eval_tag (tag : Tag) (span : Span) : (tag.argument span).eval host names = tag.meaning host names := by
  cases tag with
  | expression tree tagName => rfl
  | namespaced tagName => simp [Tag.argument, Tag.meaning, Tree.string, Tree.eval]

private theorem evalEntries_property (name : AttributeName) (span : Span) (value : Tree) (rest : List Tree) :
    evalEntries host names (.property span name.key value :: rest) = (do
      let value ← value.eval host names
      let others ← evalEntries host names rest
      return .keyed name.text value :: others) := by
  unfold AttributeName.key
  split <;> simp [Tree.property, Tree.string, evalEntries]

section

variable [LawfulMonad M]

private theorem evalItems_cons (item : Tree) (rest : List Tree) :
    evalItems host names (item :: rest) = (do
      let first ← evalItems host names [item]
      let others ← evalItems host names rest
      return first ++ others) := by
  by_cases h : ∃ span argument, item = .node .spread span [argument]
  · obtain ⟨span, argument, rfl⟩ := h
    simp [evalItems]
  · have h' : ∀ span argument, item ≠ .node .spread span [argument] := by
      intro span argument hitem
      exact h ⟨span, argument, hitem⟩
    rw [evalItems_cons_of_ne_spread host names h', evalItems_cons_of_ne_spread host names h']
    simp [evalItems]

private theorem evalItems_append (first rest : List Tree) :
    evalItems host names (first ++ rest) = (do
      let first ← evalItems host names first
      let others ← evalItems host names rest
      return first ++ others) := by
  induction first with
  | nil => simp [evalItems]
  | cons item first ih =>
    rw [List.cons_append, evalItems_cons, ih, evalItems_cons host names item first]
    simp only [bind_assoc, pure_bind, List.append_assoc]

private theorem eval_literalCall (span : Span) (text : String) :
    (names.literalCall span text).eval host names = pure (.literal text) := by
  simp [MethodNames.literalCall, MethodNames.callee, Tree.call, Tree.member, Tree.name, Tree.string, Tree.eval,
    evalItems, Host.get, Host.apply]

/-- A component call evaluates its tag, its attributes and its children, in this order. -/
private theorem eval_componentCall (span : Span) {tag : Tree} {attributes : Option Tree} (children : List Tree)
    (htag : ∀ inner argument, tag ≠ .node .spread inner [argument])
    (hattributes : ∀ inner argument, attributes.getD (.null span) ≠ .node .spread inner [argument]) :
    (names.componentCall span tag attributes children).eval host names = (do
      let tag ← tag.eval host names
      let attributes ← (attributes.getD (.null span)).eval host names
      let children ← evalItems host names children
      return .component tag attributes children) := by
  simp [MethodNames.componentCall, MethodNames.callee, Tree.call, Tree.member, Tree.name, Tree.eval,
    evalItems_cons_of_ne_spread host names htag, evalItems_cons_of_ne_spread host names hattributes, Host.get,
    Host.apply]

private theorem eval_attributes (span : Span) (attributes : List Attribute) (properties : List Tree) :
    ((attributeObject? attributes properties).getD (.null span)).eval host names =
      if attributes.isEmpty then pure .null else .object <$> evalEntries host names properties := by
  unfold attributeObject?
  split <;> simp [Tree.null, Tree.object, Tree.eval]

end

private theorem argument_ne_spread (name : ElementName) (bound : Bool) (outer span : Span) (argument : Tree) :
    (name.tag bound).argument outer ≠ .node .spread span [argument] := by
  have hsimple (inner : Span) (text : String) : (simpleTag inner text).argument outer ≠ .node .spread span [argument] := by
    unfold simpleTag
    split
    · simp [Tag.argument, Tree.string]
    · split <;> simp [Tag.argument, Tree.string, Tree.name]
  cases name with
  | plain inner text => exact hsimple inner text
  | self inner =>
    cases bound with
    | false => exact hsimple inner "this"
    | true => simp [ElementName.tag, Tag.argument, Tree.this]
  | dotted inner object propertySpan property => simp [ElementName.tag, Tag.argument, DottedName.path, Tree.member]
  | namespaced inner space text => simp [ElementName.tag, Tag.argument, Tree.string]

/-! ### Agreement -/

private theorem attributes_ne_spread (span : Span) (attributes : List Attribute) (properties : List Tree)
    (inner : Span) (argument : Tree) :
    (attributeObject? attributes properties).getD (.null span) ≠ .node .spread inner [argument] := by
  unfold attributeObject?
  split <;> simp [Tree.null, Tree.object]

private theorem literalCall_ne_spread (span : Span) (text : String) (inner : Span) (argument : Tree) :
    names.literalCall span text ≠ .node .spread inner [argument] := by
  simp [MethodNames.literalCall, Tree.call]

private theorem lower_ne_spread (bound : Bool) (m : Markup) (inner : Span) (argument : Tree) :
    (m.lower names bound).value ≠ .node .spread inner [argument] := by
  cases m with
  | element span name attributes children => simp [MethodNames.componentCall, Tree.call]
  | fragment span children => simp [Markup.lower, Tree.array]

variable (bound : Bool)

-- The induction is on markup: one case for each construct, and lists item by item, so that what stands directly in an
-- attribute or among children is smaller than what it stands in.
mutual

private theorem Markup.eval_lower [LawfulMonad M] : ∀ m : Markup,
    (m.lower names bound).value.eval host names = m.meaning host names bound
  | .element span name attributes children => by
    have hattributes := evalEntries_lowerAttributes attributes
    have hchildren := evalItems_lowerChildren children
    rw [value_lower_element, eval_componentCall host names span _ (argument_ne_spread name bound span)
      (attributes_ne_spread span attributes _)]
    rw [eval_tag, eval_attributes, hattributes, hchildren, Markup.meaning]
  | .fragment span children => by
    have hchildren := evalItems_lowerChildren children
    simp [Markup.lower, Markup.meaning, Tree.array, Tree.eval, hchildren]

private theorem evalEntries_lowerAttributes [LawfulMonad M] : ∀ attributes : List Attribute,
    evalEntries host names (lowerAttributes names bound attributes).value = attributesMeaning host names bound attributes
  | [] => by simp [lowerAttributes, evalEntries, attributesMeaning]
  | head :: rest => by
    have hrest := evalEntries_lowerAttributes rest
    simp only [lowerAttributes, Logged.value_bind, Logged.value_pure]
    rw [head.evalEntries_lower, hrest, attributesMeaning]

private theorem Attribute.evalEntries_lower [LawfulMonad M] : ∀ (head : Attribute) (rest : List Tree),
    evalEntries host names ((head.lower names bound).value :: rest) = (do
      let first ← head.meaning host names bound
      let others ← evalEntries host names rest
      return first :: others)
  | .named span name value, rest => by
    have hvalue := value.eval_lower span
    simp only [Attribute.lower, Logged.value_bind, Logged.value_pure]
    rw [evalEntries_property, hvalue, Attribute.meaning]
    simp
  | .spread span argument, rest => by simp [Attribute.lower, Attribute.meaning, Tree.spread, evalEntries]

private theorem AttributeValue.eval_lower [LawfulMonad M] : ∀ (value : AttributeValue) (span : Span),
    (value.lower names bound span).value.eval host names = value.meaning host names bound
  | .missing, span => by simp [AttributeValue.lower, AttributeValue.meaning, Tree.boolean, Tree.eval]
  | .text textSpan raw, span => by
    simp [AttributeValue.lower, AttributeValue.meaning, attributeText, Tree.string, Tree.eval]
  | .expression content, span => by simp [AttributeValue.lower, AttributeValue.meaning]
  | .empty, span => by simp [AttributeValue.lower, AttributeValue.meaning, Tree.boolean, Tree.eval]
  | .markup m, span => by
    have hm := m.eval_lower
    rw [AttributeValue.lower, AttributeValue.meaning, hm]

private theorem evalItems_lowerChildren [LawfulMonad M] : ∀ children : List Child,
    evalItems host names (lowerChildren names bound children).value = childrenMeaning host names bound children
  | [] => by simp [lowerChildren, evalItems, childrenMeaning]
  | child :: rest => by
    have hchild := child.evalItems_lower
    have hrest := evalItems_lowerChildren rest
    simp only [lowerChildren, Logged.value_bind, Logged.value_pure]
    rw [evalItems_append, hchild, hrest, childrenMeaning]

private theorem Child.evalItems_lower [LawfulMonad M] : ∀ child : Child,
    evalItems host names (child.lower names bound).value.toList = child.meaning host names bound
  | .text span raw => by
    rw [value_lower_text, Child.meaning, childText]
    split
    · simp [evalItems]
    · rw [Option.toList_some, evalItems_cons_of_ne_spread host names (literalCall_ne_spread names span _),
        eval_literalCall]
      simp [evalItems]
  | .expression content => by simp [Child.lower, Child.meaning]
  | .empty => by simp [Child.lower, Child.meaning, evalItems]
  | .spread span argument => by simp [Child.lower, Child.meaning, Tree.spread, evalItems]
  | .markup m => by
    have hm := m.eval_lower
    simp only [Child.lower, Logged.value_bind, Logged.value_pure, Option.toList_some, Child.meaning]
    rw [evalItems_cons_of_ne_spread host names (lower_ne_spread names bound m), hm]
    simp [evalItems]

end

/-- Lowering keeps the meaning of markup.  The call that an element becomes evaluates its tag, then its attributes and
then its children, in source order, and gives a component of these; the array that a fragment becomes gives its
children. -/
theorem lower_preserves_meaning [LawfulMonad M] :
    (∀ (span : Span) (name : ElementName) (attributes : List Attribute) (children : List Child),
      ((Markup.element span name attributes children).lower names bound).value.eval host names = (do
        let tag ← (name.tag bound).meaning host names
        let attributes ← (if attributes.isEmpty then pure .null
          else .object <$> attributesMeaning host names bound attributes)
        let children ← childrenMeaning host names bound children
        return .component tag attributes children)) ∧
    (∀ (span : Span) (children : List Child),
      ((Markup.fragment span children).lower names bound).value.eval host names =
        .array <$> childrenMeaning host names bound children) := by
  constructor
  · intro span name attributes children
    rw [Markup.eval_lower, Markup.meaning]
  · intro span children
    rw [Markup.eval_lower, Markup.meaning, map_eq_pure_bind]

end

end

/-- A host language that notes every name it is asked for, and spreads a value into two. -/
def notingHost : Host String (StateM (List String)) where
  name text := do
    modify (· ++ [text])
    return .other text
  receiver := return .other "this"
  member _ property := return .other property
  call _ _ _ := return .null
  elements value := return [value, value]
  expression _ := return .null
  entry _ := return .spread .null

/-- `<Card {...props} icon=<B>{x}</B> open>{y}{}{...zs}</Card>` -/
private def card : Markup :=
  .element ⟨0, 54⟩ (.plain ⟨1, 5⟩ "Card")
    [.spread ⟨6, 16⟩ (.name ⟨10, 15⟩ "props"),
      .named ⟨17, 32⟩ (.plain ⟨17, 21⟩ "icon")
        (.markup (.element ⟨22, 32⟩ (.plain ⟨23, 24⟩ "B") [] [.expression (.name ⟨26, 27⟩ "x")])),
      .named ⟨33, 37⟩ (.plain ⟨33, 37⟩ "open") .missing]
    [.expression (.name ⟨39, 40⟩ "y"), .empty, .spread ⟨43, 50⟩ (.name ⟨47, 49⟩ "zs")]

/-- The call that `card` becomes evaluates the names in it in source order, each once. -/
theorem lower_card_meaning :
    ((card.lower .standard false).value.eval notingHost .standard).run [] =
      (.component (.other "Card")
        (.object [.spread (.other "props"), .keyed "icon" (.component (.string "b") .null [.other "x"]),
          .keyed "open" (.boolean true)])
        [.other "y", .other "zs", .other "zs"],
      ["Card", "props", "x", "y", "zs"]) := by
  rw [card, (lower_preserves_meaning notingHost .standard false).1]
  rfl

end JsxLowering
