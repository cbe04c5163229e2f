import JsxLowering.Proofs.Places

/-!
# Markup is eliminated, and nothing else is touched

* No markup is left anywhere in a lowered tree (`hasMarkup_lowerInPlace`).
* A tree without markup is lowered to itself, and nothing is reported (`lowerMarkup_of_not_hasMarkup`); so a second
  pass changes nothing.
* A part of a program without markup, also between the braces of markup at any depth, stands at its image in the
  lowered program as it was.
-/

namespace JsxLowering

/-! ### Trees without markup -/

mutual

/-- Whether markup stands anywhere in a tree. -/
def Tree.hasMarkup : Tree → Bool
  | .node _ _ parts => anyHasMarkup parts
  | .markup _ => true

/-- Whether markup stands anywhere in a list of trees. -/
def anyHasMarkup : List Tree → Bool
  | [] => false
  | part :: rest => part.hasMarkup || anyHasMarkup rest

end

private theorem anyHasMarkup_append (first rest : List Tree) :
    anyHasMarkup (first ++ rest) = (anyHasMarkup first || anyHasMarkup rest) := by
  induction first with
  | nil => rfl
  | cons part first ih => simp [anyHasMarkup, ih, Bool.or_assoc]

private theorem hasMarkup_path (object : DottedName) : object.path.hasMarkup = false := by
  induction object with
  | head span name => rfl
  | self span => rfl
  | dot span object propertySpan property ih =>
    simp [DottedName.path, Tree.member, Tree.hasMarkup, anyHasMarkup, ih]

private theorem hasMarkup_simpleTag (inner outer : Span) (name : String) :
    ((simpleTag inner name).argument outer).hasMarkup = false := by
  unfold simpleTag
  split
  · rfl
  · split <;> rfl

private theorem hasMarkup_tag (name : ElementName) (bound : Bool) (span : Span) :
    ((name.tag bound).argument span).hasMarkup = false := by
  cases name with
  | plain inner text => exact hasMarkup_simpleTag inner span text
  | self inner =>
    cases bound with
    | false => exact hasMarkup_simpleTag inner span "this"
    | true => rfl
  | dotted inner object propertySpan property =>
    exact hasMarkup_path (.dot inner object propertySpan property)
  | namespaced inner space text => rfl

private theorem hasMarkup_key (name : AttributeName) : name.key.hasMarkup = false := by
  unfold AttributeName.key
  split <;> rfl

private theorem hasMarkup_attributeObject? (span : Span) (attributes : List Attribute) {properties : List Tree}
    (h : anyHasMarkup properties = false) :
    ((attributeObject? attributes properties).getD (.null span)).hasMarkup = false := by
  unfold attributeObject?
  split
  · rfl
  · simpa [Tree.object, Tree.hasMarkup] using h

/-! ### Elimination -/

section

variable (names : MethodNames) (script : Bool)

mutual

/-- No markup is left in a lowered tree. -/
theorem hasMarkup_lowerInPlace : ∀ (t : Tree) (ancestors : List Ancestor),
    (t.lowerInPlace names script ancestors).hasMarkup = false
  | .node form span parts, ancestors => by
    rw [Tree.lowerInPlace, Tree.hasMarkup]
    exact anyHasMarkup_partsInPlace parts _
  | .markup m, ancestors => by
    rw [Tree.lowerInPlace]
    exact m.hasMarkup_lowerInPlace ancestors

private theorem anyHasMarkup_partsInPlace : ∀ (parts : List Tree) (ancestors : List Ancestor),
    anyHasMarkup (partsInPlace names script ancestors parts) = false
  | [], ancestors => by simp [partsInPlace, anyHasMarkup]
  | part :: rest, ancestors => by
    rw [partsInPlace, anyHasMarkup, hasMarkup_lowerInPlace part, anyHasMarkup_partsInPlace rest]
    rfl

private theorem Markup.hasMarkup_lowerInPlace : ∀ (m : Markup) (ancestors : List Ancestor),
    (m.lowerInPlace names script ancestors).hasMarkup = false
  | .element span name attributes children, ancestors => by
    have hattributes := anyHasMarkup_attributesInPlace attributes (.element :: ancestors)
    have hchildren := anyHasMarkup_childrenInPlace children (.element :: ancestors)
    rw [Markup.lowerInPlace, MethodNames.componentCall, Tree.call, Tree.hasMarkup]
    simp only [anyHasMarkup]
    rw [hasMarkup_tag, hasMarkup_attributeObject? span attributes hattributes, hchildren]
    rfl
  | .fragment span children, ancestors => by
    rw [Markup.lowerInPlace, Tree.array, Tree.hasMarkup]
    exact anyHasMarkup_childrenInPlace children _

private theorem anyHasMarkup_attributesInPlace : ∀ (attributes : List Attribute) (ancestors : List Ancestor),
    anyHasMarkup (attributesInPlace names script ancestors attributes) = false
  | [], ancestors => by simp [attributesInPlace, anyHasMarkup]
  | head :: rest, ancestors => by
    rw [attributesInPlace, anyHasMarkup, head.hasMarkup_lowerInPlace, anyHasMarkup_attributesInPlace rest]
    rfl

private theorem Attribute.hasMarkup_lowerInPlace : ∀ (head : Attribute) (ancestors : List Ancestor),
    (head.lowerInPlace names script ancestors).hasMarkup = false
  | .named span name value, ancestors => by
    have hvalue := value.hasMarkup_lowerInPlace span (.named :: ancestors)
    simp [Attribute.lowerInPlace, Tree.property, Tree.hasMarkup, anyHasMarkup, hasMarkup_key, hvalue]
  | .spread span argument, ancestors => by
    have hargument := hasMarkup_lowerInPlace argument (.braces :: ancestors)
    simp [Attribute.lowerInPlace, Tree.spread, Tree.hasMarkup, anyHasMarkup, hargument]

private theorem AttributeValue.hasMarkup_lowerInPlace :
    ∀ (value : AttributeValue) (span : Span) (ancestors : List Ancestor),
      (value.lowerInPlace names script ancestors span).hasMarkup = false
  | .missing, span, ancestors => by simp [AttributeValue.lowerInPlace, Tree.boolean, Tree.hasMarkup, anyHasMarkup]
  | .text textSpan raw, span, ancestors => by
    simp [AttributeValue.lowerInPlace, Tree.string, Tree.hasMarkup, anyHasMarkup]
  | .expression content, span, ancestors => by
    rw [AttributeValue.lowerInPlace]
    exact hasMarkup_lowerInPlace content _
  | .empty, span, ancestors => by simp [AttributeValue.lowerInPlace, Tree.boolean, Tree.hasMarkup, anyHasMarkup]
  | .markup m, span, ancestors => by
    rw [AttributeValue.lowerInPlace]
    exact m.hasMarkup_lowerInPlace _

private theorem anyHasMarkup_childrenInPlace : ∀ (children : List Child) (ancestors : List Ancestor),
    anyHasMarkup (childrenInPlace names script ancestors children) = false
  | [], ancestors => by simp [childrenInPlace, anyHasMarkup]
  | child :: rest, ancestors => by
    rw [childrenInPlace, anyHasMarkup_append, child.anyHasMarkup_lowerInPlace, anyHasMarkup_childrenInPlace rest]
    rfl

private theorem Child.anyHasMarkup_lowerInPlace : ∀ (child : Child) (ancestors : List Ancestor),
    anyHasMarkup (child.lowerInPlace names script ancestors).toList = false
  | .text span raw, ancestors => by
    rw [Child.lowerInPlace]
    split <;> rfl
  | .expression content, ancestors => by
    have hcontent := hasMarkup_lowerInPlace content (.braces :: ancestors)
    simp [Child.lowerInPlace, anyHasMarkup, hcontent]
  | .empty, ancestors => by simp [Child.lowerInPlace, anyHasMarkup]
  | .spread span argument, ancestors => by
    have hargument := hasMarkup_lowerInPlace argument (.braces :: ancestors)
    simp [Child.lowerInPlace, Tree.spread, Tree.hasMarkup, anyHasMarkup, hargument]
  | .markup m, ancestors => by
    have hm := m.hasMarkup_lowerInPlace ancestors
    simp [Child.lowerInPlace, anyHasMarkup, hm]

end

end

/-! ### Trees without markup are left alone -/

mutual

/-- A tree without markup is lowered to itself, and nothing is reported. -/
theorem lowerMarkup_of_not_hasMarkup : ∀ (t : Tree) (s : Surroundings), t.hasMarkup = false → t.lowerMarkup s = pure t
  | .node form span parts, s, h => by
    rw [Tree.hasMarkup] at h
    rw [Tree.lowerMarkup, lowerInParts_of_not_anyHasMarkup parts (s.enter form) h]
    rfl
  | .markup m, s, h => by simp [Tree.hasMarkup] at h

private theorem lowerInParts_of_not_anyHasMarkup :
    ∀ (parts : List Tree) (s : Surroundings), anyHasMarkup parts = false → lowerInParts s parts = pure parts
  | [], s, h => by rw [lowerInParts]
  | part :: rest, s, h => by
    rw [anyHasMarkup, Bool.or_eq_false_iff] at h
    rw [lowerInParts, lowerMarkup_of_not_hasMarkup part s h.1, lowerInParts_of_not_anyHasMarkup rest s h.2]
    rfl

end

theorem lowerInPlace_of_not_hasMarkup (names : MethodNames) (script : Bool) (ancestors : List Ancestor) {t : Tree}
    (h : t.hasMarkup = false) : t.lowerInPlace names script ancestors = t := by
  have hplace : Surroundings.Describes ⟨names, script, ancestors.map Ancestor.frame⟩ ancestors := rfl
  have hlower := t.value_lowerMarkup hplace
  rw [lowerMarkup_of_not_hasMarkup t _ h] at hlower
  exact hlower.symm

/-! ### Whole programs -/

/-- The pass over a program leaves no markup in it and every part without markup as it was, at its place; a program
without markup stays the same with nothing to report, and so does every result of the pass. -/
theorem lowerProgram_eliminates_markup (options again : Options) (program : Tree) :
    (lowerProgram options program).value.hasMarkup = false ∧
    (∀ (path : List Step) (part : Tree), program.at? path = some part → part.hasMarkup = false →
      (lowerProgram options program).value.at? (program.image path) = some part) ∧
    (program.hasMarkup = false →
      (lowerProgram options program).value = program ∧ (lowerProgram options program).hints = []) ∧
    (lowerProgram again (lowerProgram options program).value).value = (lowerProgram options program).value ∧
    (lowerProgram again (lowerProgram options program).value).hints = [] := by
  have hplace : (lowerProgram options program).value =
      program.lowerInPlace options.names (options.dialect.loading == .script) [] :=
    program.value_lowerMarkup (Surroundings.describes_root _ _)
  have hfree : (lowerProgram options program).value.hasMarkup = false := by
    rw [hplace]
    exact hasMarkup_lowerInPlace _ _ program []
  have hsame (options : Options) {t : Tree} (h : t.hasMarkup = false) : lowerProgram options t = pure t :=
    lowerMarkup_of_not_hasMarkup t _ h
  refine ⟨hfree, ?_, ?_, ?_, ?_⟩
  · intro path part hpath hpart
    rw [hplace, at?_image_lowerInPlace _ _ hpath [], lowerInPlace_of_not_hasMarkup _ _ _ hpart]
  · intro hprogram
    rw [hsame options hprogram]
    exact ⟨rfl, rfl⟩
  · rw [hsame again hfree]
    rfl
  · rw [hsame again hfree]
    rfl

/-- The expression `<a b={f(x)}>{<c>{y}</c>}{z}</a>`. -/
private def braced : Tree :=
  .markup (.element ⟨0, 31⟩ (.plain ⟨1, 2⟩ "a")
    [.named ⟨3, 11⟩ (.plain ⟨3, 4⟩ "b") (.expression (.call ⟨6, 10⟩ (.name ⟨6, 7⟩ "f") [.name ⟨8, 9⟩ "x"]))]
    [.expression (.markup (.element ⟨13, 23⟩ (.plain ⟨14, 15⟩ "c") [] [.expression (.name ⟨17, 18⟩ "y")])),
      .expression (.name ⟨25, 26⟩ "z")])

/-- The call in the attribute of `braced` and the name between its innermost braces stay as they are, and the call alone
is left alone. -/
theorem lowerProgram_braced_frame :
    (lowerProgram .standard braced).value.at? [.part 2, .part 0, .part 1] =
        some (.call ⟨6, 10⟩ (.name ⟨6, 7⟩ "f") [.name ⟨8, 9⟩ "x"]) ∧
      (lowerProgram .standard braced).value.at? [.part 3, .part 3] = some (.name ⟨17, 18⟩ "y") ∧
      (lowerProgram .standard (.call ⟨6, 10⟩ (.name ⟨6, 7⟩ "f") [.name ⟨8, 9⟩ "x"])).hints = [] :=
  have frame := (lowerProgram_eliminates_markup .standard .standard braced).2.1
  ⟨frame [.ofAttribute 0] _ rfl rfl, frame [.ofChild 0, .ofChild 0] _ rfl rfl,
    ((lowerProgram_eliminates_markup .standard .standard _).2.2.1 rfl).2⟩

end JsxLowering
