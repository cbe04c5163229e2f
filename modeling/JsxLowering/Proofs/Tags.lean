import JsxLowering.Proofs.Introduced
import JsxLowering.Proofs.References

/-!
# What element names stand for

An element name is the receiver, a path, a name in a namespace or a single name, and a single name is a standard one in
some capitalisation, a string or a reference.  Each of these is a tag of its own form (`Classifies`).

* `memberChain_iff`: the path of a dotted name is a chain of members, whose head is that of the name.
* `sameLetters_iff`: two names are capitalisations of each other iff they agree in lower case.
* `singleTag_simpleTag`: the three kinds of single names.
* `firstArgument?_lower_element`: the first argument of the call that an element becomes is that of its tag.
-/

namespace JsxLowering

/-! ### Chains of members -/

/-- A member expression whose objects lead down to `head`, a reference or the receiver. -/
inductive MemberChain : Tree → Tree → Prop
  | name (nameSpan : Span) (text : String) (span propertySpan : Span) (property : String) :
      MemberChain (.name nameSpan text) (.member span (.name nameSpan text) propertySpan property)
  | this (nameSpan : Span) (span propertySpan : Span) (property : String) :
      MemberChain (.this nameSpan) (.member span (.this nameSpan) propertySpan property)
  | member {head object : Tree} (h : MemberChain head object) (span propertySpan : Span) (property : String) :
      MemberChain head (.member span object propertySpan property)

/-- The tree that the head of a dotted name becomes. -/
def DottedName.headTree : DottedName → Tree
  | head span name => .name span name
  | self span => .this span
  | dot _ object _ _ => object.headTree

theorem memberChain_iff {head : Tree} {object : DottedName} {span propertySpan : Span} {property : String} :
    MemberChain head (.member span object.path propertySpan property) ↔ head = object.headTree := by
  induction object generalizing span propertySpan property with
  | head nameSpan name =>
    constructor
    · intro h
      cases h with
      | name => rfl
      | member h => cases h
    · rintro rfl
      exact .name nameSpan name span propertySpan property
  | self nameSpan =>
    constructor
    · intro h
      cases h with
      | this => rfl
      | member h => cases h
    · rintro rfl
      exact .this nameSpan span propertySpan property
  | dot inner object innerSpan innerProperty ih =>
    constructor
    · intro h
      cases h with
      | member h => exact ih.1 h
    · intro h
      exact .member (ih.2 h) span propertySpan property

theorem DottedName.exists_headTree_eq_this_iff {object : DottedName} :
    (∃ nameSpan, object.headTree = .this nameSpan) ↔ object.headName? = none := by
  induction object with
  | head span name => simp [headTree, headName?, Tree.name, Tree.this]
  | self span => simp [headTree, headName?]
  | dot span object propertySpan property ih => exact ih

/-! ### Capitalisations -/

/-- The same character, or the same ASCII letter in the other case. -/
def SameLetter (c d : Char) : Prop :=
  c = d ∨ ('A' ≤ c ∧ c ≤ 'Z' ∧ d.toNat = c.toNat + 32) ∨ ('A' ≤ d ∧ d ≤ 'Z' ∧ c.toNat = d.toNat + 32)

/-- Two names that differ at most in the case of ASCII letters. -/
def SameLetters (name other : String) : Prop := List.Forall₂ SameLetter name.toList other.toList

/-- The name starts with a small ASCII letter. -/
def Small (name : String) : Prop := ∃ c ∈ name.toList.head?, 'a' ≤ c ∧ c ≤ 'z'

theorem sameLetter_iff {c d : Char} : SameLetter c d ↔ c.toLower = d.toLower := by
  have hle : ∀ c d : Char, c ≤ d ↔ c.toNat ≤ d.toNat := fun _ _ => Iff.rfl
  simp only [SameLetter, hle, Char.reduceToNat, ← Char.toNat_inj, Text.toNat_toLower]
  split_ifs <;> omega

/-- Two names have the same letters iff they agree in lower case. -/
theorem sameLetters_iff {name other : String} : SameLetters name other ↔ asciiLower name = asciiLower other := by
  have hsame : SameLetter = fun c d => c.toLower = d.toLower := by
    funext c d
    exact propext sameLetter_iff
  rw [asciiLower, asciiLower, String.ofList_inj, SameLetters, hsame, ← List.forall₂_eq_eq_eq,
    List.forall₂_map_left_iff, List.forall₂_map_right_iff]

theorem asciiLower_of_mem_htmlTags : ∀ tag ∈ htmlTags, asciiLower tag = tag := by
  decide +kernel

theorem startsSmall_iff {name : String} : startsSmall name = true ↔ Small name := by
  rw [startsSmall, Small]
  cases name.toList with
  | nil => simp
  | cons c rest =>
    simp only [List.head?_cons, Option.mem_some_iff, exists_eq_left']
    delta Char.isLower
    rw [Bool.and_eq_true, decide_eq_true_eq, decide_eq_true_eq]
    rfl

/-! ### Single names -/

/-- The name can stand as a bare identifier. -/
def Referable (name : String) : Prop := Text.isIdentifierName name = true ∧ name ∉ Text.reservedWords

theorem isValidIdentifier_iff {name : String} : Text.isValidIdentifier name = true ↔ Referable name := by
  simp [Text.isValidIdentifier, Referable]

/-- The single name of an element that is not the receiver, with its span. -/
def ElementName.single? (bound : Bool) : ElementName → Option (Span × String)
  | plain span name => some (span, name)
  | self span => if bound then none else some (span, "this")
  | _ => none

namespace Tag

/-- The tag of a name that becomes a string. -/
def literal (nameSpan : Span) (text : String) : Tag := .expression (.string nameSpan text) (some text)

/-- The tag of a name that becomes a reference. -/
def reference (nameSpan : Span) (name : String) : Tag := .expression (.name nameSpan name) (some name)

theorem literal_inj {nameSpan : Span} {text other : String} :
    literal nameSpan text = literal nameSpan other ↔ text = other := by
  simp [literal, Tree.string]

theorem literal_ne_reference (nameSpan : Span) (text name : String) :
    literal nameSpan text ≠ reference nameSpan name := by
  simp [literal, reference, Tree.string, Tree.name]

end Tag

/-- The three kinds of single names. -/
inductive SingleTag (nameSpan : Span) (name : String) : Tag → Prop
  | standard (h : asciiLower name ∈ htmlTags) : SingleTag nameSpan name (.literal nameSpan (asciiLower name))
  | string (hother : asciiLower name ∉ htmlTags) (h : Small name ∨ ¬ Referable name) :
      SingleTag nameSpan name (.literal nameSpan name)
  | reference (hother : asciiLower name ∉ htmlTags) (hsmall : ¬ Small name) (h : Referable name) :
      SingleTag nameSpan name (.reference nameSpan name)

theorem singleTag_simpleTag (nameSpan : Span) (name : String) : SingleTag nameSpan name (simpleTag nameSpan name) := by
  have hhtml : isHtmlTag name = true ↔ asciiLower name ∈ htmlTags := List.contains_iff_mem
  have hstring : (startsSmall name || !Text.isValidIdentifier name) = true ↔ Small name ∨ ¬ Referable name := by
    rw [Bool.or_eq_true, startsSmall_iff, Bool.not_eq_true', ← Bool.not_eq_true, isValidIdentifier_iff]
  rw [simpleTag]
  split
  next h => exact .standard (hhtml.1 h)
  next hother =>
    rw [hhtml] at hother
    split
    next h => exact .string hother (hstring.1 h)
    next h =>
      rw [hstring, not_or, not_not] at h
      exact .reference hother h.1 h.2

section

variable {nameSpan : Span} {name : String} {tag : Tag}

theorem SingleTag.eq_literal_html_iff (h : SingleTag nameSpan name tag) {text : String} (htext : text ∈ htmlTags) :
    tag = .literal nameSpan text ↔ asciiLower name = text := by
  cases h with
  | standard => exact Tag.literal_inj
  | string hother =>
    rw [Tag.literal_inj]
    constructor
    · rintro rfl
      exact asciiLower_of_mem_htmlTags _ htext
    · rintro rfl
      exact absurd htext hother
  | reference hother =>
    refine ⟨fun heq => absurd heq.symm (Tag.literal_ne_reference _ _ _), ?_⟩
    rintro rfl
    exact absurd htext hother

theorem SingleTag.eq_literal_iff (h : SingleTag nameSpan name tag) (hother : asciiLower name ∉ htmlTags) :
    tag = .literal nameSpan name ↔ Small name ∨ ¬ Referable name := by
  cases h with
  | standard hhtml => exact absurd hhtml hother
  | string _ hstring => exact iff_of_true rfl hstring
  | reference _ hsmall hname =>
    exact iff_of_false (Tag.literal_ne_reference _ _ _).symm (by simp [hsmall, hname])

theorem SingleTag.eq_reference_iff (h : SingleTag nameSpan name tag) (hother : asciiLower name ∉ htmlTags) :
    tag = .reference nameSpan name ↔ ¬ (Small name ∨ ¬ Referable name) := by
  cases h with
  | standard hhtml => exact absurd hhtml hother
  | string _ hstring => exact iff_of_false (Tag.literal_ne_reference _ _ _) (not_not.2 hstring)
  | reference _ hsmall hname => exact iff_of_true rfl (by simp [hsmall, hname])

/-- The first argument for a single name is a reference only where the tag is one. -/
theorem SingleTag.argument_eq_name_iff (h : SingleTag nameSpan name tag) {span inner : Span} {other : String} :
    tag.argument span = .name inner other ↔
      nameSpan = inner ∧ name = other ∧ asciiLower name ∉ htmlTags ∧ ¬ Small name ∧ Referable name := by
  cases h with
  | standard hhtml => simp [Tag.literal, Tag.argument, Tree.string, Tree.name, hhtml]
  | string _ hstring =>
    refine iff_of_false (by simp [Tag.literal, Tag.argument, Tree.string, Tree.name]) ?_
    rintro ⟨-, -, -, hsmall, hname⟩
    exact hstring.elim hsmall (fun hnot => hnot hname)
  | reference hother hsmall hname =>
    simp [Tag.reference, Tag.argument, Tree.name, hother, hsmall, hname, and_comm]

end

/-! ### All names -/

/-- Which tag belongs to which kind of name. -/
structure Classifies (bound : Bool) (name : ElementName) (tag : Tag) : Prop where
  /-- The receiver, for a single `this` where there is one. -/
  receiver : ∀ nameSpan, tag = .expression (.this nameSpan) none ↔ name = .self nameSpan ∧ bound = true
  /-- A chain of members, for a dotted name. -/
  path : (∃ head tree, MemberChain head tree ∧ tag = .expression tree none) ↔ ∃ dotted, name.dotted? = some dotted
  /-- The chain starts with the receiver if the dotted name starts with `this`, whether there is a receiver or not. -/
  head : ∀ head tree dotted, MemberChain head tree → tag = .expression tree none → name.dotted? = some dotted →
    ((∃ nameSpan, head = .this nameSpan) ↔ dotted.headName? = none)
  /-- Both parts of a name in a namespace. -/
  space : ∀ text, tag = .namespaced text ↔
    ∃ nameSpan space localName, name = .namespaced nameSpan space localName ∧ text = space ++ ":" ++ localName
  /-- Only the receiver and the chains come without a tag name. -/
  nameless : tag.name? = none ↔
    (∃ nameSpan, name = .self nameSpan ∧ bound = true) ∨ ∃ dotted, name.dotted? = some dotted
  /-- A standard name in lower case, for its capitalisations. -/
  standard : ∀ nameSpan single, name.single? bound = some (nameSpan, single) → ∀ text ∈ htmlTags,
    (tag = .literal nameSpan text ↔ asciiLower single = text)
  /-- Any other single name as it is written, if it starts with a small letter or cannot stand as an identifier. -/
  literal : ∀ nameSpan single, name.single? bound = some (nameSpan, single) → asciiLower single ∉ htmlTags →
    (tag = .literal nameSpan single ↔ Small single ∨ ¬ Referable single)
  /-- A reference otherwise. -/
  reference : ∀ nameSpan single, name.single? bound = some (nameSpan, single) → asciiLower single ∉ htmlTags →
    (tag = .reference nameSpan single ↔ ¬ (Small single ∨ ¬ Referable single))

theorem SingleTag.exists_eq {nameSpan : Span} {name : String} {tag : Tag} (h : SingleTag nameSpan name tag) :
    ∃ tree text, tag = .expression tree (some text) := by
  cases h with
  | standard => exact ⟨_, _, rfl⟩
  | string => exact ⟨_, _, rfl⟩
  | reference => exact ⟨_, _, rfl⟩

theorem not_memberChain_this (head : Tree) (nameSpan : Span) : ¬ MemberChain head (.this nameSpan) := nofun

theorem classifies_receiver (nameSpan : Span) :
    Classifies true (.self nameSpan) (.expression (.this nameSpan) none) where
  receiver := by simp [Tree.this]
  path := by simp [ElementName.dotted?, not_memberChain_this]
  head := by simp [ElementName.dotted?]
  space := by simp
  nameless := by simp [Tag.name?]
  standard := by simp [ElementName.single?]
  literal := by simp [ElementName.single?]
  reference := by simp [ElementName.single?]

theorem classifies_path (bound : Bool) (span : Span) (object : DottedName) (propertySpan : Span) (property : String) :
    Classifies bound (.dotted span object propertySpan property)
      (.expression (.member span object.path propertySpan property) none) where
  receiver := by simp [Tree.this, Tree.member]
  path := by simp [ElementName.dotted?, memberChain_iff]
  head := by
    rintro head tree dotted hchain ⟨⟩ ⟨⟩
    rw [memberChain_iff.1 hchain]
    exact DottedName.exists_headTree_eq_this_iff
  space := by simp
  nameless := by simp [Tag.name?, ElementName.dotted?]
  standard := by simp [ElementName.single?]
  literal := by simp [ElementName.single?]
  reference := by simp [ElementName.single?]

theorem classifies_namespaced (bound : Bool) (nameSpan : Span) (space localName : String) :
    Classifies bound (.namespaced nameSpan space localName) (.namespaced (space ++ ":" ++ localName)) where
  receiver := by simp
  path := by simp [ElementName.dotted?]
  head := by simp
  space := by
    intro text
    constructor
    · rintro ⟨⟩
      exact ⟨nameSpan, space, localName, rfl, rfl⟩
    · rintro ⟨_, _, _, ⟨⟩, rfl⟩
      rfl
  nameless := by simp [Tag.name?, ElementName.dotted?]
  standard := by simp [ElementName.single?]
  literal := by simp [ElementName.single?]
  reference := by simp [ElementName.single?]

theorem classifies_single {bound : Bool} {name : ElementName} {nameSpan : Span} {single : String} {tag : Tag}
    (hname : name.single? bound = some (nameSpan, single)) (h : SingleTag nameSpan single tag) :
    Classifies bound name tag := by
  have hreceiver : ∀ inner, ¬ (name = .self inner ∧ bound = true) := by
    rintro inner ⟨rfl, rfl⟩
    cases hname
  have hdotted : name.dotted? = none := by
    cases name with
    | dotted => cases hname
    | plain | self | namespaced => rfl
  have hspace : ∀ inner space text, name ≠ .namespaced inner space text := by
    rintro inner space text rfl
    cases hname
  obtain ⟨tree, text, htag⟩ := h.exists_eq
  exact {
    receiver := fun inner => by simp [htag, hreceiver]
    path := by simp [htag, hdotted]
    head := by simp [htag]
    space := fun text => by simp [htag, hspace]
    nameless := by simp [htag, Tag.name?, hreceiver, hdotted]
    standard := by
      intro _ _ hsingle text htext
      obtain ⟨⟩ := hname.symm.trans hsingle
      exact h.eq_literal_html_iff htext
    literal := by
      intro _ _ hsingle hother
      obtain ⟨⟩ := hname.symm.trans hsingle
      exact h.eq_literal_iff hother
    reference := by
      intro _ _ hsingle hother
      obtain ⟨⟩ := hname.symm.trans hsingle
      exact h.eq_reference_iff hother }

theorem classifies_tag (bound : Bool) (name : ElementName) : Classifies bound name (name.tag bound) := by
  cases name with
  | plain nameSpan single => exact classifies_single rfl (singleTag_simpleTag nameSpan single)
  | self nameSpan =>
    cases bound with
    | true => exact classifies_receiver nameSpan
    | false => exact classifies_single rfl (singleTag_simpleTag nameSpan "this")
  | dotted span object propertySpan property => exact classifies_path bound span object propertySpan property
  | namespaced nameSpan space localName => exact classifies_namespaced bound nameSpan space localName

/-! ### The first argument -/

/-- The first argument of a call. -/
def Tree.firstArgument? : Tree → Option Tree
  | .node (.call _ _) _ (_ :: first :: _) => some first
  | _ => none

theorem firstArgument?_lower_element (names : MethodNames) (bound : Bool) (span : Span) (name : ElementName)
    (attributes : List Attribute) (children : List Child) :
    ((Markup.element span name attributes children).lower names bound).value.firstArgument? =
      some ((name.tag bound).argument span) := by
  rw [value_lower_element]
  rfl

theorem argument_tag_eq_name_iff {bound : Bool} {name : ElementName} {span nameSpan : Span} {single : String} :
    (name.tag bound).argument span = .name nameSpan single ↔
      name = .plain nameSpan single ∧ asciiLower single ∉ htmlTags ∧ ¬ Small single ∧ Referable single := by
  cases name with
  | plain inner text =>
    have htag : SingleTag inner text ((ElementName.plain inner text).tag bound) := singleTag_simpleTag inner text
    rw [htag.argument_eq_name_iff, ElementName.plain.injEq, and_assoc]
    refine and_congr_right fun _ => and_congr_right ?_
    rintro rfl
    rfl
  | self inner =>
    cases bound with
    | true => simp [ElementName.tag, Tag.argument, Tree.this, Tree.name]
    | false =>
      have htag : SingleTag inner "this" ((ElementName.self inner).tag false) := singleTag_simpleTag inner "this"
      have hsmall : Small "this" := ⟨'t', rfl, by decide, by decide⟩
      rw [htag.argument_eq_name_iff]
      simp [hsmall]
  | dotted inner object propertySpan property =>
    simp [ElementName.tag, Tag.argument, DottedName.path, Tree.member, Tree.name]
  | namespaced inner space text => simp [ElementName.tag, Tag.argument, Tree.string, Tree.name]

/-- A name is no capitalisation of a standard one iff it is none in lower case. -/
theorem not_mem_htmlTags_iff {name : String} :
    asciiLower name ∉ htmlTags ↔ ∀ text ∈ htmlTags, ¬ SameLetters name text := by
  constructor
  · intro h text htext hsame
    rw [sameLetters_iff, asciiLower_of_mem_htmlTags text htext] at hsame
    exact h (hsame ▸ htext)
  · intro h hmem
    refine h _ hmem (sameLetters_iff.2 ?_)
    rw [asciiLower_of_mem_htmlTags _ hmem]

/-- The tag of an element name tells of which kind the name is, and is the same for all capitalisations of a standard
name.  So the first argument of the call that an element becomes is a reference exactly for single names that can stand
as identifiers, are no capitalisation of a standard name and do not start with a small letter, and for a name in a
namespace it is the string of both parts. -/
theorem tag_partitions_names (bound : Bool) (name : ElementName) :
    Classifies bound name (name.tag bound) ∧
    (∀ nameSpan single other, name.single? bound = some (nameSpan, single) → asciiLower single ∈ htmlTags →
      SameLetters single other → (ElementName.plain nameSpan other).tag bound = name.tag bound) ∧
    ∀ (names : MethodNames) (span : Span) (attributes : List Attribute) (children : List Child), ∃ first,
      ((Markup.element span name attributes children).lower names bound).value.firstArgument? = some first ∧
      (∀ nameSpan single, first = .name nameSpan single ↔ name = .plain nameSpan single ∧ Referable single ∧
        (∀ text ∈ htmlTags, ¬ SameLetters single text) ∧ ¬ Small single) ∧
      ∀ nameSpan space localName, name = .namespaced nameSpan space localName →
        first = .string span (space ++ ":" ++ localName) := by
  refine ⟨classifies_tag bound name, ?_, fun names span attributes children => ?_⟩
  · intro nameSpan single other hname hhtml hsame
    have hother : asciiLower other = asciiLower single := (sameLetters_iff.1 hsame).symm
    rw [((classifies_tag bound name).standard nameSpan single hname _ hhtml).2 rfl,
      ((classifies_tag bound (.plain nameSpan other)).standard nameSpan other rfl _ hhtml).2 hother]
  · refine ⟨_, firstArgument?_lower_element names bound span name attributes children, fun nameSpan single => ?_, ?_⟩
    · rw [argument_tag_eq_name_iff, not_mem_htmlTags_iff]
      tauto
    · rintro nameSpan space localName rfl
      rfl

/-- A capitalisation of a reserved word that is a standard name, and a path from `this` where there is no receiver. -/
theorem tag_capitals_and_this_path :
    (ElementName.plain ⟨1, 4⟩ "VAR").single? false = some (⟨1, 4⟩, "VAR") ∧ asciiLower "VAR" ∈ htmlTags ∧
      SameLetters "VAR" "vAr" ∧ (ElementName.plain ⟨1, 4⟩ "vAr").tag false = .literal ⟨1, 4⟩ "var" ∧
      MemberChain (.this ⟨1, 5⟩) (.member ⟨1, 10⟩ (.this ⟨1, 5⟩) ⟨6, 10⟩ "Item") ∧
      DottedName.headName? (.dot ⟨1, 10⟩ (.self ⟨1, 5⟩) ⟨6, 10⟩ "Item") = none := by
  have hhtml : asciiLower "VAR" ∈ htmlTags := by decide +kernel
  have hsame : SameLetters "VAR" "vAr" := sameLetters_iff.2 (by decide +kernel)
  obtain ⟨hkinds, hcapitals, -⟩ := tag_partitions_names false (.plain ⟨1, 4⟩ "VAR")
  have hvar : (ElementName.plain ⟨1, 4⟩ "VAR").tag false = .literal ⟨1, 4⟩ "var" :=
    (hkinds.standard _ _ rfl "var" (by decide +kernel)).2 (by decide +kernel)
  have hchain : MemberChain (.this ⟨1, 5⟩) (.member ⟨1, 10⟩ (.this ⟨1, 5⟩) ⟨6, 10⟩ "Item") := .this _ _ _ _
  have hitem := (tag_partitions_names false (.dotted ⟨1, 10⟩ (.self ⟨1, 5⟩) ⟨6, 10⟩ "Item")).1
  exact ⟨rfl, hhtml, hsame, (hcapitals _ _ _ rfl hhtml hsame).trans hvar, hchain,
    (hitem.head _ _ _ hchain rfl rfl).1 ⟨_, rfl⟩⟩

end JsxLowering
