import Mathlib.Data.List.Infix
import JsxLowering.Printing.Tree
import JsxLowering.Proofs.Tags

/-!
# Dotted names and their paths

A dotted name has a text, and it has a path, the member expression that it becomes.  Printing the path gives the text:
a name or `this` is printed as it is on a sheet on which no space is needed before a word, and after it each dot and
the name behind it follow without a space, since what stands before the dot is not the end of a number and what stands
before the name is the dot.

* `Printing.adds_path`: on such a sheet, printing a path adds the text of the name.
* `DottedName.objects_path`: the objects in a path are the paths of the stems of the name.
* `name?_tag`: the tag name of any other name is its text, in lower case if it is a standard name.
-/

namespace JsxLowering

/-! ### Names and their stems -/

namespace DottedName

/-- What stands between the dots of a name. -/
def segments : DottedName → List String
  | head _ name => [name]
  | self _ => ["this"]
  | dot _ object _ property => object.segments ++ [property]

/-- A name and what stands before each of its dots, the longest first. -/
def stems : DottedName → List DottedName
  | head span name => [head span name]
  | self span => [self span]
  | dot span object propertySpan property => dot span object propertySpan property :: object.stems

theorem segments_ne_nil (d : DottedName) : d.segments ≠ [] := by
  cases d <;> simp [segments]

theorem text_eq_intercalate (d : DottedName) : d.text = ".".intercalate d.segments := by
  induction d with
  | head span name => simp [text, segments]
  | self span => simp [text, segments]
  | dot span object propertySpan property ih =>
    rw [text, segments, String.intercalate_append_of_ne_nil object.segments_ne_nil (by simp), ih,
      String.intercalate_singleton]

/-- The stems of a name are its first segments, down to the first one alone. -/
theorem map_segments_stems (d : DottedName) : d.stems.map segments = d.segments.inits.reverse.dropLast := by
  induction d with
  | head span name => rfl
  | self span => rfl
  | dot span object propertySpan property ih =>
    have hinits : (object.segments ++ [property]).inits = object.segments.inits ++ [object.segments ++ [property]] := by
      simp [List.inits_append]
    have hne : object.segments.inits.reverse ≠ [] := by
      rw [ne_eq, List.reverse_eq_nil_iff]
      exact List.ne_nil_of_mem ((List.mem_inits _ _).2 List.nil_prefix)
    rw [stems, List.map_cons, ih, segments, hinits, List.reverse_append, List.reverse_singleton, List.singleton_append,
      List.dropLast_cons_of_ne_nil hne]

theorem text_ne_empty {d : DottedName} (h : d.headName? ≠ some "") : d.text ≠ "" := by
  cases d with
  | head span name =>
    intro hname
    exact h (congrArg some hname)
  | self span => simp [text]
  | dot span object propertySpan property => simp [text]

end DottedName

/-- An expression and, if it is a member, the objects inside it, the outermost first. -/
def Tree.objects : Tree → List Tree
  | .node (.member optional) span [object, key] => .node (.member optional) span [object, key] :: object.objects
  | t => [t]

theorem DottedName.objects_path (d : DottedName) : d.path.objects = d.stems.map path := by
  induction d with
  | head span name => simp [path, stems, Tree.name, Tree.objects]
  | self span => simp [path, stems, Tree.this, Tree.objects]
  | dot span object propertySpan property ih =>
    rw [path, Tree.member, Tree.objects, ih]
    rfl

theorem DottedName.span_path (d : DottedName) : d.path.span = d.span := by
  cases d <;> rfl

/-! ### Printing a path -/

namespace Printing

/-- The second sheet is the first one with a text added to it, as far as the next name depends on it. -/
structure Adds (text : String) (before after : Sheet) : Prop where
  text_eq : after.text = before.text ++ text
  last_eq : after.last = text.toList.getLast?.or before.last
  length_eq : after.length = before.length + text.toList.length
  integerEnd_eq : after.integerEnd = before.integerEnd
  regexEnd_eq : after.regexEnd = before.regexEnd

/-- No space is needed before a word. -/
def TakesWord (sheet : Sheet) : Prop :=
  ∀ c ∈ sheet.last, Text.continuesIdentifier c = false ∧ sheet.regexEnd ≠ sheet.length

theorem adds_append (sheet : Sheet) (text : String) : Adds text sheet (sheet.append text) :=
  ⟨rfl, rfl, rfl, rfl, rfl⟩

theorem Adds.trans {text more : String} {before between after : Sheet} (h : Adds text before between)
    (hmore : Adds more between after) : Adds (text ++ more) before after where
  text_eq := by rw [hmore.text_eq, h.text_eq, String.append_assoc]
  last_eq := by
    rw [hmore.last_eq, h.last_eq, String.toList_append, List.getLast?_append, Option.or_assoc]
  length_eq := by
    rw [hmore.length_eq, h.length_eq, String.toList_append, List.length_append]
    omega
  integerEnd_eq := by rw [hmore.integerEnd_eq, h.integerEnd_eq]
  regexEnd_eq := by rw [hmore.regexEnd_eq, h.regexEnd_eq]

section

variable {style : Style} {sheet : Sheet}

theorem run_bind {α β : Type} (p : Printer α) (q : α → Printer β) (style : Style) (sheet : Sheet) :
    (p >>= q) style sheet = q (p style sheet).1 style (p style sheet).2 := rfl

theorem run_get (style : Style) (sheet : Sheet) : (get : Printer Sheet) style sheet = (sheet, sheet) := rfl

theorem run_spaceBeforeWord (h : TakesWord sheet) : spaceBeforeWord style sheet = ((), sheet) := by
  unfold spaceBeforeWord
  rw [run_bind, run_get]
  dsimp only
  cases hlast : sheet.last with
  | none => rfl
  | some c =>
    obtain ⟨hname, hregex⟩ := h c hlast
    dsimp only
    rw [if_neg (by simp [hname, hregex])]
    rfl

theorem adds_name (span : Span) (text : String) (h : TakesWord sheet) :
    Adds text sheet (name span text style sheet).2 := by
  unfold name
  rw [run_bind, run_spaceBeforeWord h]
  exact ⟨rfl, rfl, rfl, rfl, rfl⟩

theorem adds_markedWord (span : Span) (text : String) (h : TakesWord sheet) :
    Adds text sheet (markedWord span text style sheet).2 := by
  unfold markedWord
  rw [run_bind, run_spaceBeforeWord h]
  exact ⟨rfl, rfl, rfl, rfl, rfl⟩

/-- A dot takes a name after it. -/
theorem takesWord_append_dot (h : sheet.regexEnd ≤ sheet.length) : TakesWord (sheet.append ".") := by
  intro c hc
  have hdot := adds_append sheet "."
  have hlength : (sheet.append ".").length = sheet.length + 1 := hdot.length_eq
  rw [hdot.last_eq] at hc
  obtain rfl : '.' = c := Option.some_inj.1 hc
  refine ⟨by decide, ?_⟩
  rw [hdot.regexEnd_eq]
  omega

/-- Between an object that does not end in a number and its property there is only the dot. -/
theorem run_member {place : Place} {object k : Piece} {after : Sheet}
    (hobject : (object.operandUnder .after place.limits.keepCall style sheet).2 = after)
    (hinteger : after.integerEnd ≠ after.length) :
    member false place object k style sheet = k.inline style (after.append ".") := by
  unfold member
  rw [run_bind, hobject, if_neg Bool.false_ne_true, run_bind, run_get, if_neg (by simp [hinteger])]
  rfl

theorem printTree_member (span : Span) (object : Tree) (propertySpan : Span) (property : String) (place : Place) :
    printTree (.member span object propertySpan property) place =
      member false place ⟨object, printTree object⟩
        ⟨.node (.key property) propertySpan [], fun _ => name propertySpan property⟩ := rfl

/-- Printing the path of a name adds its text.  Numbers and regular expressions that end before the path starts do not
end before a dot of it, since the head of the name is not empty. -/
theorem adds_path {d : DottedName} (hd : d.headName? ≠ some "") (place : Place) (hword : TakesWord sheet)
    (hinteger : sheet.integerEnd ≤ sheet.length) (hregex : sheet.regexEnd ≤ sheet.length) :
    Adds d.text sheet (printTree d.path place style sheet).2 := by
  induction d generalizing place with
  | head span text => exact adds_name span text hword
  | self span => exact adds_markedWord span "this" hword
  | dot span object propertySpan property ih =>
    obtain ⟨after, hafter⟩ : ∃ after, (Piece.operandUnder ⟨object.path, printTree object.path⟩ .after
        place.limits.keepCall style sheet).2 = after := ⟨_, rfl⟩
    have hobject : Adds object.text sheet after := by
      rw [← hafter]
      exact ih hd _
    have hnonempty : 0 < object.text.toList.length := by
      rw [List.length_pos_iff, ne_eq, String.toList_eq_nil_iff]
      exact DottedName.text_ne_empty (d := object) hd
    have hlength := hobject.length_eq
    have hinteger' : after.integerEnd ≠ after.length := by
      rw [hobject.integerEnd_eq]
      omega
    have hregex' : after.regexEnd ≤ after.length := by
      rw [hobject.regexEnd_eq]
      omega
    rw [DottedName.path, printTree_member, run_member hafter hinteger']
    exact (hobject.trans (adds_append after ".")).trans
      (adds_name propertySpan property (takesWord_append_dot hregex'))

end

end Printing

theorem DottedName.code_path {d : DottedName} (hd : d.headName? ≠ some "") : d.path.code = d.text := by
  have hword : Printing.TakesWord (.blank []) := by
    intro c hc
    cases hc
  have hadds : Printing.Adds d.text (.blank []) (Printing.printTree d.path (.operand .lowest .none)
      Printing.expressionStyle (.blank [])).2 := Printing.adds_path hd _ hword (Nat.le_refl 0) (Nat.le_refl 0)
  rw [Tree.code, hadds.text_eq]
  exact String.empty_append

/-! ### Tag names -/

theorem colon_not_mem_of_mem_htmlTags : ∀ tag ∈ htmlTags, ':' ∉ tag.toList := by
  decide +kernel

theorem not_mem_htmlTags_namespaced (space name : String) : asciiLower (space ++ ":" ++ name) ∉ htmlTags := by
  intro hmem
  refine colon_not_mem_of_mem_htmlTags _ hmem ?_
  have hcolon : ':'.toLower ∈ (space ++ ":" ++ name).toList.map Char.toLower := by
    refine List.mem_map_of_mem ?_
    simp
  rw [asciiLower, String.toList_ofList]
  exact hcolon

theorem name?_simpleTag (span : Span) (name : String) :
    (simpleTag span name).name? = some (if asciiLower name ∈ htmlTags then asciiLower name else name) := by
  have hkind := singleTag_simpleTag span name
  generalize simpleTag span name = tag at hkind
  cases hkind with
  | standard h => rw [if_pos h]; rfl
  | string hother h => rw [if_neg hother]; rfl
  | reference hother hsmall h => rw [if_neg hother]; rfl

/-- The name that a tag has, if the name of the element is not dotted. -/
theorem name?_tag {name : ElementName} (hname : name.dotted? = none) (bound : Bool) :
    (name.tag bound).name? = none ∧ bound = true ∧ (∃ span, name = .self span) ∨
    (name.tag bound).name? = some (if asciiLower name.text ∈ htmlTags then asciiLower name.text else name.text) := by
  cases name with
  | plain span single => exact .inr (name?_simpleTag span single)
  | self span =>
    cases bound with
    | true => exact .inl ⟨rfl, rfl, span, rfl⟩
    | false => exact .inr (name?_simpleTag span "this")
  | dotted span object propertySpan property => cases hname
  | namespaced span space single =>
    refine .inr ?_
    rw [ElementName.text, if_neg (not_mem_htmlTags_namespaced space single)]
    rfl

/-- A dotted name and its path are the same.  The tag of the name is its path, whose printed form is the text of the
name, the segments with dots between them; and the objects inside the path are the paths of the stems of the name, which
have one segment less each, with the spans that the stems have.  Any other name has a tag name unless it is a receiver,
and that is the text of the name, in lower case if the name is a standard one. -/
theorem tag_agrees_with_text (bound : Bool) (name : ElementName) :
    (∀ d, name.dotted? = some d → d.headName? ≠ some "" →
      (∀ span, (name.tag bound).argument span = d.path) ∧ d.path.code = name.text ∧
      name.text = ".".intercalate d.segments ∧ d.path.objects = d.stems.map DottedName.path ∧
      d.path.objects.map Tree.span = d.stems.map DottedName.span ∧
      d.stems.map DottedName.segments = d.segments.inits.reverse.dropLast) ∧
    (name.dotted? = none →
      (∀ text, (name.tag bound).name? = some text →
        text = if asciiLower name.text ∈ htmlTags then asciiLower name.text else name.text) ∧
      ((name.tag bound).name? = none ↔ bound = true ∧ ∃ span, name = .self span)) := by
  constructor
  · intro d hdotted hhead
    cases name with
    | dotted span object propertySpan property =>
      cases hdotted
      have htext := (DottedName.dot span object propertySpan property).text_eq_intercalate
      refine ⟨fun _ => rfl, DottedName.code_path hhead, htext, DottedName.objects_path _, ?_,
        DottedName.map_segments_stems _⟩
      rw [DottedName.objects_path, List.map_map]
      exact List.map_congr_left fun stem _ => stem.span_path
    | plain span single => cases hdotted
    | self span => cases hdotted
    | namespaced span space single => cases hdotted
  · intro hname
    rcases name?_tag hname bound with ⟨hnone, hbound, hself⟩ | hsome
    · rw [hnone]
      exact ⟨nofun, iff_of_true rfl ⟨hbound, hself⟩⟩
    · rw [hsome]
      refine ⟨fun text htext => (Option.some_inj.1 htext).symm, iff_of_false nofun ?_⟩
      rintro ⟨rfl, span, rfl⟩
      cases hsome

/-- The name `Foo.Bar.baz` is printed as it is written, from members that end where its stems end; the name `DIV` has
the tag name `div`. -/
theorem tag_of_path_and_standard_name : ∃ d : DottedName,
    (ElementName.dotted ⟨1, 12⟩ (.dot ⟨1, 8⟩ (.head ⟨1, 4⟩ "Foo") ⟨5, 8⟩ "Bar") ⟨9, 12⟩ "baz").dotted? = some d ∧
    d.path.code = "Foo.Bar.baz" ∧ d.path.objects.map Tree.span = [⟨1, 12⟩, ⟨1, 8⟩, ⟨1, 4⟩] ∧
    ∀ text, ((ElementName.plain ⟨1, 4⟩ "DIV").tag false).name? = some text → text = "div" := by
  refine ⟨_, rfl, ?_⟩
  obtain ⟨-, hcode, -, -, hspans, -⟩ := (tag_agrees_with_text false (.dotted ⟨1, 12⟩
    (.dot ⟨1, 8⟩ (.head ⟨1, 4⟩ "Foo") ⟨5, 8⟩ "Bar") ⟨9, 12⟩ "baz")).1 _ rfl (by decide)
  refine ⟨hcode, hspans, ?_⟩
  intro text htext
  have hname := ((tag_agrees_with_text false (.plain ⟨1, 4⟩ "DIV")).2 rfl).1 text htext
  rw [hname]
  decide +kernel

end JsxLowering
