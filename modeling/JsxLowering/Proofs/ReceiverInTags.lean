import JsxLowering.Proofs.CallEdits
import JsxLowering.Proofs.CallOrder
import JsxLowering.Proofs.Loading.Program

/-!
# The receiver matters for `this` only

Whether there is a receiver shows in the first argument of the calls for elements that are named by a single `this`, and
nowhere else.  Without a receiver this argument is a string (`ElementName.quoteSelf`).

* Markup that is lowered alone, with a receiver or without one, becomes the same tree up to these arguments
  (`lower_receiver_in_self_tags`).
* A program that leaves its loading open is lowered as if it were no script, whatever it turns out to be when it is
  read.  So it becomes the tree of the script up to these arguments, where an element is in no function, static block or
  field value (`transform_receiver_by_requested_loading`).  That it is read like the script takes more than showing no
  module: marks such as `<!--` open a comment only where the script was asked for.
-/

namespace JsxLowering

/-- The call for an element, made for a place with a receiver, as it is without one. -/
def ElementName.quoteSelf : ElementName → Tree → Tree
  | self _ => Tree.quoteFirst "this"
  | _ => id

private theorem tag_self_false (span : Span) :
    (ElementName.self span).tag false = .expression (.string span "this") (some "this") := by
  have hhtml : isHtmlTag "this" = false := by decide +kernel
  have hsmall : startsSmall "this" = true := by decide +kernel
  simp [ElementName.tag, simpleTag, hhtml, hsmall]

private theorem quoteSelf_componentCall (names : MethodNames) (span : Span) (name : ElementName)
    (attributes : Option Tree) (children : List Tree) :
    name.quoteSelf (names.componentCall span ((name.tag true).argument span) attributes children) =
      names.componentCall span ((name.tag false).argument span) attributes children := by
  cases name with
  | self nameSpan =>
    rw [tag_self_false]
    rfl
  | plain nameSpan text => rfl
  | dotted nameSpan object propertySpan property => rfl
  | namespaced nameSpan space text => rfl

section

variable (bound bound' : List Ancestor → Bool)

/-- Where the second way finds a receiver less often, the calls for `this` are quoted. -/
private theorem editsEachCall_quoteSelf (names : MethodNames)
    (h : ∀ ancestors, bound' ancestors = true → bound ancestors = true) :
    EditsEachCall (fun ancestors name => if bound ancestors = bound' ancestors then id else name.quoteSelf) id
      names bound names bound' where
  element ancestors span name attributes children := by
    by_cases hsame : bound ancestors = bound' ancestors
    · rw [if_pos hsame, hsame, id]
    · have hbound' : bound' ancestors = false := by
        cases hb : bound' ancestors with
        | false => rfl
        | true => exact absurd ((h ancestors hb).trans hb.symm) hsame
      have hbound : bound ancestors = true := by
        cases hb : bound ancestors with
        | false => exact absurd (hb.trans hbound'.symm) hsame
        | true => rfl
      rw [if_neg hsame, hbound, hbound', quoteSelf_componentCall]
  text _ _ := rfl

private theorem argument_tag_self_inj {span nameSpan : Span} {b b' : Bool}
    (h : ((ElementName.self nameSpan).tag b).argument span = ((ElementName.self nameSpan).tag b').argument span) :
    b = b' := by
  cases b with
  | true =>
    cases b' with
    | true => rfl
    | false =>
      rw [tag_self_false] at h
      cases h
  | false =>
    cases b' with
    | true =>
      rw [tag_self_false] at h
      cases h
    | false => rfl

/-- Two ways to find receivers give the same tree exactly if they agree at the elements named `this`. -/
private theorem fill_eq_fill_iff (t : Tree) (deep : Bool) (names : MethodNames)
    (h : ∀ ancestors, bound' ancestors = true → bound ancestors = true) :
    (t.draft deep []).fill names bound' = (t.draft deep []).fill names bound ↔
      ∀ place ancestors span, t.ElementCallAt deep place ancestors (.self span) →
        bound ancestors = bound' ancestors := by
  constructor
  · intro hsame place ancestors nameSpan hcall
    obtain ⟨span, attributes, children, hplace⟩ := component_draft_iff.1 hcall
    have hfirst := Draft.at?_fill names bound hplace
    have hsecond := Draft.at?_fill names bound' hplace
    rw [hsame, hfirst, Draft.fill, Draft.fill] at hsecond
    injection hsecond with hcalls
    injection hcalls with _ _ hparts
    injection hparts with _ harguments
    injection harguments with htag _
    exact argument_tag_self_inj htag
  · intro hagree
    obtain ⟨edit, hedit, hfill⟩ := exists_edit_fill t deep (editsEachCall_quoteSelf bound bound' names h)
    have hid : edit = fun _ => id := by
      refine hedit.eq_id fun place ancestors name hcall => ?_
      cases name with
      | self span => rw [if_pos (hagree place ancestors span hcall)]
      | plain span text => exact ite_self id
      | dotted span object propertySpan property => exact ite_self id
      | namespaced span space text => exact ite_self id
    rw [hfill, hid, mapAt_id]

end

/-! ### Markup alone -/

/-- Without a receiver an element or a fragment becomes what it becomes with one, except that the calls for elements
named by a single `this`, reached through children and attribute values without braces, have a string as their first
argument.  The same calls are reported.  So the receiver makes no difference exactly if no such element is reached. -/
theorem lower_receiver_in_self_tags (names : MethodNames) (m : Markup) :
    (∃ edit, (Tree.markup m).EditsCalls false (fun _ name => name.quoteSelf) id edit ∧
      (m.lower names false).value = (m.lower names true).value.mapAt edit) ∧
    (m.lower names false).hints = (m.lower names true).hints ∧
    ((m.lower names false).value = (m.lower names true).value ↔
      ∀ path span nameSpan, (Tree.markup m).reaches false path = true →
        ((Tree.markup m).at? path).bind Tree.element? ≠ some (span, .self nameSpan)) := by
  have hvalue : ∀ bound, (m.lower names bound).value = ((Tree.markup m).draft false []).fill names fun _ => bound := by
    intro bound
    rw [m.value_lower_eq_fill names bound [], Tree.draft]
  refine ⟨?_, ?_, ?_⟩
  · obtain ⟨edit, hedit, hfill⟩ := exists_edit_fill (Tree.markup m) false
      (editsEachCall_quoteSelf (fun _ => true) (fun _ => false) names fun _ _ => rfl)
    refine ⟨edit, ?_, ?_⟩
    · simpa using hedit
    · rw [hvalue, hvalue, hfill]
  · rw [m.hints_lower_eq_filledCalls names false [], m.hints_lower_eq_filledCalls names true []]
  · rw [hvalue, hvalue, fill_eq_fill_iff (fun _ => true) (fun _ => false) _ _ _ fun _ _ => rfl]
    constructor
    · intro hagree path span nameSpan hreach helement
      cases hagree _ _ nameSpan ⟨path, span, helement, hreach, rfl, rfl⟩
    · rintro hnone place ancestors nameSpan ⟨path, span, helement, hreach, -, -⟩
      exact absurd helement (hnone path span nameSpan hreach)

/-- The element `<a>{<this/>}</a>`. -/
private def bracedSelf : Markup :=
  .element ⟨0, 16⟩ (.plain ⟨1, 2⟩ "a") [] [.expression (.markup (.element ⟨4, 11⟩ (.self ⟨5, 9⟩) [] []))]

/-- The element `<a><this/></a>`. -/
private def directSelf : Markup :=
  .element ⟨0, 14⟩ (.plain ⟨1, 2⟩ "a") [] [.markup (.element ⟨3, 10⟩ (.self ⟨4, 8⟩) [] [])]

/-- The receiver matters for an element named `this` that stands directly among the children, and not for one between
braces, which is lowered on its own. -/
theorem lower_braced_and_direct_self :
    (bracedSelf.lower .standard false).value = (bracedSelf.lower .standard true).value ∧
    (directSelf.lower .standard false).value ≠ (directSelf.lower .standard true).value := by
  constructor
  · refine (lower_receiver_in_self_tags .standard bracedSelf).2.2.2 ?_
    intro path span nameSpan hreach helement
    cases path with
    | nil => cases helement
    | cons step rest =>
      obtain ⟨hdirect, -⟩ := reaches_cons_iff.1 hreach
      obtain ⟨inner, hslot⟩ := leadsDirectly_markup_iff.1 hdirect
      have hslots : bracedSelf.slots =
          [(.ofChild 0, .braces (.markup (.element ⟨4, 11⟩ (.self ⟨5, 9⟩) [] [])))] := rfl
      rw [hslots, List.mem_singleton] at hslot
      cases hslot
  · intro hsame
    exact (lower_receiver_in_self_tags .standard directSelf).2.2.1 hsame [.ofChild 0] ⟨3, 10⟩ ⟨4, 8⟩ rfl rfl

/-! ### Programs that leave their loading open -/

/-- The same options for a script. -/
def Options.asScript (options : Options) : Options :=
  { options with dialect := { options.dialect with loading := .script } }

/-- The text is read as the same program, with the same comments and faults, as if it were a script. -/
def Options.ReadsLikeScript (options : Options) (source : String) : Prop :=
  parse options.dialect source = parse options.asScript.dialect source

private theorem dialect_of_open {options : Options} (h : options.dialect.loading = .unambiguous) :
    options.dialect = ⟨options.dialect.language, .unambiguous, options.dialect.markup⟩ := by
  rw [← h]

private theorem readsLikeScript_of_noScriptComments {options : Options} {source : String}
    (hloading : options.dialect.loading = .unambiguous) (hmodule : ¬ options.dialect.ShowsModule source)
    (hcomments : NoScriptComments source.toList) : options.ReadsLikeScript source := by
  rw [dialect_of_open hloading] at hmodule
  rw [Options.ReadsLikeScript, dialect_of_open hloading]
  exact parse_unambiguous_of_noScriptComments hmodule hcomments

private theorem not_showsModule {dialect : Dialect} {source : String}
    (h : (parseAs false dialect source).toOption.any (·.tree.isModule) = false) : ¬ dialect.ShowsModule source := by
  rintro ⟨first, hfirst, hmodule⟩
  rw [hfirst] at h
  exact Bool.false_ne_true (h.symm.trans hmodule)

/-- A comparison with an element in it, most of which is a comment in scripts. -/
private def scriptComment : String := "a<!--b[<c/>]"

private theorem not_showsModule_scriptComment (language : Language) (markup : Bool) :
    ¬ Dialect.ShowsModule ⟨language, .unambiguous, markup⟩ scriptComment :=
  not_showsModule (by cases language <;> cases markup <;> decide +kernel)

private theorem parse_scriptComment_ne (language : Language) (markup : Bool) :
    parse ⟨language, .unambiguous, markup⟩ scriptComment ≠ parse ⟨language, .script, markup⟩ scriptComment := by
  have hopen : (parse ⟨language, .unambiguous, markup⟩ scriptComment).toOption.any (·.tree.elements.isEmpty) =
      false := by cases language <;> cases markup <;> decide +kernel
  have hscript : (parse ⟨language, .script, markup⟩ scriptComment).toOption.any (·.tree.elements.isEmpty) =
      true := by cases language <;> cases markup <;> decide +kernel
  intro hsame
  rw [hsame, hscript] at hopen
  cases hopen

private theorem boundAt_true (ancestors : List Ancestor) : boundAt true ancestors = true := by
  refine (boundAt_iff true ancestors).2 ?_
  cases h : nearestBinder? ancestors with
  | none => exact .inr ⟨rfl, rfl⟩
  | some binder => exact .inl ⟨binder, rfl⟩

private theorem boundAt_false (ancestors : List Ancestor) :
    boundAt false ancestors = (nearestBinder? ancestors).isSome := by
  rw [Bool.eq_iff_iff, boundAt_iff, Option.isSome_iff_exists]
  simp

/-- In a script there is always a receiver, otherwise only inside a binder. -/
private theorem boundAt_true_eq_false_iff (ancestors : List Ancestor) :
    boundAt true ancestors = boundAt false ancestors ↔ nearestBinder? ancestors ≠ none := by
  rw [boundAt_true, boundAt_false, eq_comm, Option.isSome_iff_ne_none]

private theorem lowerProgram_open {options : Options} (h : options.dialect.loading = .unambiguous) (program : Tree) :
    (lowerProgram options program).value = (program.draft true []).fill options.names (boundAt false) := by
  rw [lowerProgram_eq_fill, h]
  rfl

private theorem lowerProgram_asScript (options : Options) (program : Tree) :
    (lowerProgram options.asScript program).value = (program.draft true []).fill options.names (boundAt true) :=
  lowerProgram_eq_fill options.asScript program

private theorem parseClean_asScript {options : Options} {source : String} (h : options.ReadsLikeScript source) :
    parseClean options source = parseClean options.asScript source := by
  have hread : parse options.dialect source = parse options.asScript.dialect source := h
  delta parseClean
  rw [hread]
  rfl

/-- A text that leaves its loading open and does not show to be a module is read like a script, unless it has a mark
that opens a comment in scripts only; with such a mark it may be read otherwise.  Where it is read like the script, the
lowering still goes by the loading that was asked for: what is reported is the same as for the script, and so is the
lowered program, except that an element named by a single `this` outside every function, static block and field value
gets the string in the place of the receiver.  Without such elements the code is the same. -/
theorem transform_receiver_by_requested_loading (options : Options)
    (hloading : options.dialect.loading = .unambiguous) :
    (∀ source, ¬ options.dialect.ShowsModule source → NoScriptComments source.toList →
      options.ReadsLikeScript source) ∧
    (∃ source, ¬ options.dialect.ShowsModule source ∧ ¬ options.ReadsLikeScript source) ∧
    ∀ source first second, options.ReadsLikeScript source → transform options source = .ok first →
      transform options.asScript source = .ok second →
      first.hints = second.hints ∧
      ∃ parsed, parseClean options source = .ok parsed ∧ parseClean options.asScript source = .ok parsed ∧
        (∃ edit, parsed.tree.EditsCalls true
            (fun ancestors name => if nearestBinder? ancestors ≠ none then id else name.quoteSelf) id edit ∧
          (lowerProgram options parsed.tree).value = (lowerProgram options.asScript parsed.tree).value.mapAt edit) ∧
        (∀ path span nameSpan, (parsed.tree.at? path).bind Tree.element? = some (span, .self nameSpan) →
          nearestBinder? (parsed.tree.ancestorsAt path []) = none →
          (lowerProgram options parsed.tree).value.at? (parsed.tree.image path ++ [.part 1]) =
            some (.string nameSpan "this") ∧
          (lowerProgram options.asScript parsed.tree).value.at? (parsed.tree.image path ++ [.part 1]) =
            some (.this nameSpan)) ∧
        ((∀ path span nameSpan, (parsed.tree.at? path).bind Tree.element? = some (span, .self nameSpan) →
          nearestBinder? (parsed.tree.ancestorsAt path []) ≠ none) → first.code = second.code) := by
  refine ⟨fun source => readsLikeScript_of_noScriptComments hloading, ⟨scriptComment, ?_⟩, ?_⟩
  · rw [Options.ReadsLikeScript, dialect_of_open hloading]
    exact ⟨not_showsModule_scriptComment _ _, parse_scriptComment_ne _ _⟩
  intro source first second hread hfirst hsecond
  obtain ⟨-, parsed, hparsed, rfl⟩ := transform_eq_ok_iff.1 hfirst
  obtain ⟨-, parsed', hparsed', rfl⟩ := transform_eq_ok_iff.1 hsecond
  have hclean := parseClean_asScript hread
  obtain rfl : parsed = parsed' := Except.ok.inj (hparsed.symm.trans (hclean.trans hparsed'))
  have hopen := lowerProgram_open hloading parsed.tree
  have hscript := lowerProgram_asScript options parsed.tree
  have hle : ∀ ancestors, boundAt false ancestors = true → boundAt true ancestors = true := fun _ _ => boundAt_true _
  refine ⟨hints_lowerMarkup_congr parsed.tree _ _, parsed, hparsed, hparsed', ?_, ?_, ?_⟩
  · obtain ⟨edit, hedit, hfill⟩ := exists_edit_fill parsed.tree true
      (editsEachCall_quoteSelf (boundAt true) (boundAt false) options.names hle)
    refine ⟨edit, ?_, ?_⟩
    · simpa only [boundAt_true_eq_false_iff] using hedit
    · rw [hopen, hscript, hfill]
  · intro path span nameSpan helement hbinder
    have hunbound : boundAt false (parsed.tree.ancestorsAt path []) = false := by rw [boundAt_false, hbinder]; rfl
    rw [hopen, hscript, ← Tree.lowerInPlace_eq_fill, ← Tree.lowerInPlace_eq_fill, at?_tag_lowerInPlace _ _ helement,
      at?_tag_lowerInPlace _ _ helement, hunbound, boundAt_true, tag_self_false]
    exact ⟨rfl, rfl⟩
  · intro hbound
    have hvalue : (lowerProgram options parsed.tree).value = (lowerProgram options.asScript parsed.tree).value := by
      rw [hopen, hscript, fill_eq_fill_iff (boundAt true) (boundAt false) _ _ _ hle]
      rintro place ancestors nameSpan ⟨path, span, helement, -, -, rfl⟩
      exact (boundAt_true_eq_false_iff _).2 (hbound path span nameSpan helement)
    show ((lowerProgram options parsed.tree).value.sheet options.dialect.markup parsed.comments).text = _
    rw [hvalue]
    rfl

/-- The standard options, with the loading left open. -/
private def openLoading : Options :=
  { Options.standard with dialect := { Dialect.standard with loading := .unambiguous } }

/-- The text `<this/>` is read as the same program with its loading left open and as a script, but only in the script
is the tag the receiver. -/
theorem transform_self_by_loading : ∃ first second, transform openLoading "<this/>" = .ok first ∧
    transform openLoading.asScript "<this/>" = .ok second ∧ first.hints = second.hints ∧
    first.code = "Plasmatic.createComponent(\"this\", null);\n" ∧
    second.code = "Plasmatic.createComponent(this, null);\n" := by
  have hmodule : ¬ openLoading.dialect.ShowsModule "<this/>" := not_showsModule (by decide +kernel)
  have hfirst : (transform openLoading "<this/>").toOption.map Output.code =
      some "Plasmatic.createComponent(\"this\", null);\n" := by decide +kernel
  have hsecond : (transform openLoading.asScript "<this/>").toOption.map Output.code =
      some "Plasmatic.createComponent(this, null);\n" := by decide +kernel
  obtain ⟨first, hfirst, hcode⟩ := ok_of_toOption hfirst
  obtain ⟨second, hsecond, hcode'⟩ := ok_of_toOption hsecond
  obtain ⟨hread, -, hsame⟩ := transform_receiver_by_requested_loading openLoading rfl
  have hscript : openLoading.ReadsLikeScript "<this/>" := hread "<this/>" hmodule (by decide +kernel)
  obtain ⟨hhints, -⟩ := hsame "<this/>" first second hscript hfirst hsecond
  exact ⟨first, second, hfirst, hsecond, hhints, hcode, hcode'⟩

end JsxLowering
