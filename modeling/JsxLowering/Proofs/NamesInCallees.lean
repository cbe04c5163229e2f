import JsxLowering.Proofs.CallEdits

/-!
# Names stand in callees only

The names of the object and of its two methods are used for the callees of the calls that the lowering makes, and for
nothing else: under other names a program becomes the same tree with other callees in these calls, and the same calls
are reported (`lowerProgram_names_in_callees`).  A reference, a string or a key of the program that happens to spell one
of the names is left alone, since it is in no such callee.
-/

namespace JsxLowering

/-- Other names give the same calls with other callees. -/
private theorem editsEachCall_setCallee (first second : MethodNames) (bound : List Ancestor → Bool) :
    EditsEachCall (fun _ _ => Tree.setCallee second.object second.component)
      (Tree.setCallee second.object second.literal) first bound second bound where
  element _ _ _ _ _ := rfl
  text _ _ := rfl

private theorem parseClean_with_names (options : Options) (names : MethodNames) (source : String) :
    parseClean { options with names } source = parseClean options source := by
  delta parseClean
  dsimp only

/-- Under two valid choices of names a source text is refused alike, or it is read as the same program.  The two lowered
programs are the same up to the object and the method in the callees of the calls that are made for elements and texts,
and the same calls are reported. -/
theorem lowerProgram_names_in_callees (options : Options) (names : MethodNames) (hvalid : options.validate = .ok ())
    (hnames : { options with names }.validate = .ok ()) :
    let other := { options with names }
    (∀ program : Tree, ∃ edit,
      program.EditsCalls true (fun _ _ => Tree.setCallee names.object names.component)
        (Tree.setCallee names.object names.literal) edit ∧
      (lowerProgram other program).value = (lowerProgram options program).value.mapAt edit ∧
      (lowerProgram other program).hints = (lowerProgram options program).hints) ∧
    ∀ source : String,
      (∃ error, transform options source = .error error ∧ transform other source = .error error) ∨
      ∃ parsed, parseClean options source = .ok parsed ∧
        transform options source = .ok (transformParsed options source parsed) ∧
        transform other source = .ok (transformParsed other source parsed) ∧
        (transformParsed other source parsed).hints = (transformParsed options source parsed).hints := by
  intro other
  refine ⟨?_, ?_⟩
  · intro program
    obtain ⟨edit, hedit, hfill⟩ := exists_edit_fill program true
      (editsEachCall_setCallee options.names names (boundAt (options.dialect.loading == .script)))
    refine ⟨edit, hedit, ?_, hints_lowerMarkup_congr program _ _⟩
    rw [lowerProgram_eq_fill, lowerProgram_eq_fill]
    exact hfill
  · intro source
    have hclean : parseClean other source = parseClean options source := parseClean_with_names options names source
    cases hparsed : parseClean options source with
    | error error =>
      rw [hparsed] at hclean
      refine .inl ⟨error, ?_, ?_⟩
      · delta transform
        rw [hvalid, hparsed]
      · delta transform
        rw [hnames, hclean]
    | ok parsed =>
      rw [hparsed] at hclean
      refine .inr ⟨parsed, rfl, ?_, ?_, hints_lowerMarkup_congr parsed.tree _ _⟩
      · exact transform_eq_ok_iff.2 ⟨hvalid, parsed, hparsed, rfl⟩
      · exact transform_eq_ok_iff.2 ⟨hnames, parsed, hclean, rfl⟩

/-- An element with an attribute, a string and an expression that spell names of the object and of a method. -/
private def spelledNames : String := "<a h=\"Plasmatic\">\x7bPlasmatic.createComponent(h)\x7dtext</a>"

/-- Other names for the object and the methods. -/
private def shortNames : MethodNames := ⟨"h", "element", "text"⟩

/-- The two calls get other callees; the call that was written out keeps its own, and so do the string and the key. -/
theorem lowerProgram_spelledNames : ∃ parsed edit, parseClean .standard spelledNames = .ok parsed ∧
    parsed.tree.EditsCalls true (fun _ _ => Tree.setCallee "h" "element") (Tree.setCallee "h" "text") edit ∧
    (lowerProgram { Options.standard with names := shortNames } parsed.tree).value =
      (lowerProgram .standard parsed.tree).value.mapAt edit ∧
    (transformParsed .standard spelledNames parsed).code =
      "Plasmatic.createComponent(\"a\", \x7b h: \"Plasmatic\" \x7d, Plasmatic.createComponent(h), " ++
        "Plasmatic.createLiteral(\"text \"));\n" ∧
    (transformParsed { Options.standard with names := shortNames } spelledNames parsed).code =
      "h.element(\"a\", \x7b h: \"Plasmatic\" \x7d, Plasmatic.createComponent(h), h.text(\"text \"));\n" := by
  obtain ⟨hprogram, hsource⟩ := lowerProgram_names_in_callees .standard shortNames (by decide +kernel)
    (by decide +kernel)
  have hcode : (transform .standard spelledNames).toOption.map Output.code =
      some ("Plasmatic.createComponent(\"a\", \x7b h: \"Plasmatic\" \x7d, Plasmatic.createComponent(h), " ++
        "Plasmatic.createLiteral(\"text \"));\n") := by decide +kernel
  have hother : (transform { Options.standard with names := shortNames } spelledNames).toOption.map Output.code =
      some "h.element(\"a\", \x7b h: \"Plasmatic\" \x7d, Plasmatic.createComponent(h), h.text(\"text \"));\n" := by
    decide +kernel
  rcases hsource spelledNames with ⟨error, herror, -⟩ | ⟨parsed, hparsed, hfirst, hsecond, -⟩
  · rw [herror] at hcode
    cases hcode
  · obtain ⟨edit, hedit, hvalue, -⟩ := hprogram parsed.tree
    rw [hfirst] at hcode
    rw [hsecond] at hother
    exact ⟨parsed, edit, hparsed, hedit, hvalue, Option.some.inj hcode, Option.some.inj hother⟩

end JsxLowering
