import JsxLowering.Grammar.Program
import JsxLowering.Proofs.Loading.Statement

/-!
# Programs do not mind how they are loaded

The rules for every depth are indifferent to how the text is loaded, since a step of the grammar is if the rules for
what is inside are.

* A source text in which the word `await` never comes is read the same way whatever `await` is
  (`parseAs_eq_of_neverReads`), and then also whether it is a module or leaves its loading open.
* A source text without the marks that open comments in scripts only, which leaves its loading open and does not show to
  be a module, is read as a script is (`parse_unambiguous_of_noScriptComments`).
-/

namespace JsxLowering

namespace Grammar

variable {v : Variation}

instance {rules : Rules} [IndifferentRules v rules] : IndifferentRules v (step rules) where
  indifferent
    | .expression => inferInstanceAs (Indifferent v (parseExpression rules))
    | .assignment => inferInstanceAs (Indifferent v (parseAssignment rules))
    | .operand level => inferInstanceAs (Indifferent v (parseOperand rules level))
    | .unary => inferInstanceAs (Indifferent v (parseUnary rules))
    | .leftHandSide => inferInstanceAs (Indifferent v (parseLeftHandSide rules))
    | .construction => inferInstanceAs (Indifferent v (parseNew rules))
    | .statement alone => inferInstanceAs (Indifferent v (parseStatement rules alone))
    | .target => inferInstanceAs (Indifferent v (parseTarget rules))
    | .markup nested => inferInstanceAs (Indifferent v (parseMarkup rules nested))
    | .type => inferInstanceAs (Indifferent v (parseType rules))
    | .typeMember => inferInstanceAs (Indifferent v (parseTypeMember rules))

instance {depth : Nat} : IndifferentRules v (rulesWithin depth) := by
  induction depth with
  | zero => exact ⟨fun construct => inferInstanceAs (Indifferent v unexpected)⟩
  | succ depth ih => exact inferInstanceAs (IndifferentRules v (step (rulesWithin depth)))

instance {rules : Rules} [IndifferentRules v rules] : Indifferent v (parseProgram rules) := by
  unfold parseProgram
  infer_instance

/-! ### What runs that end alike come to -/

section

variable {α : Type} {first last : Except Failure (α × Reader)}

theorem EndAlike.eq_of_await (h : EndAlike .await first last) : first = last := by
  cases h with
  | error failure => rfl
  | ok a hr =>
    cases hr
    rfl

theorem EndAlike.eq_error {failure : Failure} (h : EndAlike v first last) (hfirst : first = .error failure) :
    last = .error failure := by
  cases h with
  | error failure => exact hfirst
  | ok a hr => cases hfirst

theorem EndAlike.exists_eq_ok {a : α} {r : Reader} (h : EndAlike .script first last) (hfirst : first = .ok (a, r)) :
    ∃ b, last = .ok (a, { r with scripted := b }) := by
  cases h with
  | error failure => cases hfirst
  | ok a hr =>
    cases hfirst
    cases hr with
    | script _ b => exact ⟨b, rfl⟩

end

end Grammar

open Grammar

/-- Where the word never comes, a source text is read the same way whatever `await` is. -/
theorem parseAs_eq_of_neverReads {source : String} (h : NeverReads "await" source.toList) (a b : Bool)
    (dialect : Dialect) : parseAs a dialect source = parseAs b dialect source := by
  unfold parseAs
  dsimp only
  have hstart (scripted : Bool) (offset length : Nat) :
      (Reader.start scripted offset (source.toList.drop length)).AwaitFree :=
    .start (h.suffix (List.drop_suffix _ _))
  have hsame (size depth : Nat) {r : Reader} (hr : r.AwaitFree) :
      parseProgram (rulesWithin depth) (.initial dialect a size) r =
        parseProgram (rulesWithin depth) (.initial dialect b size) r :=
    (Indifferent.alike (.await (.initial dialect a size) b) (.await hr)).eq_of_await
  rw [hsame _ _ (hstart _ _ _)]

variable {language : Language} {markup : Bool} {source : String}

/-- Apart from what opens a comment in scripts only, a text that leaves its loading open is read as a script is, if
`await` is the same. -/
theorem parseAs_script (h : NoScriptComments source.toList) (awaiting : Bool) :
    parseAs awaiting ⟨language, .unambiguous, markup⟩ source =
      parseAs awaiting ⟨language, .script, markup⟩ source := by
  have halike (depth size offset length : Nat) : EndAlike .script
      (parseProgram (rulesWithin depth) (.initial ⟨language, .unambiguous, markup⟩ awaiting size)
        (.start (Loading.unambiguous == .script) offset (source.toList.drop length)))
      (parseProgram (rulesWithin depth) (.initial ⟨language, .script, markup⟩ awaiting size)
        (.start (Loading.script == .script) offset (source.toList.drop length))) := by
    have htext := h.suffix (List.drop_suffix length source.toList)
    rw [Reader.start_scripted htext offset (Loading.script == .script)]
    exact Indifferent.alike (.script _) (.script (.start htext) _)
  unfold parseAs
  dsimp only
  split
  next failure hfirst => rw [(halike _ _ _ _).eq_error hfirst]; rfl
  next statements r hfirst =>
    obtain ⟨b, hlast⟩ := (halike _ _ _ _).exists_eq_ok hfirst
    rw [hlast]
    rfl

/-- Apart from what `await` is, a text that leaves its loading open is read as a module is. -/
theorem parseAs_unambiguous (awaiting : Bool) :
    parseAs awaiting ⟨language, .unambiguous, markup⟩ source = parseAs awaiting ⟨language, .module, markup⟩ source :=
  rfl

private theorem parse_of_error {dialect : Dialect} {faults : List Fault}
    (h : parseAs (dialect.loading == .module) dialect source = .error faults) :
    parse dialect source = .error faults := by
  rw [parse, h]
  rfl

private theorem parse_of_ok {dialect : Dialect} {first : Parsed}
    (h : parseAs (dialect.loading == .module) dialect source = .ok first) :
    parse dialect source =
      if dialect.loading == .unambiguous && first.tree.isModule then parseAs true dialect source else .ok first := by
  rw [parse, h]
  rfl

theorem parse_module : parse ⟨language, .module, markup⟩ source = parseAs true ⟨language, .module, markup⟩ source := by
  cases h : parseAs true ⟨language, .module, markup⟩ source with
  | error faults => exact parse_of_error h
  | ok first => exact parse_of_ok h

theorem parse_script : parse ⟨language, .script, markup⟩ source = parseAs false ⟨language, .script, markup⟩ source := by
  cases h : parseAs false ⟨language, .script, markup⟩ source with
  | error faults => exact parse_of_error h
  | ok first => exact parse_of_ok h

/-- A text that is read the same way whatever `await` is, is read as a module is. -/
theorem parse_unambiguous_of_same
    (h : parseAs false ⟨language, .unambiguous, markup⟩ source = parseAs true ⟨language, .unambiguous, markup⟩ source) :
    parse ⟨language, .unambiguous, markup⟩ source = parse ⟨language, .module, markup⟩ source := by
  rw [parse_module, ← parseAs_unambiguous]
  cases hfirst : parseAs true ⟨language, .unambiguous, markup⟩ source with
  | error faults => exact parse_of_error (h.trans hfirst)
  | ok first =>
    rw [parse_of_ok (h.trans hfirst), hfirst]
    exact ite_self _

/-- A text that shows to be a module is read as one. -/
theorem parse_unambiguous_of_isModule {first : Parsed}
    (hfirst : parseAs false ⟨language, .unambiguous, markup⟩ source = .ok first) (hmodule : first.tree.isModule) :
    parse ⟨language, .unambiguous, markup⟩ source = parse ⟨language, .module, markup⟩ source := by
  rw [parse_of_ok hfirst, parse_module, hmodule]
  rfl

/-- The source shows that it is a module when it is read as if it were none. -/
def Dialect.ShowsModule (dialect : Dialect) (source : String) : Prop :=
  ∃ first, parseAs false dialect source = .ok first ∧ first.tree.isModule = true

/-- A text that does not show to be a module is read as a script is, apart from what opens a comment in scripts only. -/
theorem parse_unambiguous_of_noScriptComments (hmodule : ¬ Dialect.ShowsModule ⟨language, .unambiguous, markup⟩ source)
    (hcomments : NoScriptComments source.toList) :
    parse ⟨language, .unambiguous, markup⟩ source = parse ⟨language, .script, markup⟩ source := by
  rw [parse_script, ← parseAs_script hcomments]
  cases hfirst : parseAs false ⟨language, .unambiguous, markup⟩ source with
  | error faults => exact parse_of_error hfirst
  | ok first =>
    have hshown : first.tree.isModule = false := Bool.eq_false_iff.2 fun h => hmodule ⟨first, hfirst, h⟩
    rw [parse_of_ok hfirst, hshown]
    rfl

end JsxLowering
