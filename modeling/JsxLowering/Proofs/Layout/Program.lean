import JsxLowering.Grammar.Program
import JsxLowering.Proofs.Layout.Markup
import JsxLowering.Proofs.Layout.Statement

/-!
# Programs keep elements in order

The recursion of the grammar is closed here as it is for the grammar itself: a step keeps the order if the rules for
what is inside do (`OrderlyRules (step rules)`), and so do the rules for every depth.  In the program that a source text
is read as the elements then end one after the other in source post-order (`elements_of_parse`).
-/

namespace JsxLowering

namespace Grammar

/-! ### All depths -/

instance {rules : Rules} [OrderlyRules rules] : OrderlyRules (step rules) where
  keeps
    | .expression => (inferInstance : Reads [] (parseExpression rules) []).keeps
    | .assignment => (inferInstance : Reads [] (parseAssignment rules) []).keeps
    | .operand level => (inferInstance : Reads [] (parseOperand rules level) []).keeps
    | .unary => (inferInstance : Reads [] (parseUnary rules) []).keeps
    | .leftHandSide => (inferInstance : Reads [] (parseLeftHandSide rules) []).keeps
    | .construction => (inferInstance : Reads [] (parseNew rules) []).keeps
    | .statement alone => (inferInstance : Reads [] (parseStatement rules alone) []).keeps
    | .target => (inferInstance : Reads [] (parseTarget rules) []).keeps
    | .markup nested => (inferInstance : Reads [] (parseMarkup rules nested) []).keeps
    | .type => (inferInstance : Reads [] (parseType rules) []).keeps
    | .typeMember => (inferInstance : Reads [] (parseTypeMember rules) []).keeps

instance {depth : Nat} : OrderlyRules (rulesWithin depth) := by
  induction depth with
  | zero => exact ⟨fun construct => .of_fails fails_unexpected⟩
  | succ depth ih => exact inferInstanceAs (OrderlyRules (step (rulesWithin depth)))

theorem keepsOrder_parseProgram {rules : Rules} [OrderlyRules rules] : KeepsOrder elements [] (parseProgram rules) [] :=
  (inferInstance : Reads [] (parseStatements rules (do return (← kind) == .eof)) []).keeps

end Grammar

/-! ### Source texts -/

open Grammar

private theorem faults_of_reported {dialect : Dialect} {opening : Option Comment} {faults : List Fault}
    (h : reportedFaults dialect opening faults = []) : faults = [] := by
  cases faults with
  | nil => rfl
  | cons fault rest =>
    unfold reportedFaults at h
    split at h <;> dsimp only at h <;> split at h <;> cases h

private theorem faults_of_allFaults {r : Reader} {last : List Fault} (h : r.allFaults last = []) : r.faults = [] := by
  unfold Reader.allFaults at h
  simp only [List.append_eq_nil_iff, List.reverse_eq_nil_iff] at h
  exact h.1.1.2

private theorem elements_of_parseAs {awaiting : Bool} {dialect : Dialect} {source : String} {parsed : Parsed}
    (h : parseAs awaiting dialect source = .ok parsed) (hclean : parsed.faults = []) :
    parsed.tree.elements.Pairwise fun a b => a.1.stop < b.1.stop := by
  unfold parseAs at h
  dsimp only at h
  split at h
  · cases h
  next statements r hrun =>
    cases h
    have hfaults : r.faults = [] := by
      obtain ⟨hall, -⟩ := List.append_eq_nil_iff.1 (faults_of_reported hclean)
      exact faults_of_allFaults hall
    obtain ⟨-, hlaid⟩ := keepsOrder_parseProgram.run hrun (Reader.sound_start _ _ _)
    have hstatements := (hlaid hfaults [] ⟨.nil, by simp⟩).order
    simpa [elements, partsElements_eq_flatMap, Tree.elements] using hstatements

/-- What is read as a program is read in one of the two ways. -/
theorem exists_parseAs {dialect : Dialect} {source : String} {parsed : Parsed} (h : parse dialect source = .ok parsed) :
    ∃ awaiting, parseAs awaiting dialect source = .ok parsed := by
  unfold parse at h
  cases hfirst : parseAs (dialect.loading == .module) dialect source with
  | error faults =>
    rw [hfirst] at h
    cases h
  | ok first =>
    rw [hfirst] at h
    dsimp only [bind, Except.bind] at h
    split at h
    · exact ⟨true, h⟩
    · cases h
      exact ⟨_, hfirst⟩

/-- The elements of a program without faults end one after the other, in source post-order. -/
theorem elements_of_parse {dialect : Dialect} {source : String} {parsed : Parsed}
    (h : parse dialect source = .ok parsed) (hclean : parsed.faults = []) :
    parsed.tree.elements.Pairwise fun a b => a.1.stop < b.1.stop := by
  obtain ⟨awaiting, hparsed⟩ := exists_parseAs h
  exact elements_of_parseAs hparsed hclean

end JsxLowering
