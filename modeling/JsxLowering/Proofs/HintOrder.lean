import JsxLowering.Proofs.Layout.Program
import JsxLowering.Proofs.Pieces
import JsxLowering.Transform

/-!
# The order of the hints

The spans of elements increase in their end offsets in source post-order.  The hints of a program need not: in an
expression that is markup, whatever is between braces reports before any element that stands directly in it, so an
element with remaining children jumps behind all braces to the right of it.  This is the only way in which hints leave
source post-order (`ascending_hints_iff`): they are ascending exactly if no such element stands before braces that report
anything (`Tree.BracesFirst`).
-/

namespace JsxLowering

/-- The end offsets of the spans strictly increase. -/
def Ascending (spans : List Span) : Prop := spans.Pairwise fun a b => a.stop < b.stop

instance (spans : List Span) : Decidable (Ascending spans) :=
  inferInstanceAs (Decidable (spans.Pairwise fun a b => a.stop < b.stop))

/-- In no markup of the tree does an element that has remaining children, and stands directly in it, come before braces
with such an element between them. -/
inductive Tree.BracesFirst : Tree → Prop
  | node {form : Form} {span : Span} {parts : List Tree} (inside : ∀ part ∈ parts, part.BracesFirst) :
    Tree.BracesFirst (.node form span parts)
  | markup {m : Markup} (inside : ∀ content, Piece.braces content ∈ m.pieces → content.BracesFirst)
    (first : m.pieces.Pairwise fun x y => x.isBraced = false → y.isBraced = true → x.calls = [] ∨ y.calls = []) :
    Tree.BracesFirst (.markup m)

/-! ### Two passes over ordered items -/

section

variable {α β : Type} {R : β → β → Prop}

private theorem forall_swap_iff {first rest : List β} (hasymm : ∀ a b, R a b → ¬R b a)
    (horder : ∀ a ∈ first, ∀ b ∈ rest, R a b) : (∀ b ∈ rest, ∀ a ∈ first, R b a) ↔ first = [] ∨ rest = [] := by
  constructor
  · intro hswap
    by_contra hne
    obtain ⟨hfirst, hrest⟩ := not_or.1 hne
    obtain ⟨a, ha⟩ := List.exists_mem_of_ne_nil first hfirst
    obtain ⟨b, hb⟩ := List.exists_mem_of_ne_nil rest hrest
    exact hasymm a b (horder a ha b hb) (hswap b hb a ha)
  · rintro (rfl | rfl) <;> simp

/-- Items are gone through twice, first those with `p` and then the others.  If all they hold is in order, the two passes
keep it in order exactly if no item without `p` comes before one with `p`, empty ones apart. -/
private theorem pairwise_two_passes_iff (hasymm : ∀ a b, R a b → ¬R b a) (p : α → Bool) (h c : α → List β)
    (items : List α) (hperm : ∀ x ∈ items, (h x).Perm (c x)) (hc : (items.flatMap c).Pairwise R) :
    ((items.filter p).flatMap h ++ (items.filter (!p ·)).flatMap h).Pairwise R ↔
      (∀ x ∈ items, (h x).Pairwise R) ∧
        items.Pairwise fun x y => p x = false → p y = true → c x = [] ∨ c y = [] := by
  induction items with
  | nil => simp
  | cons x rest ih =>
    rw [List.flatMap_cons, List.pairwise_append] at hc
    obtain ⟨-, hrest, hcross⟩ := hc
    obtain ⟨hpermX, hpermRest⟩ := List.forall_mem_cons.1 hperm
    have hlater : ∀ q : α → Bool, ∀ a ∈ h x, ∀ b ∈ (rest.filter q).flatMap h, R a b := by
      intro q a ha b hb
      obtain ⟨y, hy, hby⟩ := List.mem_flatMap.1 hb
      have hyrest := (List.mem_filter.1 hy).1
      exact hcross a (hpermX.mem_iff.1 ha) b
        (List.mem_flatMap.2 ⟨y, hyrest, (hpermRest y hyrest).mem_iff.1 hby⟩)
    specialize ih hpermRest hrest
    rw [List.forall_mem_cons, List.pairwise_cons]
    cases hp : p x with
    | true =>
      have hfirst : ∀ a ∈ h x, ∀ b ∈ (rest.filter p).flatMap h ++ (rest.filter (!p ·)).flatMap h, R a b := by
        intro a ha b hb
        rcases List.mem_append.1 hb with hb | hb
        · exact hlater _ a ha b hb
        · exact hlater _ a ha b hb
      rw [List.filter_cons_of_pos hp, List.filter_cons_of_neg (by simp [hp]), List.flatMap_cons, List.append_assoc,
        List.pairwise_append, ih]
      simp only [reduceCtorEq, false_implies, implies_true, true_and]
      tauto
    | false =>
      -- What the first pass found in the rest now precedes `h x`, although it comes later.
      have hpast : (∀ b ∈ (rest.filter p).flatMap h, ∀ a ∈ h x, R b a) ↔
          ∀ y ∈ rest, p y = true → c x = [] ∨ c y = [] := by
        have hempty : ∀ y ∈ x :: rest, h y = [] ↔ c y = [] := by
          intro y hy
          rw [← List.length_eq_zero_iff, (hperm y hy).length_eq, List.length_eq_zero_iff]
        obtain ⟨hemptyX, hemptyRest⟩ := List.forall_mem_cons.1 hempty
        have hfound : (rest.filter p).flatMap h = [] ↔ ∀ y ∈ rest, p y = true → c y = [] := by
          simp only [List.flatMap_eq_nil_iff, List.mem_filter, and_imp]
          exact forall₂_congr fun y hy => by rw [hemptyRest y hy]
        rw [forall_swap_iff hasymm (hlater p), hfound, hemptyX]
        simp only [forall_or_left]
      rw [List.filter_cons_of_neg (by simp [hp]), List.filter_cons_of_pos (by simp [hp]), List.flatMap_cons,
        List.pairwise_append, List.pairwise_append]
      rw [List.pairwise_append] at ih
      have hnext := hlater (!p ·)
      simp only [List.mem_append, or_imp, forall_and, hpast, true_implies]
      tauto

end

/-! ### Hints in source post-order -/

private theorem stop_lt_asymm (a b : Span) (h : a.stop < b.stop) : ¬b.stop < a.stop := by
  omega

private theorem bracesFirst_node_iff {form : Form} {span : Span} {parts : List Tree} :
    (Tree.node form span parts).BracesFirst ↔ ∀ part ∈ parts, part.BracesFirst := by
  constructor
  · rintro ⟨inside⟩
    exact inside
  · exact .node

private theorem bracesFirst_markup_iff {m : Markup} :
    (Tree.markup m).BracesFirst ↔ (∀ content, Piece.braces content ∈ m.pieces → content.BracesFirst) ∧
      m.pieces.Pairwise fun x y => x.isBraced = false → y.isBraced = true → x.calls = [] ∨ y.calls = [] := by
  constructor
  · rintro (_ | ⟨inside, first⟩)
    exact ⟨inside, first⟩
  · rintro ⟨inside, first⟩
    exact .markup inside first

/-- Where source post-order is ascending, the hints are ascending exactly if braces come first. -/
theorem ascending_hints_iff (t : Tree) (s : Surroundings) (ht : Ascending t.calls) :
    Ascending (t.lowerMarkup s).hints ↔ t.BracesFirst := by
  induction t using Tree.piecewise generalizing s with
  | node form span parts ih =>
    rw [calls_node, Ascending, List.pairwise_flatMap] at ht
    obtain ⟨hparts, hcross⟩ := ht
    replace hcross := hcross.imp fun {x y} hxy a ha b hb =>
      hxy a ((hints_lowerMarkup_perm x (s.enter form)).mem_iff.1 ha) b
        ((hints_lowerMarkup_perm y (s.enter form)).mem_iff.1 hb)
    rw [hints_lowerMarkup_node, hints_lowerInParts, Ascending, List.pairwise_flatMap, and_iff_left hcross,
      bracesFirst_node_iff]
    exact forall₂_congr fun part hpart => ih part hpart (s.enter form) (hparts part hpart)
  | markup m ih =>
    rw [calls_markup] at ht
    have hpieces : ∀ piece ∈ m.pieces, Ascending piece.calls := (List.pairwise_flatMap.1 ht).1
    have hpasses := pairwise_two_passes_iff stop_lt_asymm Piece.isBraced (Piece.hints s) Piece.calls m.pieces
      (fun piece _ => piece.hints_perm s) ht
    have hinside : (∀ piece ∈ m.pieces, Ascending (piece.hints s)) ↔
        ∀ content, Piece.braces content ∈ m.pieces → content.BracesFirst := by
      constructor
      · intro h content hcontent
        exact (ih content hcontent s (hpieces _ hcontent)).1 (h _ hcontent)
      · intro h piece hpiece
        cases piece with
        | element span filled => exact hpieces _ hpiece
        | braces content => exact (ih content hpiece s (hpieces _ hpiece)).2 (h content hpiece)
    rw [hints_lowerMarkup_pieces, bracesFirst_markup_iff, ← hinside]
    exact hpasses

/-- The hints are ascending exactly if they are in source post-order. -/
theorem hints_eq_calls_iff (t : Tree) (s : Surroundings) (ht : Ascending t.calls) :
    (t.lowerMarkup s).hints = t.calls ↔ Ascending (t.lowerMarkup s).hints := by
  constructor
  · intro h
    rwa [h]
  · intro h
    exact (hints_lowerMarkup_perm t s).eq_of_pairwise
      (fun a b _ _ hab hba => absurd hba (stop_lt_asymm a b hab)) h ht

/-! ### Hints of a source text -/

/-- In a source text without faults source post-order is ascending. -/
theorem ascending_calls_of_parseClean {options : Options} {source : String} {parsed : Parsed}
    (h : parseClean options source = .ok parsed) : Ascending parsed.tree.calls := by
  unfold parseClean at h
  split at h
  · cases h
  next program hparse =>
    split at h
    next hclean =>
      cases h
      have horder := elements_of_parse hparse (List.isEmpty_iff.1 hclean)
      exact (horder.sublist List.filter_sublist).map _ fun a b hab => hab
    · cases h

/-- A source text is transformed by reading it and lowering what it is read as. -/
theorem transform_ok {options : Options} {source : String} {output : Output}
    (h : transform options source = .ok output) :
    ∃ parsed, parseClean options source = .ok parsed ∧ output.hints = (lowerProgram options parsed.tree).hints := by
  obtain ⟨-, parsed, hparse, rfl⟩ := transform_eq_ok_iff.1 h
  exact ⟨parsed, hparse, rfl⟩

/-- The hints for a source text are the spans of the elements with remaining children, each once.  They ascend, and come
in source post-order, exactly if braces come first in all markup of the program. -/
theorem transform_hints_ascending_iff {options : Options} {source : String} {output : Output}
    (h : transform options source = .ok output) : ∃ parsed, parseClean options source = .ok parsed ∧
      Ascending parsed.tree.calls ∧ output.hints.Perm parsed.tree.calls ∧
      (Ascending output.hints ↔ parsed.tree.BracesFirst) ∧
      (output.hints = parsed.tree.calls ↔ parsed.tree.BracesFirst) := by
  obtain ⟨parsed, hparse, hhints⟩ := transform_ok h
  have hcalls := ascending_calls_of_parseClean hparse
  rw [hhints]
  refine ⟨parsed, hparse, hcalls, hints_lowerMarkup_perm _ _, ascending_hints_iff _ _ hcalls, ?_⟩
  exact (hints_eq_calls_iff _ _ hcalls).trans (ascending_hints_iff _ _ hcalls)

/-- An element with braces after it. -/
private def bracesLast : String := "<a><b>x</b>\x7b<c>y</c>\x7d</a>"

/-- What is between the braces reports before the element that stands before them. -/
theorem transform_hints_bracesLast : ∃ output parsed, transform .standard bracesLast = .ok output ∧
    parseClean .standard bracesLast = .ok parsed ∧ parsed.tree.calls = [⟨3, 11⟩, ⟨12, 20⟩, ⟨0, 25⟩] ∧
    output.hints = [⟨12, 20⟩, ⟨3, 11⟩, ⟨0, 25⟩] ∧ ¬Ascending output.hints ∧ ¬parsed.tree.BracesFirst := by
  have hhints : (transform .standard bracesLast).toOption.map Output.hints =
      some [⟨12, 20⟩, ⟨3, 11⟩, ⟨0, 25⟩] := by decide +kernel
  have hcalls : (parseClean .standard bracesLast).toOption.map (fun parsed => parsed.tree.calls) =
      some [⟨3, 11⟩, ⟨12, 20⟩, ⟨0, 25⟩] := by decide +kernel
  obtain ⟨output, houtput, hhints⟩ := ok_of_toOption hhints
  obtain ⟨parsed, hparsed, -, -, hiff, -⟩ := transform_hints_ascending_iff houtput
  rw [hparsed] at hcalls
  have hdisorder : ¬Ascending output.hints := by
    rw [hhints]
    decide
  exact ⟨output, parsed, houtput, hparsed, Option.some.inj hcalls, hhints, hdisorder, mt hiff.2 hdisorder⟩

end JsxLowering
