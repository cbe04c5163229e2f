import JsxLowering.Proofs.HintOrder
import JsxLowering.Proofs.Slots
import Mathlib.Data.List.Pairwise

/-!
# The places of the hints

A hint is a span, and spans alone do not say which element they come from.  Here every hint gets its place: the hints of
a program are the spans of the elements with remaining children, listed place by place (`exists_callPlaces`).

* Every such element has one place in the list, wherever in the program it stands, and nothing else is listed.
* No place is listed before a place inside it, so an element is hinted at after all elements inside it, also where these
  stand between braces and others do not.

In a program that was read from a source text different elements have different spans, so no span is reported twice.
-/

namespace JsxLowering

/-- A place in a tree, and the span of the element that stands there. -/
abbrev ElementPlace := List Step × Span

/-- At the place stands an element of which children remain. -/
def Tree.FilledAt (t : Tree) (path : List Step) (span : Span) : Prop :=
  ∃ name attributes children, t.at? path = some (.markup (.element span name attributes children)) ∧
    children.any Child.remains = true

/-- The places are those of all elements with remaining children, each once, and none before a place inside it. -/
structure Tree.CallPlaces (t : Tree) (places : List ElementPlace) : Prop where
  mem_iff : ∀ path span, (path, span) ∈ places ↔ t.FilledAt path span
  once : (places.map Prod.fst).Nodup
  outward : places.Pairwise fun earlier later => ¬earlier.1 <+: later.1

theorem filledAt_cons {t : Tree} {step : Step} {rest : List Step} {span : Span} :
    t.FilledAt (step :: rest) span ↔ ∃ u, t.follow? step = some u ∧ u.FilledAt rest span := by
  unfold Tree.FilledAt
  simp only [Tree.at?, Option.bind_eq_some_iff]
  constructor
  · rintro ⟨name, attributes, children, ⟨u, hu, hat⟩, hremains⟩
    exact ⟨u, hu, name, attributes, children, hat, hremains⟩
  · rintro ⟨u, hu, name, attributes, children, hat, hremains⟩
    exact ⟨name, attributes, children, ⟨u, hu, hat⟩, hremains⟩

private theorem follow?_node_iff {form : Form} {span : Span} {parts : List Tree} {step : Step} {u : Tree} :
    (Tree.node form span parts).follow? step = some u ↔
      ∃ entry ∈ parts.zipIdx, Step.part entry.2 = step ∧ entry.1 = u := by
  simp only [Prod.exists, List.mem_zipIdx_iff_getElem?]
  cases step with
  | part index =>
    constructor
    · intro h
      exact ⟨u, index, h, rfl, rfl⟩
    · rintro ⟨part, i, hpart, hi, rfl⟩
      cases hi
      exact hpart
  | ofAttribute index => simp [Tree.follow?]
  | ofChild index => simp [Tree.follow?]

/-! ### Places behind a step -/

/-- Places as they are seen from one step further out. -/
private def behind (step : Step) (places : List ElementPlace) : List ElementPlace :=
  places.map fun place => (step :: place.1, place.2)

private theorem mem_behind {step : Step} {places : List ElementPlace} {place : ElementPlace} :
    place ∈ behind step places ↔ ∃ rest, place.1 = step :: rest ∧ (rest, place.2) ∈ places := by
  unfold behind
  rw [List.mem_map]
  constructor
  · rintro ⟨⟨rest, span⟩, h, rfl⟩
    exact ⟨rest, rfl, h⟩
  · rintro ⟨rest, hpath, h⟩
    exact ⟨(rest, place.2), h, Prod.ext hpath.symm rfl⟩

/-- None of the places comes before a place inside it, or twice. -/
private def Outward (places : List ElementPlace) : Prop :=
  places.Pairwise fun earlier later => ¬earlier.1 <+: later.1

private theorem Outward.once {places : List ElementPlace} (h : Outward places) : (places.map Prod.fst).Nodup := by
  refine List.pairwise_map.2 (h.imp ?_)
  intro earlier later hprefix heq
  exact hprefix (heq ▸ List.prefix_refl _)

private theorem outward_append {first rest : List ElementPlace} :
    Outward (first ++ rest) ↔ Outward first ∧ Outward rest ∧ ∀ a ∈ first, ∀ b ∈ rest, ¬a.1 <+: b.1 :=
  List.pairwise_append

private theorem Outward.behind {places : List ElementPlace} (h : Outward places) (step : Step) :
    Outward (behind step places) := by
  refine List.pairwise_map.2 (h.imp ?_)
  intro earlier later hprefix hbehind
  exact hprefix (List.cons_prefix_cons.1 hbehind).2

private theorem not_prefix_behind {step other : Step} {first rest : List ElementPlace}
    (h : step = other → ∀ a ∈ first, ∀ b ∈ rest, ¬a.1 <+: b.1) :
    ∀ a ∈ behind step first, ∀ b ∈ behind other rest, ¬a.1 <+: b.1 := by
  intro a ha b hb hprefix
  obtain ⟨p, hp, hpa⟩ := mem_behind.1 ha
  obtain ⟨q, hq, hqb⟩ := mem_behind.1 hb
  rw [hp, hq, List.cons_prefix_cons] at hprefix
  exact h hprefix.1 _ hpa _ hqb hprefix.2

/-! ### Places behind all steps from a tree -/

section

variable {α : Type} {items : List α} {step : α → Step}

private theorem mem_flatMap_behind {places : α → List ElementPlace} {place : ElementPlace} :
    (place ∈ items.flatMap fun x => behind (step x) (places x)) ↔
      ∃ x ∈ items, ∃ rest, place.1 = step x :: rest ∧ (rest, place.2) ∈ places x := by
  simp only [List.mem_flatMap, mem_behind]

private theorem map_snd_flatMap_behind {places : α → List ElementPlace} {hints : α → List Span}
    (h : ∀ x ∈ items, hints x = (places x).map Prod.snd) :
    (items.flatMap fun x => behind (step x) (places x)).map Prod.snd = items.flatMap hints := by
  rw [List.map_flatMap]
  refine List.flatMap_congr fun x hx => ?_
  rw [h x hx, behind, List.map_map]
  rfl

private theorem outward_flatMap_behind (hsteps : items.Pairwise fun x y => step x ≠ step y)
    {places : α → List ElementPlace} (h : ∀ x ∈ items, Outward (places x)) :
    Outward (items.flatMap fun x => behind (step x) (places x)) := by
  refine List.pairwise_flatMap.2 ⟨fun x hx => (h x hx).behind (step x), hsteps.imp ?_⟩
  intro x y hxy
  exact not_prefix_behind fun heq => absurd heq hxy

/-- Behind each step two lists of places follow each other; all the first ones may come before all the second ones. -/
private theorem outward_behind_append (hsteps : items.Pairwise fun x y => step x ≠ step y)
    {inside own : α → List ElementPlace} (h : ∀ x ∈ items, Outward (inside x ++ own x)) :
    Outward (items.flatMap (fun x => behind (step x) (inside x)) ++
      items.flatMap fun x => behind (step x) (own x)) := by
  refine outward_append.2 ⟨?_, ?_, ?_⟩
  · exact outward_flatMap_behind hsteps fun x hx => (outward_append.1 (h x hx)).1
  · exact outward_flatMap_behind hsteps fun x hx => (outward_append.1 (h x hx)).2.1
  · intro a ha b hb
    obtain ⟨x, hx, hax⟩ := List.mem_flatMap.1 ha
    obtain ⟨y, hy, hby⟩ := List.mem_flatMap.1 hb
    refine not_prefix_behind (fun heq => ?_) a hax b hby
    have hsymm : Std.Symm fun x y => step x ≠ step y := ⟨fun _ _ hne => hne.symm⟩
    by_cases hxy : x = y
    · rw [← hxy]
      exact (outward_append.1 (h x hx)).2.2
    · exact absurd heq (hsteps.forall hx hy hxy)

/-- The places of a tree are those behind the steps from it, and then its root. -/
private theorem callPlaces_of_steps {t : Tree} (content : α → Tree) (inside own : α → List ElementPlace)
    (root : List Span) (hsteps : items.Pairwise fun x y => step x ≠ step y)
    (hfollow : ∀ way u, t.follow? way = some u ↔ ∃ x ∈ items, step x = way ∧ content x = u)
    (h : ∀ x ∈ items, (content x).CallPlaces (inside x ++ own x))
    (hroot : ∀ span, span ∈ root ↔ t.FilledAt [] span) (hone : root.length ≤ 1) :
    t.CallPlaces (items.flatMap (fun x => behind (step x) (inside x)) ++
      items.flatMap (fun x => behind (step x) (own x)) ++ root.map fun span => ([], span)) := by
  have houtward : Outward (items.flatMap (fun x => behind (step x) (inside x)) ++
      items.flatMap (fun x => behind (step x) (own x)) ++ root.map fun span => ([], span)) := by
    refine outward_append.2 ⟨outward_behind_append hsteps fun x hx => (h x hx).outward, ?_, ?_⟩
    · match root, hone with
      | [], _ => exact .nil
      | [span], _ => exact List.pairwise_singleton _ _
    · intro a ha b hb hprefix
      obtain ⟨span, -, rfl⟩ := List.mem_map.1 hb
      have hnil : a.1 = [] := List.prefix_nil.1 hprefix
      rcases List.mem_append.1 ha with ha | ha
      all_goals
        obtain ⟨x, -, rest, hpath, -⟩ := mem_flatMap_behind.1 ha
        rw [hpath] at hnil
        cases hnil
  refine ⟨fun path span => ?_, houtward.once, houtward⟩
  simp only [List.mem_append, mem_flatMap_behind, List.mem_map]
  cases path with
  | nil => simp [hroot]
  | cons way rest =>
    simp only [filledAt_cons, hfollow]
    constructor
    · rintro ((⟨x, hx, path, hpath, hplace⟩ | ⟨x, hx, path, hpath, hplace⟩) | ⟨_, _, hnil⟩)
      · cases hpath
        exact ⟨_, ⟨x, hx, rfl, rfl⟩, ((h x hx).mem_iff _ _).1 (List.mem_append_left _ hplace)⟩
      · cases hpath
        exact ⟨_, ⟨x, hx, rfl, rfl⟩, ((h x hx).mem_iff _ _).1 (List.mem_append_right _ hplace)⟩
      · cases hnil
    · rintro ⟨_, ⟨x, hx, rfl, rfl⟩, hplace⟩
      left
      rcases List.mem_append.1 (((h x hx).mem_iff _ _).2 hplace) with hplace | hplace
      · exact .inl ⟨x, hx, rest, rfl, hplace⟩
      · exact .inr ⟨x, hx, rest, rfl, hplace⟩

end

/-! ### Every hint has its place -/

private theorem mem_elementHints_ownPiece (s : Surroundings) (m : Markup) (span : Span) :
    span ∈ elementHints s m.ownPiece ↔ (Tree.markup m).FilledAt [] span := by
  cases m with
  | element own name attributes children =>
    simp only [Markup.ownPiece, elementHints_element, filledSpans, List.mem_map, List.mem_filter, List.mem_singleton]
    constructor
    · rintro ⟨_, ⟨rfl, hfilled⟩, rfl⟩
      exact ⟨name, attributes, children, rfl, hfilled⟩
    · rintro ⟨_, _, _, hat, hfilled⟩
      cases hat
      exact ⟨_, ⟨rfl, hfilled⟩, rfl⟩
  | fragment own children =>
    simp only [Markup.ownPiece, elementHints_nil, List.not_mem_nil, false_iff]
    rintro ⟨_, _, _, hat, -⟩
    cases hat

private theorem bracedHints_ownPiece (s : Surroundings) (m : Markup) : bracedHints s m.ownPiece = [] := by
  cases m <;> rfl

private theorem length_elementHints_ownPiece (s : Surroundings) (m : Markup) :
    (elementHints s m.ownPiece).length ≤ 1 := by
  cases m with
  | element span name attributes children =>
    simp only [Markup.ownPiece, elementHints_element, filledSpans]
    cases children.any Child.remains <;> simp
  | fragment span children => simp [Markup.ownPiece]

/-- The places in markup: first those between braces, however deep in markup the braces stand, then its elements. -/
private theorem exists_callPlaces_markup (s : Surroundings) (m : Markup)
    (hbraces : ∀ content, Piece.braces content ∈ m.pieces →
      ∃ places, content.CallPlaces places ∧ (content.lowerMarkup s).hints = places.map Prod.snd) :
    ∃ inside own, (Tree.markup m).CallPlaces (inside ++ own) ∧ bracedHints s m.pieces = inside.map Prod.snd ∧
      elementHints s m.pieces = own.map Prod.snd := by
  induction m using Markup.slotwise with
  | markup m ih =>
    have hslots : ∀ entry ∈ m.slots, ∃ inside own, entry.2.content.CallPlaces (inside ++ own) ∧
        bracedHints s entry.2.pieces = inside.map Prod.snd ∧ elementHints s entry.2.pieces = own.map Prod.snd := by
      rintro ⟨step, slot⟩ hentry
      have hpieces : ∀ piece ∈ slot.pieces, piece ∈ m.pieces := by
        intro piece hpiece
        rw [m.pieces_eq]
        exact List.mem_append_left _ (List.mem_flatMap.2 ⟨_, hentry, hpiece⟩)
      cases slot with
      | braces content =>
        obtain ⟨places, hplaces, hhints⟩ := hbraces content (hpieces _ (List.mem_singleton.2 rfl))
        exact ⟨places, [], by rwa [List.append_nil], by rw [Slot.pieces, bracedHints_braces, hhints], rfl⟩
      | direct inner => exact ih step inner hentry fun content hcontent => hbraces content (hpieces _ hcontent)
    choose! inside own hplaces hinside hown using hslots
    have hall := callPlaces_of_steps (·.2.content) inside own (elementHints s m.ownPiece) m.steps_slots
      (fun _ _ => follow?_markup_iff) hplaces (mem_elementHints_ownPiece s m) (length_elementHints_ownPiece s m)
    rw [List.append_assoc] at hall
    refine ⟨_, _, hall, ?_, ?_⟩
    · rw [map_snd_flatMap_behind hinside, m.pieces_eq, bracedHints_append, bracedHints_ownPiece, List.append_nil,
        bracedHints_flatMap]
    · rw [List.map_append, map_snd_flatMap_behind hown, m.pieces_eq, elementHints_append, elementHints_flatMap,
        List.map_map]
      exact congrArg _ (List.map_id _).symm

/-- The places in a node: those in its parts, one part after the other. -/
private theorem exists_callPlaces_node (s : Surroundings) (form : Form) (span : Span) (parts : List Tree)
    (hparts : ∀ part ∈ parts, ∃ places, part.CallPlaces places ∧
      (part.lowerMarkup (s.enter form)).hints = places.map Prod.snd) :
    ∃ places, (Tree.node form span parts).CallPlaces places ∧
      ((Tree.node form span parts).lowerMarkup s).hints = places.map Prod.snd := by
  choose! places hplaces hhints using hparts
  have hmem : ∀ entry ∈ parts.zipIdx, entry.1 ∈ parts := fun entry hentry =>
    List.mem_of_getElem? (List.mem_zipIdx_iff_getElem?.1 hentry)
  have hsteps : parts.zipIdx.Pairwise fun x y => Step.part x.2 ≠ Step.part y.2 :=
    (zipIdx_pairwise_ne parts).imp fun hne heq => hne (Step.part.inj heq)
  have hroot : ∀ own, own ∈ [] ↔ (Tree.node form span parts).FilledAt [] own := by
    simp [Tree.FilledAt, Tree.at?]
  have hall := callPlaces_of_steps Prod.fst (fun entry => places entry.1) (fun _ => []) [] hsteps
    (fun _ _ => follow?_node_iff) (fun entry hentry => by rw [List.append_nil]; exact hplaces _ (hmem entry hentry))
    hroot (Nat.zero_le 1)
  refine ⟨_, hall, ?_⟩
  have hinside : (parts.zipIdx.flatMap fun entry => behind (.part entry.2) (places entry.1)).map Prod.snd =
      parts.zipIdx.flatMap fun entry => (entry.1.lowerMarkup (s.enter form)).hints :=
    map_snd_flatMap_behind fun entry hentry => hhints _ (hmem entry hentry)
  have hown : (parts.zipIdx.flatMap fun entry => behind (.part entry.2) []) = [] := by simp [behind]
  rw [hown, List.map_nil, List.append_nil, List.append_nil, hinside, hints_lowerMarkup_node, hints_lowerInParts]
  conv => lhs; rw [← parts.zipIdx_map_fst 0, List.flatMap_map]

/-- The hints of a tree are the spans at the places of its elements with remaining children. -/
theorem exists_callPlaces (t : Tree) (s : Surroundings) :
    ∃ places, t.CallPlaces places ∧ (t.lowerMarkup s).hints = places.map Prod.snd := by
  induction t using Tree.piecewise generalizing s with
  | node form span parts ih =>
    exact exists_callPlaces_node s form span parts fun part hpart => ih part hpart (s.enter form)
  | markup m ih =>
    obtain ⟨inside, own, hplaces, hinside, hown⟩ :=
      exists_callPlaces_markup s m fun content hcontent => ih content hcontent s
    refine ⟨_, hplaces, ?_⟩
    rw [hints_lowerMarkup_pieces, hinside, hown, List.map_append]

/-! ### Whole programs and source texts -/

/-- The hints of a program are the spans at the places of its elements with remaining children, from the inside
outwards.  For a source text no two of them are equal. -/
theorem lowerProgram_hints_exact (options : Options) :
    (∀ program : Tree, ∃ places, program.CallPlaces places ∧
      (lowerProgram options program).hints = places.map Prod.snd) ∧
    ∀ (source : String) (output : Output), transform options source = .ok output →
      ∃ parsed places, parseClean options source = .ok parsed ∧ parsed.tree.CallPlaces places ∧
        output.hints = places.map Prod.snd ∧ output.hints.Nodup := by
  have hprogram : ∀ program : Tree, ∃ places, program.CallPlaces places ∧
      (lowerProgram options program).hints = places.map Prod.snd := fun program => exists_callPlaces program _
  refine ⟨hprogram, ?_⟩
  intro source output h
  obtain ⟨parsed, hparse, hhints⟩ := transform_ok h
  obtain ⟨places, hplaces, hspans⟩ := hprogram parsed.tree
  refine ⟨parsed, places, hparse, hplaces, hhints.trans hspans, ?_⟩
  have hcalls : parsed.tree.calls.Nodup := by
    refine (ascending_calls_of_parseClean hparse).imp ?_
    rintro a _ hlt rfl
    exact Nat.lt_irrefl _ hlt
  rw [hhints]
  exact (hints_lowerMarkup_perm parsed.tree _).nodup_iff.2 hcalls

/-- An element with an element as an attribute, a function between braces, an element with nothing in it but a blank,
and a fragment. -/
private def mixed : String := "<a b=<c>x</c>>\x7b() => <d>\x7bz\x7d</d>\x7d<e> </e><><f>y</f></></a>"

/-- The function between the braces of `mixed` reports first; neither the blank element nor the fragment does. -/
theorem transform_mixed_hints : ∃ output parsed places, transform .standard mixed = .ok output ∧
    parseClean .standard mixed = .ok parsed ∧ parsed.tree.CallPlaces places ∧
    output.hints = [⟨21, 31⟩, ⟨5, 13⟩, ⟨42, 50⟩, ⟨0, 57⟩] ∧ output.hints = places.map Prod.snd ∧
    output.hints.Nodup := by
  have hrun : (transform .standard mixed).toOption.map Output.hints =
      some [⟨21, 31⟩, ⟨5, 13⟩, ⟨42, 50⟩, ⟨0, 57⟩] := by decide +kernel
  obtain ⟨output, houtput, hhints⟩ := ok_of_toOption hrun
  obtain ⟨parsed, places, hparsed, hplaces, hspans, honce⟩ :=
    (lowerProgram_hints_exact .standard).2 mixed output houtput
  exact ⟨output, parsed, places, houtput, hparsed, hplaces, hhints, hspans, honce⟩

end JsxLowering
