import JsxLowering.Proofs.DraftPlaces
import JsxLowering.Proofs.Elimination
import JsxLowering.Proofs.HintPlaces
import JsxLowering.Proofs.SharedHints

/-!
# The order of the calls

The lowering of an element or a fragment reports the component calls that it makes and that have children.  They come in
post-order of the lowered tree (`PostBefore`): a call comes after everything inside it, and of two calls side by side
the one in an earlier part of the tree comes first, so those in the attributes come before those among the children
(`lower_hints_postorder`).

The list of these calls with their places is read off the draft (`Draft.filledCalls`).
-/

namespace JsxLowering

/-- The first place comes before the second in post-order. -/
inductive PostBefore : List Step → List Step → Prop
  /-- What is inside comes first. -/
  | inside (step : Step) (rest : List Step) : PostBefore (step :: rest) []
  /-- What is in an earlier part comes first. -/
  | beside {i j : Nat} (h : i < j) (first second : List Step) : PostBefore (.part i :: first) (.part j :: second)
  | under (step : Step) {first second : List Step} (h : PostBefore first second) :
      PostBefore (step :: first) (step :: second)

namespace Draft

mutual

/-- The component calls with children in a draft, with their places and spans, in post-order. -/
def filledCalls : Draft → List ElementPlace
  | node _ _ parts => filledCallsFrom 0 parts
  | kept _ => []
  | component _ span _ attributes children =>
    attributes.filledCalls.map (Prod.map (.part 2 :: ·) id) ++ filledCallsFrom 3 children ++
      if children.isEmpty then [] else [([], span)]
  | literal _ _ => []

/-- The component calls with children in drafts, of which the first is the part with index `start`. -/
def filledCallsFrom (start : Nat) : List Draft → List ElementPlace
  | [] => []
  | d :: rest => d.filledCalls.map (Prod.map (.part start :: ·) id) ++ filledCallsFrom (start + 1) rest

end

/-- A draft is settled once its parts are. -/
@[elab_as_elim] theorem partwise {motive : Draft → Prop}
    (node : ∀ form span parts, (∀ part ∈ parts, motive part) → motive (.node form span parts))
    (kept : ∀ t, motive (.kept t))
    (component : ∀ ancestors span name attributes children, motive attributes → (∀ child ∈ children, motive child) →
      motive (.component ancestors span name attributes children))
    (literal : ∀ span text, motive (.literal span text)) (d : Draft) : motive d := by
  refine @Draft.rec motive (fun drafts => ∀ d ∈ drafts, motive d) node kept component literal ?nil ?cons d
  case nil => simp
  case cons =>
    intro first rest hfirst hrest
    exact List.forall_mem_cons.2 ⟨hfirst, hrest⟩

/-! ### Which calls are listed -/

private theorem mem_map_cons {step : Step} {places : List ElementPlace} {place : List Step} {span : Span} :
    (place, span) ∈ places.map (Prod.map (step :: ·) id) ↔ ∃ rest, place = step :: rest ∧ (rest, span) ∈ places := by
  constructor
  · intro h
    obtain ⟨⟨rest, span'⟩, hmem, heq⟩ := List.mem_map.1 h
    obtain ⟨rfl, rfl⟩ := Prod.mk.inj heq
    exact ⟨rest, rfl, hmem⟩
  · rintro ⟨rest, rfl, hmem⟩
    exact List.mem_map.2 ⟨(rest, span), hmem, rfl⟩

private theorem mem_filledCallsFrom {start : Nat} {drafts : List Draft} {place : List Step} {span : Span} :
    (place, span) ∈ filledCallsFrom start drafts ↔
      ∃ index d rest, drafts[index]? = some d ∧ place = .part (start + index) :: rest ∧
        (rest, span) ∈ d.filledCalls := by
  induction drafts generalizing start with
  | nil => simp [filledCallsFrom]
  | cons first others ih =>
    rw [filledCallsFrom, List.mem_append, mem_map_cons, ih]
    constructor
    · rintro (⟨rest, rfl, hmem⟩ | ⟨index, d, rest, hd, rfl, hmem⟩)
      · exact ⟨0, first, rest, rfl, rfl, hmem⟩
      · refine ⟨index + 1, d, rest, hd, ?_, hmem⟩
        rw [Nat.add_right_comm, Nat.add_assoc]
    · rintro ⟨index, d, rest, hd, rfl, hmem⟩
      cases index with
      | zero =>
        cases hd
        exact .inl ⟨rest, rfl, hmem⟩
      | succ index =>
        refine .inr ⟨index, d, rest, hd, ?_, hmem⟩
        rw [Nat.add_right_comm, Nat.add_assoc]

/-- Exactly the component calls with children are listed. -/
theorem mem_filledCalls {d : Draft} {place : List Step} {span : Span} : (place, span) ∈ d.filledCalls ↔
    ∃ ancestors name attributes children, d.at? place = some (.component ancestors span name attributes children) ∧
      children ≠ [] := by
  induction d using partwise generalizing place with
  | node form nodeSpan parts ih =>
    rw [filledCalls, mem_filledCallsFrom]
    constructor
    · rintro ⟨index, d, rest, hd, rfl, hmem⟩
      obtain ⟨ancestors, name, attributes, children, hplace, hfilled⟩ := (ih d (List.mem_of_getElem? hd)).1 hmem
      refine ⟨ancestors, name, attributes, children, ?_, hfilled⟩
      rw [at?, follow?, Nat.zero_add, hd]
      exact hplace
    · rintro ⟨ancestors, name, attributes, children, hplace, hfilled⟩
      cases place with
      | nil => cases hplace
      | cons step rest =>
        obtain ⟨d, hstep, hrest⟩ := Option.bind_eq_some_iff.1 hplace
        obtain ⟨index, rfl, hd⟩ := follow?_node_iff.1 hstep
        refine ⟨index, d, rest, hd, by rw [Nat.zero_add], ?_⟩
        exact (ih d (List.mem_of_getElem? hd)).2 ⟨ancestors, name, attributes, children, hrest, hfilled⟩
  | kept t =>
    rw [filledCalls]
    cases place <;> simp [at?, follow?]
  | component outer own ownName attributes children ihAttributes ihChildren =>
    rw [filledCalls, List.mem_append, List.mem_append, mem_map_cons, mem_filledCallsFrom]
    constructor
    · rintro ((⟨rest, rfl, hmem⟩ | ⟨index, d, rest, hd, rfl, hmem⟩) | hown)
      · obtain ⟨ancestors, name, inner, inside, hplace, hfilled⟩ := ihAttributes.1 hmem
        exact ⟨ancestors, name, inner, inside, hplace, hfilled⟩
      · obtain ⟨ancestors, name, inner, inside, hplace, hfilled⟩ := (ihChildren d (List.mem_of_getElem? hd)).1 hmem
        refine ⟨ancestors, name, inner, inside, ?_, hfilled⟩
        rw [at?, Nat.add_comm, follow?, hd]
        exact hplace
      · cases children with
        | nil => cases hown
        | cons child others =>
          obtain ⟨rfl, rfl⟩ := Prod.mk.inj (List.mem_singleton.1 hown)
          exact ⟨outer, ownName, attributes, child :: others, rfl, List.cons_ne_nil _ _⟩
    · rintro ⟨ancestors, name, inner, inside, hplace, hfilled⟩
      cases place with
      | nil =>
        cases hplace
        cases children with
        | nil => exact absurd rfl hfilled
        | cons child others => exact .inr (List.mem_singleton.2 rfl)
      | cons step rest =>
        obtain ⟨d, hstep, hrest⟩ := Option.bind_eq_some_iff.1 hplace
        refine .inl ?_
        rcases follow?_component_iff.1 hstep with ⟨rfl, rfl⟩ | ⟨index, rfl, hd⟩
        · exact .inl ⟨rest, rfl, ihAttributes.2 ⟨ancestors, name, inner, inside, hrest, hfilled⟩⟩
        · refine .inr ⟨index, d, rest, hd, by rw [Nat.add_comm], ?_⟩
          exact (ihChildren d (List.mem_of_getElem? hd)).2 ⟨ancestors, name, inner, inside, hrest, hfilled⟩
  | literal textSpan text =>
    rw [filledCalls]
    cases place <;> simp [at?, follow?]

/-! ### In which order they are listed -/

private theorem pairwise_map_cons (step : Step) {places : List ElementPlace}
    (h : places.Pairwise fun a b => PostBefore a.1 b.1) :
    (places.map (Prod.map (step :: ·) id)).Pairwise fun a b => PostBefore a.1 b.1 :=
  List.pairwise_map.2 (h.imp fun hab => hab.under step)

private theorem pairwise_filledCallsFrom (start : Nat) {drafts : List Draft}
    (h : ∀ d ∈ drafts, d.filledCalls.Pairwise fun a b => PostBefore a.1 b.1) :
    (filledCallsFrom start drafts).Pairwise fun a b => PostBefore a.1 b.1 := by
  induction drafts generalizing start with
  | nil => rw [filledCallsFrom]; exact .nil
  | cons first others ih =>
    rw [filledCallsFrom]
    have hfirst := pairwise_map_cons (.part start) (h first List.mem_cons_self)
    have hothers := ih (start + 1) fun d hd => h d (List.mem_cons_of_mem first hd)
    refine List.pairwise_append.2 ⟨hfirst, hothers, ?_⟩
    rintro ⟨place, span⟩ hplace ⟨other, span'⟩ hother
    obtain ⟨rest, rfl, -⟩ := mem_map_cons.1 hplace
    obtain ⟨index, d, rest', -, rfl, -⟩ := mem_filledCallsFrom.1 hother
    have hlater : start < start + 1 + index := by omega
    exact .beside hlater rest rest'

theorem pairwise_filledCalls (d : Draft) : d.filledCalls.Pairwise fun a b => PostBefore a.1 b.1 := by
  induction d using partwise with
  | node form span parts ih => rw [filledCalls]; exact pairwise_filledCallsFrom 0 ih
  | kept t => rw [filledCalls]; exact .nil
  | component ancestors span name attributes children ihAttributes ihChildren =>
    rw [filledCalls]
    have hattributes := pairwise_map_cons (.part 2) ihAttributes
    have hchildren := pairwise_filledCallsFrom 3 ihChildren
    refine List.pairwise_append.2 ⟨List.pairwise_append.2 ⟨hattributes, hchildren, ?_⟩, ?_, ?_⟩
    · rintro ⟨place, span'⟩ hplace ⟨other, span''⟩ hother
      obtain ⟨rest, rfl, -⟩ := mem_map_cons.1 hplace
      obtain ⟨index, d, rest', -, rfl, -⟩ := mem_filledCallsFrom.1 hother
      have hlater : 2 < 3 + index := by omega
      exact .beside hlater rest rest'
    · cases children.isEmpty with
      | true => exact .nil
      | false => exact List.pairwise_singleton _ _
    · rintro ⟨place, span'⟩ hplace own hown
      obtain rfl : own = ([], span) := by
        cases hempty : children.isEmpty with
        | true => simp [hempty] at hown
        | false => simpa [hempty] using hown
      -- every place listed before the call itself is a place inside it
      rcases List.mem_append.1 hplace with hplace | hplace
      · obtain ⟨rest, rfl, -⟩ := mem_map_cons.1 hplace
        exact .inside _ rest
      · obtain ⟨index, d, rest, -, rfl, -⟩ := mem_filledCallsFrom.1 hplace
        exact .inside _ rest
  | literal span text => rw [filledCalls]; exact .nil

/-! ### What is reported -/

private theorem map_snd_map_cons (step : Step) (places : List ElementPlace) :
    (places.map (Prod.map (step :: ·) id)).map Prod.snd = places.map Prod.snd := by
  rw [List.map_map]
  rfl

theorem map_snd_filledCallsFrom (start : Nat) (drafts : List Draft) :
    (filledCallsFrom start drafts).map Prod.snd = drafts.flatMap fun d => d.filledCalls.map Prod.snd := by
  induction drafts generalizing start with
  | nil => rw [filledCallsFrom]; rfl
  | cons d rest ih => rw [filledCallsFrom, List.map_append, map_snd_map_cons, ih, List.flatMap_cons]

theorem map_snd_filledCalls_component (ancestors : List Ancestor) (span : Span) (name : ElementName)
    (attributes : Draft) (children : List Draft) :
    (Draft.component ancestors span name attributes children).filledCalls.map Prod.snd =
      attributes.filledCalls.map Prod.snd ++ (children.flatMap fun d => d.filledCalls.map Prod.snd) ++
        if children.isEmpty then [] else [span] := by
  rw [filledCalls, List.map_append, List.map_append, map_snd_map_cons, map_snd_filledCallsFrom]
  cases children.isEmpty <;> rfl

end Draft

section

variable (names : MethodNames) (bound : Bool)

mutual

/-- The lowering of markup reports the component calls with children in its draft. -/
theorem Markup.hints_lower_eq_filledCalls : ∀ (m : Markup) (ancestors : List Ancestor),
    (m.lower names bound).hints = (m.draft false ancestors).filledCalls.map Prod.snd
  | .element span name attributes children, ancestors => by
    have hempty : (lowerChildren names bound children).value.isEmpty =
        (childDrafts false (.element :: ancestors) children).isEmpty := by
      rw [value_lowerChildren_eq_fill names bound children (.element :: ancestors), Draft.fillAll_eq_map,
        List.isEmpty_map]
    rw [hints_lower_element, hempty, hints_lowerAttributes_eq_filledCalls attributes (.element :: ancestors),
      hints_lowerChildren_eq_filledCalls children (.element :: ancestors), Markup.draft,
      Draft.map_snd_filledCalls_component]
    cases attributes with
    | nil => simp [attributeDrafts, Draft.filledCalls]
    | cons head rest => simp [Draft.filledCalls, Draft.map_snd_filledCallsFrom]
  | .fragment span children, ancestors => by
    simp only [Markup.lower, Logged.hints_bind, Logged.hints_pure, List.append_nil]
    rw [hints_lowerChildren_eq_filledCalls children (.fragment :: ancestors), Markup.draft, Draft.filledCalls,
      Draft.map_snd_filledCallsFrom]

private theorem hints_lowerAttributes_eq_filledCalls : ∀ (attributes : List Attribute) (ancestors : List Ancestor),
    (lowerAttributes names bound attributes).hints =
      (attributeDrafts false ancestors attributes).flatMap fun d => d.filledCalls.map Prod.snd
  | [], ancestors => by simp [lowerAttributes, attributeDrafts]
  | head :: rest, ancestors => by
    simp only [lowerAttributes, Logged.hints_bind, Logged.hints_pure, List.append_nil]
    rw [head.hints_lower_eq_filledCalls ancestors, hints_lowerAttributes_eq_filledCalls rest ancestors,
      attributeDrafts, List.flatMap_cons]

private theorem Attribute.hints_lower_eq_filledCalls : ∀ (head : Attribute) (ancestors : List Ancestor),
    (head.lower names bound).hints = (head.draft false ancestors).filledCalls.map Prod.snd
  | .named span name value, ancestors => by
    simp only [Attribute.lower, Logged.hints_bind, Logged.hints_pure, List.append_nil]
    rw [value.hints_lower_eq_filledCalls (.named :: ancestors) span, Attribute.draft, Draft.filledCalls,
      Draft.map_snd_filledCallsFrom]
    simp [Draft.filledCalls]
  | .spread span argument, ancestors => by
    rw [Attribute.draft, Draft.filledCalls, Draft.map_snd_filledCallsFrom]
    simp [Attribute.lower, Draft.between, Draft.filledCalls]

private theorem AttributeValue.hints_lower_eq_filledCalls :
    ∀ (value : AttributeValue) (ancestors : List Ancestor) (span : Span),
      (value.lower names bound span).hints = (value.draft false ancestors span).filledCalls.map Prod.snd
  | .missing, ancestors, span => by simp [AttributeValue.lower, AttributeValue.draft, Draft.filledCalls]
  | .text textSpan raw, ancestors, span => by simp [AttributeValue.lower, AttributeValue.draft, Draft.filledCalls]
  | .expression content, ancestors, span => by
    simp [AttributeValue.lower, AttributeValue.draft, Draft.between, Draft.filledCalls]
  | .empty, ancestors, span => by simp [AttributeValue.lower, AttributeValue.draft, Draft.filledCalls]
  | .markup m, ancestors, span => by
    rw [AttributeValue.lower, AttributeValue.draft, m.hints_lower_eq_filledCalls ancestors]

private theorem hints_lowerChildren_eq_filledCalls : ∀ (children : List Child) (ancestors : List Ancestor),
    (lowerChildren names bound children).hints =
      (childDrafts false ancestors children).flatMap fun d => d.filledCalls.map Prod.snd
  | [], ancestors => by simp [lowerChildren, childDrafts]
  | child :: rest, ancestors => by
    simp only [lowerChildren, Logged.hints_bind, Logged.hints_pure, List.append_nil]
    rw [child.hints_lower_eq_filledCalls ancestors, hints_lowerChildren_eq_filledCalls rest ancestors, childDrafts,
      List.flatMap_append]

private theorem Child.hints_lower_eq_filledCalls : ∀ (child : Child) (ancestors : List Ancestor),
    (child.lower names bound).hints =
      (child.draft false ancestors).toList.flatMap fun d => d.filledCalls.map Prod.snd
  | .text span raw, ancestors => by
    rw [hints_lower_text, Child.draft]
    split <;> simp [Draft.filledCalls]
  | .expression content, ancestors => by simp [Child.lower, Child.draft, Draft.between, Draft.filledCalls]
  | .empty, ancestors => by simp [Child.lower, Child.draft]
  | .spread span argument, ancestors => by
    simp [Child.lower, Child.draft, Draft.between, Draft.filledCalls, Draft.map_snd_filledCallsFrom]
  | .markup m, ancestors => by
    simp only [Child.lower, Logged.hints_bind, Logged.hints_pure, List.append_nil]
    rw [m.hints_lower_eq_filledCalls ancestors, Child.draft]
    simp

end

end

/-! ### Markup without markup between braces -/

private theorem anyHasMarkup_of_getElem? {parts : List Tree} {index : Nat} {part : Tree}
    (h : parts[index]? = some part) (hpart : part.hasMarkup = true) : anyHasMarkup parts = true := by
  induction parts generalizing index with
  | nil => cases h
  | cons first rest ih =>
    rw [anyHasMarkup, Bool.or_eq_true]
    cases index with
    | zero =>
      cases h
      exact .inl hpart
    | succ index => exact .inr (ih h)

private theorem hasMarkup_of_at? {t : Tree} {path : List Step} {m : Markup} (h : t.at? path = some (.markup m)) :
    t.hasMarkup = true := by
  induction path generalizing t with
  | nil =>
    cases h
    rw [Tree.hasMarkup]
  | cons step rest ih =>
    obtain ⟨u, hstep, hrest⟩ := Option.bind_eq_some_iff.1 h
    cases t with
    | markup outer => rw [Tree.hasMarkup]
    | node form span parts =>
      cases step with
      | part index =>
        rw [Tree.hasMarkup]
        exact anyHasMarkup_of_getElem? hstep (ih hrest)
      | ofAttribute index => cases hstep
      | ofChild index => cases hstep

/-- If nothing between the braces of markup holds markup, then all markup in it is reached without braces. -/
private theorem reaches_of_plain_braces {m inner : Markup} {path : List Step}
    (hplain : ∀ content, Piece.braces content ∈ m.pieces → content.hasMarkup = false)
    (h : (Tree.markup m).at? path = some (.markup inner)) : (Tree.markup m).reaches false path = true := by
  induction path generalizing m with
  | nil => rfl
  | cons step rest ih =>
    obtain ⟨u, hstep, hrest⟩ := Option.bind_eq_some_iff.1 h
    obtain ⟨⟨way, slot⟩, hentry, rfl, rfl⟩ := follow?_markup_iff.1 hstep
    have hpieces : ∀ piece ∈ slot.pieces, piece ∈ m.pieces := by
      intro piece hpiece
      rw [m.pieces_eq]
      exact List.mem_append_left _ (List.mem_flatMap.2 ⟨_, hentry, hpiece⟩)
    cases slot with
    | braces content =>
      have hnone := hplain content (hpieces _ (List.mem_singleton.2 rfl))
      have hsome : content.hasMarkup = true := hasMarkup_of_at? hrest
      rw [hnone] at hsome
      cases hsome
    | direct next =>
      refine reaches_cons_iff.2 ⟨leadsDirectly_of_mem_slots hentry, .markup next, hstep, ?_⟩
      exact ih (fun content hcontent => hplain content (hpieces _ hcontent)) hrest

/-! ### The calls of one lowering -/

private theorem call_inj {span span' : Span} {callee callee' : Tree} {arguments arguments' : List Tree}
    (h : Tree.call span callee arguments = .call span' callee' arguments') : span = span' ∧ arguments = arguments' := by
  injection h with _ hspan hparts
  injection hparts with _ harguments
  exact ⟨hspan, harguments⟩

section

variable (names : MethodNames) (bound : Bool) {m : Markup}

/-- Where the draft has the call for an element, the lowered markup has it, with as many children. -/
private theorem at?_lower_component {place : List Step} {ancestors : List Ancestor} {span : Span} {name : ElementName}
    {attributes : Draft} {children : List Draft}
    (h : (m.draft false []).at? place = some (.component ancestors span name attributes children)) :
    ∃ tag object kids, (m.lower names bound).value.at? place =
        some (.call span (names.callee span names.component) (tag :: object :: kids)) ∧
      kids.length = children.length := by
  have hlowered := Draft.at?_fill names (fun _ => bound) h
  rw [← m.value_lower_eq_fill names bound, Draft.fill] at hlowered
  refine ⟨_, _, _, hlowered, ?_⟩
  rw [Draft.fillAll_eq_map, List.length_map]

/-- The listed calls are those for elements that have at least three arguments. -/
private theorem mem_filledCalls_iff_arguments {place : List Step} {span : Span} :
    (place, span) ∈ (m.draft false []).filledCalls ↔
      (∃ ancestors name, (Tree.markup m).ElementCallAt false place ancestors name) ∧
      ∃ arguments, (m.lower names bound).value.at? place =
          some (.call span (names.callee span names.component) arguments) ∧ 3 ≤ arguments.length := by
  rw [Draft.mem_filledCalls]
  constructor
  · rintro ⟨ancestors, name, attributes, children, hplace, hfilled⟩
    obtain ⟨tag, object, kids, hat, hlength⟩ := at?_lower_component names bound hplace
    refine ⟨⟨ancestors, name, component_draft_iff.2 ⟨span, attributes, children, ?_⟩⟩, _, hat, ?_⟩
    · rw [Tree.draft]
      exact hplace
    · have hpos : 0 < children.length := List.length_pos_iff.2 hfilled
      rw [List.length_cons, List.length_cons, hlength]
      omega
  · rintro ⟨⟨ancestors, name, hcall⟩, arguments, hcalled, harguments⟩
    obtain ⟨span', attributes, children, hplace⟩ := component_draft_iff.1 hcall
    rw [Tree.draft] at hplace
    obtain ⟨tag, object, kids, hat, hlength⟩ := at?_lower_component names bound hplace
    obtain ⟨rfl, rfl⟩ := call_inj (Option.some.inj (hcalled.symm.trans hat))
    refine ⟨ancestors, name, attributes, children, hplace, ?_⟩
    rintro rfl
    rw [List.length_cons, List.length_cons, hlength, List.length_nil] at harguments
    omega

/-- The call for an element has at least three arguments exactly if anything remains of the children. -/
private theorem arguments_lower_iff {path : List Step} {span : Span} {name : ElementName}
    {attributes : List Attribute} {children : List Child}
    (hpath : (Tree.markup m).at? path = some (.markup (.element span name attributes children)))
    (hreach : (Tree.markup m).reaches false path = true) :
    ∃ arguments, (m.lower names bound).value.at? ((Tree.markup m).image path) =
        some (.call span (names.callee span names.component) arguments) ∧
      (3 ≤ arguments.length ↔ children.any Child.remains = true) := by
  have hdraft := at?_image_draft [] hpath hreach
  rw [Tree.draft, Tree.draft, Markup.draft] at hdraft
  obtain ⟨tag, object, kids, hat, hlength⟩ := at?_lower_component names bound hdraft
  refine ⟨_, hat, ?_⟩
  have hempty := isEmpty_childDrafts false (.element :: (Tree.markup m).ancestorsAt path []) children
  rw [List.length_cons, List.length_cons, hlength]
  cases hany : children.any Child.remains with
  | false =>
    rw [hany, Bool.not_false, List.isEmpty_iff] at hempty
    simp [hempty]
  | true =>
    rw [hany, Bool.not_true, List.isEmpty_eq_false_iff] at hempty
    have hpos := List.length_pos_iff.2 hempty
    have hthree : 3 ≤ (childDrafts false (.element :: (Tree.markup m).ancestorsAt path []) children).length + 1 + 1 := by
      omega
    simp [hthree]

end

/-- The lowering of an element or a fragment puts at the end of the list of hints, whatever is on it, the spans of the
component calls that it makes with at least three arguments, in post-order of the lowered tree.  A component call has at
least three arguments exactly if anything remains of the children of its element.  Calls are made for the elements that
are reached without braces; if nothing between braces holds markup, then these are all. -/
theorem lower_hints_postorder (names : MethodNames) (bound : Bool) (m : Markup) :
    (∀ hints, (m.lowerShared names bound).run hints =
      ((m.lower names bound).value, hints ++ (m.lower names bound).hints)) ∧
    (∃ calls : List ElementPlace, (m.lower names bound).hints = calls.map Prod.snd ∧
      calls.Pairwise (fun earlier later => PostBefore earlier.1 later.1) ∧
      ∀ place span, (place, span) ∈ calls ↔
        (∃ ancestors name, (Tree.markup m).ElementCallAt false place ancestors name) ∧
        ∃ arguments, (m.lower names bound).value.at? place =
            some (.call span (names.callee span names.component) arguments) ∧ 3 ≤ arguments.length) ∧
    (∀ path span name attributes children,
      (Tree.markup m).at? path = some (.markup (.element span name attributes children)) →
      (Tree.markup m).reaches false path = true →
      ∃ arguments, (m.lower names bound).value.at? ((Tree.markup m).image path) =
          some (.call span (names.callee span names.component) arguments) ∧
        (3 ≤ arguments.length ↔ children.any Child.remains = true)) ∧
    ((∀ content, Piece.braces content ∈ m.pieces → content.hasMarkup = false) →
      ∀ path inner, (Tree.markup m).at? path = some (.markup inner) → (Tree.markup m).reaches false path = true) := by
  refine ⟨m.appends_lower names bound, ?_, ?_, ?_⟩
  · have hhints := m.hints_lower_eq_filledCalls names bound []
    refine ⟨(m.draft false []).filledCalls, hhints, Draft.pairwise_filledCalls _, ?_⟩
    intro place span
    exact mem_filledCalls_iff_arguments names bound
  · intro path span name attributes children hpath hreach
    exact arguments_lower_iff names bound hpath hreach
  · intro hplain path inner hpath
    exact reaches_of_plain_braces hplain hpath

/-- The element `<a x=<b>{p}</b>><c>{q}</c><d/></a>`. -/
private def sideBySide : Markup :=
  .element ⟨0, 34⟩ (.plain ⟨1, 2⟩ "a")
    [.named ⟨3, 15⟩ (.plain ⟨3, 4⟩ "x")
      (.markup (.element ⟨5, 15⟩ (.plain ⟨6, 7⟩ "b") [] [.expression (.name ⟨9, 10⟩ "p")]))]
    [.markup (.element ⟨16, 26⟩ (.plain ⟨17, 18⟩ "c") [] [.expression (.name ⟨20, 21⟩ "q")]),
      .markup (.element ⟨26, 30⟩ (.plain ⟨27, 28⟩ "d") [] [])]

/-- First the call in the attribute is reported, then the first one among the children, and the outer call last; the
call for the element without children has two arguments only. -/
theorem lower_sideBySide_hints : (sideBySide.lower .standard false).hints = [⟨5, 15⟩, ⟨16, 26⟩, ⟨0, 34⟩] ∧
    ∃ arguments, (sideBySide.lower .standard false).value.at? [.part 4] =
        some (.call ⟨26, 30⟩ (MethodNames.standard.callee ⟨26, 30⟩ "createComponent") arguments) ∧
      arguments.length < 3 := by
  obtain ⟨-, -, hcount, hall⟩ := lower_hints_postorder .standard false sideBySide
  have hplain : ∀ content, Piece.braces content ∈ sideBySide.pieces → content.hasMarkup = false := by
    intro content hcontent
    have hpieces : sideBySide.pieces = [.braces (.name ⟨9, 10⟩ "p"), .element ⟨5, 15⟩ true,
        .braces (.name ⟨20, 21⟩ "q"), .element ⟨16, 26⟩ true, .element ⟨26, 30⟩ false, .element ⟨0, 34⟩ true] := rfl
    rw [hpieces] at hcontent
    simp only [List.mem_cons, Piece.braces.injEq, reduceCtorEq, List.not_mem_nil, or_false, false_or] at hcontent
    rcases hcontent with rfl | rfl <;> rfl
  have hreach := hall hplain [.ofChild 1] _ rfl
  obtain ⟨arguments, hat, hlength⟩ := hcount [.ofChild 1] _ _ _ _ rfl hreach
  exact ⟨rfl, arguments, hat, Nat.lt_of_not_le fun h => absurd (hlength.1 h) (by decide)⟩

end JsxLowering
