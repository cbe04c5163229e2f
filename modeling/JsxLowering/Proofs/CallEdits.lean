import JsxLowering.Proofs.DraftPlaces

/-!
# Editing the calls of a lowered tree

An edit changes a tree everywhere at once, from the inside outwards, and it is told the place at which it acts
(`Tree.mapAt`).  An edit of the calls acts where the lowering has put a call for an element or a text, and nowhere else
(`Tree.EditsCalls`); the places of these calls are told from the source tree.

If two ways to fill in calls differ by such an edit of each single call, then the two lowered trees differ by the edit
of all calls (`exists_edit_fill`).  What is reported is the same for both (`hints_lowerMarkup_congr`).
-/

namespace JsxLowering

/-! ### Edits -/

mutual

/-- A tree with all trees inside it edited, the inner ones first. -/
def Tree.mapAt (edit : List Step → Tree → Tree) : Tree → Tree
  | .node form span parts =>
    edit [] (.node form span (mapPartsAt (fun index place => edit (.part index :: place)) parts))
  | .markup m => edit [] (.markup m)

/-- Parts with all trees inside them edited. -/
def mapPartsAt (edit : Nat → List Step → Tree → Tree) : List Tree → List Tree
  | [] => []
  | part :: rest => part.mapAt (edit 0) :: mapPartsAt (fun index => edit (index + 1)) rest

end

mutual

theorem mapAt_id : ∀ t : Tree, t.mapAt (fun _ => id) = t
  | .node form span parts => by rw [Tree.mapAt, mapPartsAt_id parts, id]
  | .markup m => by rw [Tree.mapAt, id]

private theorem mapPartsAt_id : ∀ parts : List Tree, mapPartsAt (fun _ _ => id) parts = parts
  | [] => by rw [mapPartsAt]
  | part :: rest => by rw [mapPartsAt, mapAt_id part, mapPartsAt_id rest]

end

/-- An edit that acts on the calls of the lowered tree only: on the call for an element as `component` says for the
ancestors and the name of the element, on the call for a text as `literal` says. -/
structure Tree.EditsCalls (t : Tree) (deep : Bool) (component : List Ancestor → ElementName → Tree → Tree)
    (literal : Tree → Tree) (edit : List Step → Tree → Tree) : Prop where
  element : ∀ place ancestors name, t.ElementCallAt deep place ancestors name → edit place = component ancestors name
  text : ∀ place, t.TextCallAt deep place → edit place = literal
  other : ∀ place, (∀ ancestors name, ¬t.ElementCallAt deep place ancestors name) → ¬t.TextCallAt deep place →
    edit place = id

/-- An edit that changes no call changes nothing. -/
theorem Tree.EditsCalls.eq_id {t : Tree} {deep : Bool} {component : List Ancestor → ElementName → Tree → Tree}
    {edit : List Step → Tree → Tree} (h : t.EditsCalls deep component id edit)
    (hcomponent : ∀ place ancestors name, t.ElementCallAt deep place ancestors name → component ancestors name = id) :
    edit = fun _ => id := by
  funext place
  by_cases helement : ∃ ancestors name, t.ElementCallAt deep place ancestors name
  · obtain ⟨ancestors, name, helement⟩ := helement
    rw [h.element place ancestors name helement, hcomponent place ancestors name helement]
  · by_cases htext : t.TextCallAt deep place
    · exact h.text place htext
    · exact h.other place (fun ancestors name hcall => helement ⟨ancestors, name, hcall⟩) htext

/-! ### Edits of single calls -/

/-- The call with another object and another method in its callee. -/
def Tree.setCallee (object method : String) : Tree → Tree
  | .node (.call optional pure) span
      (.node (.member chained) calleeSpan [.node (.name _) objectSpan [], .node (.key _) methodSpan []] :: arguments) =>
    .node (.call optional pure) span
      (.node (.member chained) calleeSpan [.node (.name object) objectSpan [], .node (.key method) methodSpan []] ::
        arguments)
  | t => t

/-- The call with a string in the place of its first argument, with the span of this argument. -/
def Tree.quoteFirst (text : String) : Tree → Tree
  | .node (.call optional pure) span (callee :: first :: rest) =>
    .node (.call optional pure) span (callee :: .string first.span text :: rest)
  | t => t

/-! ### Two ways to fill in a draft -/

/-- The calls that the second names and receivers give are the edited calls that the first ones give. -/
structure EditsEachCall (component : List Ancestor → ElementName → Tree → Tree) (literal : Tree → Tree)
    (first : MethodNames) (bound : List Ancestor → Bool) (second : MethodNames) (bound' : List Ancestor → Bool) :
    Prop where
  element : ∀ ancestors span name attributes children,
    component ancestors name
        (first.componentCall span ((name.tag (bound ancestors)).argument span) (some attributes) children) =
      second.componentCall span ((name.tag (bound' ancestors)).argument span) (some attributes) children
  text : ∀ span text, literal (first.literalCall span text) = second.literalCall span text

namespace Draft

section

variable (component : List Ancestor → ElementName → Tree → Tree) (literal : Tree → Tree)

/-- The edit of the call that a draft is. -/
def edit : Draft → Tree → Tree
  | .node _ _ _ => id
  | .kept _ => id
  | .component ancestors _ name _ _ => component ancestors name
  | .literal _ _ => literal

/-- The edit of the calls in a draft. -/
def editAt (d : Draft) (place : List Step) : Tree → Tree :=
  ((d.at? place).map (edit component literal)).getD id

/-- The edit of the calls in drafts. -/
def editsAt (drafts : List Draft) (index : Nat) (place : List Step) : Tree → Tree :=
  ((drafts[index]?.bind (·.at? place)).map (edit component literal)).getD id

private theorem editAt_kept (t : Tree) : (kept t).editAt component literal = fun _ => id := by
  funext place
  cases place <;> rfl

/-- The callee and the tag of a call hold no calls of the draft, and the call itself is edited last. -/
private theorem mapAt_componentCall (names : MethodNames) (ancestors : List Ancestor) (span span' : Span)
    (name : ElementName) (d : Draft) (drafts : List Draft) (tag attributes : Tree) (children : List Tree) :
    (names.componentCall span tag (some attributes) children).mapAt
        ((Draft.component ancestors span' name d drafts).editAt component literal) =
      component ancestors name (names.componentCall span tag (some (attributes.mapAt (d.editAt component literal)))
        (mapPartsAt (editsAt component literal drafts) children)) := by
  have hcallee : (names.callee span names.component).mapAt (fun _ => id) = names.callee span names.component :=
    mapAt_id _
  have htag : tag.mapAt (fun _ => id) = tag := mapAt_id tag
  rw [MethodNames.componentCall, Tree.call, Option.getD_some, Tree.mapAt, mapPartsAt, mapPartsAt, mapPartsAt]
  refine congrArg (fun parts => component ancestors name (.node (.call false false) span parts)) ?_
  exact congrArg₂ List.cons hcallee (congrArg₂ List.cons htag rfl)

private theorem mapAt_literalCall (names : MethodNames) (span span' : Span) (text text' : String) :
    (names.literalCall span text).mapAt ((Draft.literal span' text').editAt component literal) =
      literal (names.literalCall span text) := by
  rw [MethodNames.literalCall, Tree.call, Tree.mapAt]
  exact congrArg (fun parts => literal (.node (.call false false) span parts)) (mapPartsAt_id _)

variable {component literal} {first second : MethodNames} {bound bound' : List Ancestor → Bool}

mutual

/-- If single calls differ by an edit, then so do whole trees. -/
private theorem fill_eq_mapAt (h : EditsEachCall component literal first bound second bound') :
    ∀ d : Draft, d.fill second bound' = (d.fill first bound).mapAt (d.editAt component literal)
  | .node form span parts => by
    rw [fill, fill, Tree.mapAt, fillAll_eq_mapPartsAt h parts]
    rfl
  | .kept t => by rw [editAt_kept, fill, fill, mapAt_id]
  | .component ancestors span name attributes children => by
    rw [fill, fill, fill_eq_mapAt h attributes, fillAll_eq_mapPartsAt h children, ← h.element, mapAt_componentCall]
  | .literal span text => by rw [fill, fill, ← h.text, mapAt_literalCall]

private theorem fillAll_eq_mapPartsAt (h : EditsEachCall component literal first bound second bound') :
    ∀ drafts : List Draft, fillAll second bound' drafts =
      mapPartsAt (editsAt component literal drafts) (fillAll first bound drafts)
  | [] => by rw [fillAll, fillAll, mapPartsAt]
  | d :: rest => by
    rw [fillAll, fillAll, mapPartsAt, fill_eq_mapAt h d, fillAll_eq_mapPartsAt h rest]
    rfl

end

end

end Draft

/-- If two ways to fill in single calls differ by an edit, then the two ways to fill in the draft of a tree differ by
the edit of the calls of the tree. -/
theorem exists_edit_fill (t : Tree) (deep : Bool) {component : List Ancestor → ElementName → Tree → Tree}
    {literal : Tree → Tree} {first second : MethodNames} {bound bound' : List Ancestor → Bool}
    (h : EditsEachCall component literal first bound second bound') :
    ∃ edit, t.EditsCalls deep component literal edit ∧
      (t.draft deep []).fill second bound' = ((t.draft deep []).fill first bound).mapAt edit := by
  refine ⟨(t.draft deep []).editAt component literal, ⟨?_, ?_, ?_⟩, Draft.fill_eq_mapAt h _⟩
  · intro place ancestors name hcall
    obtain ⟨span, attributes, children, hplace⟩ := component_draft_iff.1 hcall
    rw [Draft.editAt, hplace]
    rfl
  · intro place hcall
    obtain ⟨span, text, hplace⟩ := literal_draft_iff.1 hcall
    rw [Draft.editAt, hplace]
    rfl
  · intro place helement htext
    rw [Draft.editAt]
    cases hplace : (t.draft deep []).at? place with
    | none => rfl
    | some d =>
      cases d with
      | node form span parts => rfl
      | kept inner => rfl
      | component ancestors span name attributes children =>
        exact absurd (component_draft_iff.2 ⟨span, attributes, children, hplace⟩) (helement ancestors name)
      | literal span text => exact absurd (literal_draft_iff.2 ⟨span, text, hplace⟩) htext

/-! ### What is reported -/

private theorem Piece.hints_congr {s s' : Surroundings} {pieces : List Piece}
    (h : ∀ piece ∈ pieces, piece.hints s = piece.hints s') :
    bracedHints s pieces = bracedHints s' pieces ∧ elementHints s pieces = elementHints s' pieces := by
  constructor
  · exact List.flatMap_congr fun piece hpiece => h piece (List.mem_of_mem_filter hpiece)
  · exact List.flatMap_congr fun piece hpiece => h piece (List.mem_of_mem_filter hpiece)

/-- What is reported depends neither on the names nor on the receiver. -/
theorem hints_lowerMarkup_congr (t : Tree) (s s' : Surroundings) :
    (t.lowerMarkup s).hints = (t.lowerMarkup s').hints := by
  induction t using Tree.piecewise generalizing s s' with
  | node form span parts ih =>
    rw [hints_lowerMarkup_node, hints_lowerMarkup_node, hints_lowerInParts, hints_lowerInParts]
    exact List.flatMap_congr fun part hpart => ih part hpart _ _
  | markup m ih =>
    have hpieces : ∀ piece ∈ m.pieces, piece.hints s = piece.hints s' := by
      intro piece hpiece
      cases piece with
      | element span filled => rfl
      | braces content => exact ih content hpiece s s'
    obtain ⟨hbraced, helement⟩ := Piece.hints_congr hpieces
    rw [hints_lowerMarkup_pieces, hints_lowerMarkup_pieces, hbraced, helement]

end JsxLowering
