import JsxLowering.Session

/-!
# Sessions with a shared list of hints

Every step of a session, and in it the lowering of every element, may put its hints on one list that all of them share
(`runSharedSession`).  In `Logged` the same lowering keeps its hints apart instead and puts the lists together.  Both
come to the same: a computation on the shared list gives the value of the one that keeps its hints apart, and appends
the hints of that one (`Appends`), through the recursion of the lowering as through the steps of a session.

So steps do not depend on each other.  Each gives what it gives alone, and the list only grows: by the hints that each
step reports alone, and not at all for literals, failing steps and tags of elements.
-/

namespace JsxLowering

/-! ### Lowering on a shared list -/

/-- A computation on one list of hints. -/
abbrev Shared := StateM (List Span)

/-- Hints go to the end of the list; records are not kept. -/
instance : Reports Shared where
  hint span := modify (· ++ [span])
  note _ := pure ()

/-- The expression that an element or a fragment becomes. -/
abbrev Markup.lowerShared (names : MethodNames) (bound : Bool) (markup : Markup) : Shared Tree :=
  markup.lower names bound Shared

/-- The properties of an attribute list. -/
abbrev lowerSharedAttributes (names : MethodNames) (bound : Bool) (attributes : List Attribute) : Shared (List Tree) :=
  lowerAttributes names bound attributes Shared

/-- The arguments or elements of a list of children. -/
abbrev lowerSharedChildren (names : MethodNames) (bound : Bool) (children : List Child) : Shared (List Tree) :=
  lowerChildren names bound children Shared

/-! ### What a computation appends -/

section

variable {α β : Type}

/-- The first computation gives the value of the second, and puts the hints of the second at the end of the list. -/
def Appends (p : Shared α) (x : Logged α) : Prop :=
  ∀ hints, p.run hints = (x.value, hints ++ x.hints)

theorem Appends.pure (a : α) : Appends (Pure.pure a) (Pure.pure a) := by
  intro hints
  show (a, hints) = (a, hints ++ [])
  rw [List.append_nil]

theorem Appends.bind {p : Shared α} {x : Logged α} {q : α → Shared β} {f : α → Logged β} (h : Appends p x)
    (hrest : ∀ a, Appends (q a) (f a)) : Appends (p >>= q) (x >>= f) := by
  intro hints
  show (q (p.run hints).1).run (p.run hints).2 = _
  rw [h hints, hrest x.value (hints ++ x.hints), List.append_assoc]
  rfl

theorem Appends.hint (span : Span) : Appends (Reports.hint span) (Reports.hint span) := by
  intro hints
  rfl

theorem Appends.note (record : Record) : Appends (Reports.note record) (Reports.note record) := .pure ()

end

mutual

theorem Markup.appends_lower (names : MethodNames) (bound : Bool) (m : Markup) :
    Appends (m.lower names bound Shared) (m.lower names bound) := by
  cases m with
  | element span name attributes children =>
    rw [Markup.lower, Markup.lower]
    refine (appends_lowerAttributes names bound attributes).bind fun properties => ?_
    refine (appends_lowerChildren names bound children).bind fun arguments => ?_
    cases arguments with
    | nil => exact .pure _
    | cons first others => exact (Appends.hint span).bind fun _ => .pure _
  | fragment span children =>
    rw [Markup.lower, Markup.lower]
    exact (appends_lowerChildren names bound children).bind fun elements => .pure _

theorem appends_lowerAttributes (names : MethodNames) (bound : Bool) (attributes : List Attribute) :
    Appends (lowerAttributes names bound attributes Shared) (lowerAttributes names bound attributes) := by
  cases attributes with
  | nil =>
    rw [lowerAttributes, lowerAttributes]
    exact .pure _
  | cons head rest =>
    rw [lowerAttributes, lowerAttributes]
    refine (head.appends_lower names bound).bind fun property => ?_
    exact (appends_lowerAttributes names bound rest).bind fun properties => .pure _

theorem Attribute.appends_lower (names : MethodNames) (bound : Bool) (head : Attribute) :
    Appends (head.lower names bound Shared) (head.lower names bound) := by
  cases head with
  | named span name value =>
    rw [Attribute.lower, Attribute.lower]
    exact (value.appends_lower names bound span).bind fun content => .pure _
  | spread span argument =>
    rw [Attribute.lower, Attribute.lower]
    exact .pure _

theorem AttributeValue.appends_lower (names : MethodNames) (bound : Bool) (span : Span) (value : AttributeValue) :
    Appends (value.lower names bound span Shared) (value.lower names bound span) := by
  cases value with
  | markup m =>
    rw [AttributeValue.lower, AttributeValue.lower]
    exact m.appends_lower names bound
  | missing => rw [AttributeValue.lower, AttributeValue.lower]; exact .pure _
  | text textSpan raw => rw [AttributeValue.lower, AttributeValue.lower]; exact .pure _
  | expression content => rw [AttributeValue.lower, AttributeValue.lower]; exact .pure _
  | empty => rw [AttributeValue.lower, AttributeValue.lower]; exact .pure _

theorem appends_lowerChildren (names : MethodNames) (bound : Bool) (children : List Child) :
    Appends (lowerChildren names bound children Shared) (lowerChildren names bound children) := by
  cases children with
  | nil =>
    rw [lowerChildren, lowerChildren]
    exact .pure _
  | cons child rest =>
    rw [lowerChildren, lowerChildren]
    refine (child.appends_lower names bound).bind fun first => ?_
    exact (appends_lowerChildren names bound rest).bind fun others => .pure _

theorem Child.appends_lower (names : MethodNames) (bound : Bool) (child : Child) :
    Appends (child.lower names bound Shared) (child.lower names bound) := by
  cases child with
  | text span raw =>
    rw [Child.lower, Child.lower]
    split
    · exact (Appends.note _).bind fun _ => .pure _
    · exact .pure _
  | markup m =>
    rw [Child.lower, Child.lower]
    exact (m.appends_lower names bound).bind fun tree => .pure _
  | expression content => rw [Child.lower, Child.lower]; exact .pure _
  | empty => rw [Child.lower, Child.lower]; exact .pure _
  | spread span argument => rw [Child.lower, Child.lower]; exact .pure _

end

/-! ### Sessions on a shared list -/

/-- Runs a step. -/
abbrev SessionStep.runShared (names : MethodNames) (step : SessionStep) : Shared (Except SessionError SessionValue) :=
  step.run names Shared

/-- Runs the steps of a session.  Every answer comes with the list as the step leaves it. -/
def runSharedSession (names : MethodNames) :
    List SessionStep → Shared (List (Except SessionError SessionValue × List Span))
  | [] => return []
  | step :: rest => do
    let value ← step.runShared names
    let hints ← get
    let answers ← runSharedSession names rest
    return (value, hints) :: answers

/-- What a step gives and reports alone, on an empty list. -/
def SessionStep.alone (names : MethodNames) (step : SessionStep) : Except SessionError SessionValue × List Span :=
  (step.runShared names).run []

/-- A step leaves every list as it is. -/
def SessionStep.Silent (names : MethodNames) (step : SessionStep) : Prop :=
  ∀ hints, ((step.runShared names).run hints).2 = hints

/-- Whether the markup that a source text starts with is a fragment. -/
def startsWithFragment (source : String) (recover : Bool) : Bool :=
  match markupOf source recover with
  | .ok (.fragment _ _) => true
  | _ => false

section

variable (names : MethodNames)

theorem Markup.appends_act (bound : Bool) (action : Action) (m : Markup) :
    Appends (m.act names bound action Shared) (m.act names bound action) := by
  cases action with
  | tag =>
    cases m with
    | element span name attributes children => exact .pure _
    | fragment span children => exact (Markup.appends_lower names bound _).bind fun tree => .pure _
  | attributes =>
    cases m with
    | element span name attributes children =>
      exact (appends_lowerAttributes names bound attributes).bind fun properties => .pure _
    | fragment span children => exact (Markup.appends_lower names bound _).bind fun tree => .pure _
  | children =>
    cases m with
    | element span name attributes children =>
      exact (appends_lowerChildren names bound children).bind fun trees => .pure _
    | fragment span children => exact (appends_lowerChildren names bound children).bind fun trees => .pure _
  | element =>
    cases m with
    | element span name attributes children => exact (Markup.appends_lower names bound _).bind fun tree => .pure _
    | fragment span children => exact (Markup.appends_lower names bound _).bind fun tree => .pure _

theorem SessionStep.appends_run (step : SessionStep) : Appends (step.runShared names) (step.run names) := by
  cases step with
  | literal text => exact .pure _
  | act action source bound recover =>
    rw [SessionStep.runShared, SessionStep.run, SessionStep.run]
    cases markupOf source recover with
    | error error => exact .pure _
    | ok m => exact (m.appends_act names bound action).bind fun value => .pure _

theorem SessionStep.alone_eq (step : SessionStep) :
    step.alone names = ((step.run names).value, (step.run names).hints) := by
  rw [SessionStep.alone, step.appends_run names [], List.nil_append]

/-- On any list a step gives what it gives alone, and appends what it reports alone. -/
theorem SessionStep.run_runShared (step : SessionStep) (hints : List Span) :
    (step.runShared names).run hints = ((step.alone names).1, hints ++ (step.alone names).2) := by
  rw [step.appends_run names hints, step.alone_eq names]

/-! ### Steps that report nothing -/

theorem SessionStep.silent_literal (text : String) : (SessionStep.literal text).Silent names := by
  intro hints
  rfl

/-- A step that gives nothing reports nothing. -/
theorem SessionStep.silent_of_fails {step : SessionStep} (h : (step.alone names).1.isOk = false) :
    step.Silent names := by
  cases step with
  | literal text => cases h
  | act action source bound recover =>
    intro hints
    rw [SessionStep.alone, SessionStep.runShared, SessionStep.run] at h
    rw [SessionStep.runShared, SessionStep.run]
    cases hmarkup : markupOf source recover with
    | error error => rfl
    | ok m =>
      rw [hmarkup] at h
      cases h

/-- The tag of an element is found without a report. -/
theorem SessionStep.silent_tag {source : String} {recover : Bool} (bound : Bool)
    (h : startsWithFragment source recover = false) : (SessionStep.act .tag source bound recover).Silent names := by
  intro hints
  rw [SessionStep.runShared, SessionStep.run]
  unfold startsWithFragment at h
  cases hmarkup : markupOf source recover with
  | error error => rfl
  | ok m =>
    cases m with
    | element span name attributes children => rfl
    | fragment span children =>
      rw [hmarkup] at h
      cases h

/-- A fragment has no tag, and is lowered instead. -/
theorem SessionStep.runShared_tag_fragment {source : String} {recover : Bool} (bound : Bool)
    (h : startsWithFragment source recover = true) :
    (SessionStep.act .tag source bound recover).runShared names =
      (SessionStep.act .element source bound recover).runShared names := by
  rw [SessionStep.runShared, SessionStep.runShared, SessionStep.run, SessionStep.run]
  unfold startsWithFragment at h
  cases hmarkup : markupOf source recover with
  | error error => rfl
  | ok m =>
    cases m with
    | element span name attributes children =>
      rw [hmarkup] at h
      cases h
    | fragment span children => rfl

/-! ### Whole sessions -/

/-- The session that keeps the hints of its steps apart is the one on the shared list. -/
theorem run_runSharedSession (hints : List Span) (steps : List SessionStep) :
    (runSharedSession names steps).run hints =
      (runSession names hints steps, hints ++ steps.flatMap fun step => (step.alone names).2) := by
  induction steps generalizing hints with
  | nil =>
    rw [List.flatMap_nil, List.append_nil]
    rfl
  | cons step rest ih =>
    have hcons : (runSharedSession names (step :: rest)).run hints =
        ((step.runShared names).run hints :: ((runSharedSession names rest).run ((step.runShared names).run hints).2).1,
          ((runSharedSession names rest).run ((step.runShared names).run hints).2).2) := rfl
    rw [hcons, step.run_runShared names hints, ih (hints ++ (step.alone names).2), List.flatMap_cons,
      ← List.append_assoc, step.alone_eq names, runSession]

/-- The answer to a step is what it gives alone, with the hints that it and the steps before it report alone. -/
theorem getElem?_runSession (hints : List Span) {steps : List SessionStep} {index : Nat} {step : SessionStep}
    (h : steps[index]? = some step) :
    (runSession names hints steps)[index]? =
      some ((step.alone names).1, hints ++ (steps.take (index + 1)).flatMap fun step => (step.alone names).2) := by
  induction steps generalizing hints index with
  | nil => simp at h
  | cons first rest ih =>
    rw [runSession]
    cases index with
    | zero =>
      cases h
      simp [step.alone_eq names]
    | succ index =>
      rw [List.getElem?_cons_succ, ih (hints ++ (first.run names).hints) h, List.take_succ_cons, List.flatMap_cons,
        ← List.append_assoc, first.alone_eq names]

theorem length_runSession (hints : List Span) (steps : List SessionStep) :
    (runSession names hints steps).length = steps.length := by
  induction steps generalizing hints with
  | nil => rfl
  | cons step rest ih => rw [runSession, List.length_cons, ih, List.length_cons]

/-- The list only grows, at its end. -/
theorem pairwise_prefix_runSession (hints : List Span) (steps : List SessionStep) :
    (hints :: (runSession names hints steps).map Prod.snd).Pairwise (· <+: ·) := by
  induction steps generalizing hints with
  | nil => exact List.pairwise_singleton _ _
  | cons step rest ih =>
    rw [runSession, List.map_cons]
    have hgrows : hints <+: hints ++ (step.run names).hints := List.prefix_append _ _
    have hrest := ih (hints ++ (step.run names).hints)
    refine List.Pairwise.cons ?_ hrest
    intro later hlater
    rcases List.mem_cons.1 hlater with rfl | hlater
    · exact hgrows
    · exact hgrows.trans (List.rel_of_pairwise_cons hrest hlater)

end

/-- The steps of a session are independent and compose.  A session is a run on one shared list; the answer to each step
is what the step gives alone, the list after it holds the hints that the steps so far report alone, and every list is
the start of every later one.  Literals, failing steps and tags of elements leave the list as it is; for a fragment,
which has no tag, the step does what lowering it does. -/
theorem session_composes (names : MethodNames) (hints : List Span) (steps : List SessionStep) :
    (runSharedSession names steps).run hints =
      (runSession names hints steps, hints ++ steps.flatMap fun step => (step.alone names).2) ∧
    (runSession names hints steps).length = steps.length ∧
    (∀ index step, steps[index]? = some step → (runSession names hints steps)[index]? =
      some ((step.alone names).1, hints ++ (steps.take (index + 1)).flatMap fun step => (step.alone names).2)) ∧
    (hints :: (runSession names hints steps).map Prod.snd).Pairwise (· <+: ·) ∧
    (∀ text, (SessionStep.literal text).Silent names) ∧
    (∀ step : SessionStep, (step.alone names).1.isOk = false → step.Silent names) ∧
    (∀ source bound recover, startsWithFragment source recover = false →
      (SessionStep.act .tag source bound recover).Silent names) ∧
    ∀ source bound recover, startsWithFragment source recover = true →
      (SessionStep.act .tag source bound recover).runShared names =
        (SessionStep.act .element source bound recover).runShared names := by
  refine ⟨run_runSharedSession names hints steps, length_runSession names hints steps, ?_,
    pairwise_prefix_runSession names hints steps, SessionStep.silent_literal names, ?_, ?_, ?_⟩
  · intro index step hstep
    exact getElem?_runSession names hints hstep
  · intro step hfails
    exact SessionStep.silent_of_fails names hfails
  · intro source bound recover helement
    exact SessionStep.silent_tag names bound helement
  · intro source bound recover hfragment
    exact SessionStep.runShared_tag_fragment names bound hfragment

/-- A literal, an element, a text without markup, the tag of an element and that of a fragment. -/
private def mixedSteps : List SessionStep :=
  [.literal "x", .act .element "<a>x</a>" false false, .act .children "x" false false, .act .tag "<a>x</a>" false false,
    .act .tag "<><a>x</a></>" false false]

/-- The element and the fragment of `mixedSteps` report, the other steps do not. -/
theorem session_mixedSteps :
    ((runSharedSession .standard mixedSteps).run []).2 = [⟨0, 8⟩, ⟨2, 10⟩] ∧
    (runSession .standard [] mixedSteps)[3]?.map Prod.snd = some [⟨0, 8⟩] ∧
    (SessionStep.act .children "x" false false).Silent .standard ∧
    (SessionStep.act .tag "<a>x</a>" false false).Silent .standard ∧
    (SessionStep.act .tag "<><a>x</a></>" false false).runShared .standard =
      (SessionStep.act .element "<><a>x</a></>" false false).runShared .standard := by
  obtain ⟨hrun, -, hanswer, -, -, hfails, htag, hfragment⟩ := session_composes .standard [] mixedSteps
  have hreports : ([] ++ mixedSteps.flatMap fun step => (step.alone .standard).2) = [⟨0, 8⟩, ⟨2, 10⟩] := by
    decide +kernel
  have hearlier : ([] ++ (mixedSteps.take 4).flatMap fun step => (step.alone .standard).2) = [⟨0, 8⟩] := by
    decide +kernel
  refine ⟨(congrArg Prod.snd hrun).trans hreports, ?_, hfails _ (by decide +kernel), htag _ _ _ (by decide +kernel),
    hfragment _ _ _ (by decide +kernel)⟩
  exact (congrArg (Option.map Prod.snd) (hanswer 3 _ rfl)).trans (congrArg some hearlier)

/-- To ask for the tag of a fragment is not silent: the elements in the fragment are lowered and report. -/
theorem tag_fragment_not_silent : ¬∀ (names : MethodNames) (source : String) (bound recover : Bool),
    (SessionStep.act .tag source bound recover).Silent names := by
  intro h
  have hsilent := h .standard "<><a>x</a></>" false false []
  have hreport : (((SessionStep.act .tag "<><a>x</a></>" false false).runShared .standard).run []).2 = [⟨2, 10⟩] := by
    decide +kernel
  exact List.cons_ne_nil _ _ (hreport.symm.trans hsilent)

end JsxLowering
