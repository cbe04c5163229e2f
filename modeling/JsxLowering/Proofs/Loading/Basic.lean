import JsxLowering.Proofs.Layout.Order

/-!
# Parsers that do not mind how the text is loaded

The loading of a text matters to a parser in two ways (`Variation`).  Whether `await` is an operator is one of the
conditions under which it runs, and makes a difference only at the word itself.  Whether the text is a script is kept by
the reader, and makes a difference only at the marks that open comments in scripts alone.  `Indifferent v p` says that
two runs of `p` that vary in the one way, from a place after which this does not come up, end alike, and again at such a
place.

The property composes along `bind`, so that most parsers have it because their steps do.
-/

namespace JsxLowering

/-- Wherever a token of the text starts, it is not the given word. -/
def NeverReads (word : String) (text : List Char) : Prop :=
  ∀ rest, rest <:+ text → (scanToken rest).kind.isWord word = false

theorem NeverReads.suffix {word : String} {text rest : List Char} (h : NeverReads word text) (hrest : rest <:+ text) :
    NeverReads word rest :=
  fun later hlater => h later (hlater.trans hrest)

/-- The place and everything after it are free of the word `await`. -/
structure Reader.AwaitFree (r : Reader) : Prop where
  token : r.token.kind.isWord "await" = false
  here : NeverReads "await" r.here
  rest : NeverReads "await" r.rest

/-- The text has neither of the marks that open comments in scripts only. -/
def NoScriptComments (text : List Char) : Prop :=
  ¬ "<!--".toList <:+: text ∧ ¬ "-->".toList <:+: text

instance (text : List Char) : Decidable (NoScriptComments text) :=
  inferInstanceAs (Decidable (¬ "<!--".toList <:+: text ∧ ¬ "-->".toList <:+: text))

theorem NoScriptComments.suffix {text rest : List Char} (h : NoScriptComments text) (hrest : rest <:+ text) :
    NoScriptComments rest :=
  ⟨fun hinside => h.1 (hinside.trans hrest.isInfix), fun hinside => h.2 (hinside.trans hrest.isInfix)⟩

/-- Nothing after the place opens a comment in scripts only. -/
structure Reader.CommentFree (r : Reader) : Prop where
  here : NoScriptComments r.here
  rest : NoScriptComments r.rest

/-! ### Moving on -/

theorem passTrivia_suffix (rules : TriviaRules) (skip : Nat) (t : Trivia) (text : List Char) :
    (passTrivia rules skip t text).2 <:+ text := by
  fun_induction passTrivia rules skip t text with
  | case1 => exact List.suffix_rfl
  | case2 skip t c rest ih => exact ih.trans (List.suffix_cons c rest)
  | case3 t c rest _ ih => exact ih.trans (List.suffix_cons c rest)
  | case4 t c rest _ _ ih => exact ih.trans (List.suffix_cons c rest)
  | case5 t c rest _ _ _ line ih => exact ih.trans (List.suffix_cons c rest)
  | case6 t body length _ _ _ _ text ih => exact ih.trans (List.suffix_cons _ _)
  | case7 | case8 => exact List.suffix_rfl

/-- Where `await` is never read, the scanner does not find it either. -/
def Spares (scan : List Char → Scanned) : Prop :=
  ∀ text, NeverReads "await" text → (scan text).kind.isWord "await" = false

theorem spares_scanToken : Spares scanToken := fun text h => h text List.suffix_rfl

theorem isWord_attributeStringToken (quote : Char) (rest : List Char) (word : String) :
    (attributeStringToken quote rest).kind.isWord word = false := by
  unfold attributeStringToken
  dsimp only
  split <;> rfl

theorem spares_scanAttributeValue : Spares scanAttributeValue := by
  intro text h
  unfold scanAttributeValue
  split
  · exact isWord_attributeStringToken _ _ _
  · exact isWord_attributeStringToken _ _ _
  · exact spares_scanToken text h

theorem spares_scanChild : Spares scanChild := by
  intro text _
  unfold scanChild
  split
  · rfl
  · rfl
  · rfl
  · dsimp only
    split <;> rfl

theorem spares_scanRegex : Spares scanRegex := by
  intro text _
  unfold scanRegex regexToken
  split <;> rfl

theorem spares_scanTemplateRest : Spares scanTemplateRest := by
  intro text _
  unfold scanTemplateRest templateToken
  split <;> rfl

theorem spares_scanAngle : Spares scanAngle := by
  intro text _
  unfold scanAngle markToken?
  cases angleOperators.find? (·.isPrefixOf text) <;> rfl

namespace Reader.AwaitFree

variable {r : Reader}

theorem place {text : List Char} (h : NeverReads "await" text) (t : Trivia) (start : Nat)
    {scan : List Char → Scanned} (hscan : Spares scan) : (r.place t start text (scan text)).AwaitFree :=
  ⟨hscan text h, h, h.suffix (List.drop_suffix _ _)⟩

theorem advanceBy (h : NeverReads "await" r.rest) {scan : List Char → Scanned} (hscan : Spares scan) :
    (r.advanceBy scan).AwaitFree :=
  .place (h.suffix (passTrivia_suffix _ _ _ _)) _ _ hscan

theorem advance (h : NeverReads "await" r.rest) : r.advance.AwaitFree := .advanceBy h spares_scanToken

theorem advanceToValue (h : NeverReads "await" r.rest) : r.advanceToValue.AwaitFree :=
  .advanceBy h spares_scanAttributeValue

theorem advanceToChild (h : NeverReads "await" r.rest) : r.advanceToChild.AwaitFree := .place h _ _ spares_scanChild

theorem rescan (h : r.AwaitFree) {scan : List Char → Scanned} (hscan : Spares scan) : (r.rescan scan).AwaitFree :=
  ⟨hscan r.here h.here, h.here, h.here.suffix (List.drop_suffix _ _)⟩

theorem start {scripted : Bool} {offset : Nat} {text : List Char} (h : NeverReads "await" text) :
    (Reader.start scripted offset text).AwaitFree :=
  .place (h.suffix (passTrivia_suffix _ _ _ _)) _ _ spares_scanToken

end Reader.AwaitFree

/-! ### Moving on in a script -/

theorem NoScriptComments.opensLineComment_eq {text : List Char} (h : NoScriptComments text) (scripted atLine : Bool) :
    opensLineComment scripted atLine text = opensLineComment false atLine text := by
  unfold opensLineComment
  split
  · rfl
  next rest => exact absurd ⟨[], rest, rfl⟩ h.1
  next rest => exact absurd ⟨[], rest, rfl⟩ h.2
  · rfl

/-- Where no comment opens in scripts only, a script has the same white space and comments.  The induction is on the
text, some of which may belong to a comment that has been noted. -/
theorem passTrivia_scripted {text : List Char} (h : NoScriptComments text) (scripted opener : Bool) (skip : Nat)
    (t : Trivia) : passTrivia ⟨scripted, opener⟩ skip t text = passTrivia ⟨false, opener⟩ skip t text := by
  induction text generalizing skip t with
  | nil => cases skip <;> rfl
  | cons c rest ih =>
    have hrest := ih (h.suffix (List.suffix_cons c rest))
    cases skip with
    | succ skip => exact hrest skip (t.pass c)
    | zero =>
      unfold passTrivia
      simp only [h.opensLineComment_eq scripted, hrest]

namespace Reader.CommentFree

variable {r : Reader}

theorem place {text : List Char} (h : NoScriptComments text) (t : Trivia) (start : Nat) (scanned : Scanned) :
    (r.place t start text scanned).CommentFree :=
  ⟨h, h.suffix (List.drop_suffix _ _)⟩

theorem advanceBy (h : r.CommentFree) (scan : List Char → Scanned) : (r.advanceBy scan).CommentFree :=
  .place (h.rest.suffix (passTrivia_suffix _ _ _ _)) _ _ _

theorem rescan (h : r.CommentFree) (scan : List Char → Scanned) : (r.rescan scan).CommentFree :=
  ⟨h.here, h.here.suffix (List.drop_suffix _ _)⟩

theorem start {scripted : Bool} {offset : Nat} {text : List Char} (h : NoScriptComments text) :
    (Reader.start scripted offset text).CommentFree :=
  .place (h.suffix (passTrivia_suffix _ _ _ _)) _ _ _

theorem advanceBy_scripted (h : r.CommentFree) (scan : List Char → Scanned) (b : Bool) :
    { r with scripted := b }.advanceBy scan = { r.advanceBy scan with scripted := b } := by
  unfold Reader.advanceBy
  rw [passTrivia_scripted h.rest b, passTrivia_scripted h.rest r.scripted]
  rfl

end Reader.CommentFree

theorem Reader.start_scripted {text : List Char} (h : NoScriptComments text) (offset : Nat) (scripted : Bool) :
    Reader.start scripted offset text = { Reader.start false offset text with scripted := scripted } := by
  unfold Reader.start
  rw [passTrivia_scripted h scripted]
  rfl

namespace Grammar

/-! ### Two runs -/

/-- The ways in which the loading of a text matters to a parser: whether `await` is an operator, and whether the text is
a script. -/
inductive Variation where
  | await
  | script

/-- Conditions that vary in the one way, if it is one of conditions. -/
inductive VaryConditions : Variation → Conditions → Conditions → Prop
  | await (c : Conditions) (b : Bool) : VaryConditions .await c { c with awaitOperator := b }
  | script (c : Conditions) : VaryConditions .script c c

/-- Readers at one place from which the one way does not come up, and which vary in it if it is one of readers. -/
inductive VaryReaders : Variation → Reader → Reader → Prop
  | await {r : Reader} (h : r.AwaitFree) : VaryReaders .await r r
  | script {r : Reader} (h : r.CommentFree) (b : Bool) : VaryReaders .script r { r with scripted := b }

section

variable {α β σ : Type} {v : Variation} {p : Parser α} {f : α → Parser β}

/-- Two runs end alike: they fail for the same reasons, or they give the same and come to one place. -/
inductive EndAlike (v : Variation) : Except Failure (α × Reader) → Except Failure (α × Reader) → Prop
  | error (failure : Failure) : EndAlike v (.error failure) (.error failure)
  | ok (a : α) {r r' : Reader} (h : VaryReaders v r r') : EndAlike v (.ok (a, r)) (.ok (a, r'))

/-- Two runs of the parser that vary in the one way end alike. -/
class Indifferent (v : Variation) (p : Parser α) : Prop where
  alike : ∀ {c c' : Conditions} {r r' : Reader}, VaryConditions v c c' → VaryReaders v r r' →
    EndAlike v (p c r) (p c' r')

theorem bind_run (c : Conditions) (r : Reader) :
    (p >>= f) c r = Except.bind (p c r) fun result => f result.1 c result.2 :=
  rfl

theorem Indifferent.bind [hp : Indifferent v p] (hf : ∀ a, Indifferent v (f a)) : Indifferent v (p >>= f) := by
  refine ⟨fun {c c' r r'} hc hr => ?_⟩
  have hfirst := hp.alike hc hr
  rw [bind_run, bind_run]
  generalize p c r = first at hfirst
  generalize p c' r' = first' at hfirst
  cases hfirst with
  | error failure => exact .error failure
  | ok a hmid => exact (hf a).alike hc hmid

instance [Indifferent v p] [hf : ∀ a, Indifferent v (f a)] : Indifferent v (p >>= f) := .bind hf

/-- What does not depend on the result before it is looked at once. -/
instance {q : Parser β} [Indifferent v p] [hq : Indifferent v q] : Indifferent v (p >>= fun _ => q) := .bind fun _ => hq

instance {p : Parser (α × β)} {f : α × β → Parser σ} [Indifferent v p] [hf : ∀ a b, Indifferent v (f (a, b))] :
    Indifferent v (p >>= f) :=
  .bind fun (a, b) => hf a b

instance {a : α} : Indifferent v (pure a : Parser α) := ⟨fun _ hr => .ok a hr⟩

instance {condition : Prop} [Decidable condition] {p q : Parser α} [hp : Indifferent v p] [hq : Indifferent v q] :
    Indifferent v (if condition then p else q) := by
  split
  · exact hp
  · exact hq

instance {test : Parser Bool} {p q : Parser α} [Indifferent v test] [Indifferent v p] [Indifferent v q] :
    Indifferent v (test >>= fun b => if b then p else q) :=
  .bind fun _ => inferInstance

theorem Indifferent.of_fails (h : ∀ c r, ∃ failure, p c r = .error failure)
    (hsame : ∀ {c c' r r'}, VaryConditions v c c' → VaryReaders v r r' → p c' r' = p c r) : Indifferent v p := by
  refine ⟨fun {c c' r r'} hc hr => ?_⟩
  obtain ⟨failure, hfailure⟩ := h c r
  rw [hsame hc hr, hfailure]
  exact .error failure

instance {fault : Fault} : Indifferent v (fail fault : Parser α) :=
  .of_fails (fails_fail fault) fun _ hr => by cases hr <;> rfl

instance : Indifferent v (unexpected : Parser α) :=
  .of_fails fails_unexpected fun _ hr => by cases hr <;> rfl

/-! ### Asking for conditions and for the reader -/

/-- What follows does not tell the runs apart. -/
class Same (a b : α) : Prop where
  eq : a = b

instance {a : α} : Same a a := ⟨rfl⟩

/-- Conditions may be asked for, but not whether `await` is an operator. -/
theorem Indifferent.read {f : Conditions → Parser α} (hf : ∀ c, Indifferent v (f c))
    (hsame : v = .await → ∀ c b, f { c with awaitOperator := b } = f c) : Indifferent v (read >>= f) := by
  refine ⟨fun {c c' r r'} hc hr => ?_⟩
  change EndAlike v (f c c r) (f c' c' r')
  have hasked : f c' = f c := by
    cases hc with
    | await c b => exact hsame rfl c b
    | script => rfl
  rw [hasked]
  exact (hf c).alike hc hr

instance {f : Conditions → Parser α} [hf : ∀ c, Indifferent v (f c)]
    [hsame : ∀ c b, Same (f { c with awaitOperator := b }) (f c)] : Indifferent v (read >>= f) :=
  .read hf fun _ c b => (hsame c b).eq

instance {f : Conditions → Parser α} [hf : ∀ c, Indifferent .script (f c)] : Indifferent .script (read >>= f) :=
  .read hf fun h => nomatch h

/-- The reader may be asked for, but not whether the text is a script. -/
theorem Indifferent.get {f : Reader → Parser α} (hf : ∀ r, Indifferent v (f r))
    (hsame : ∀ r b, f { r with scripted := b } = f r) : Indifferent v (get >>= f) := by
  refine ⟨fun {c c' r r'} hc hr => ?_⟩
  change EndAlike v (f r c r) (f r' c' r')
  have hasked : f r' = f r := by
    cases hr with
    | await => rfl
    | script _ b => exact hsame r b
  rw [hasked]
  exact (hf r).alike hc hr

instance {f : Reader → Parser α} [hf : ∀ r, Indifferent v (f r)]
    [hsame : ∀ r b, Same (f { r with scripted := b }) (f r)] : Indifferent v (get >>= f) :=
  .get hf fun r b => (hsame r b).eq

/-- A change of the reader that brings about neither `await` nor a comment, and does not mind whether the text is a
script. -/
theorem Indifferent.modify {change : Reader → Reader} (hawait : ∀ r, r.AwaitFree → (change r).AwaitFree)
    (hcomment : ∀ r, r.CommentFree → (change r).CommentFree)
    (hscript : ∀ r b, r.CommentFree → change { r with scripted := b } = { change r with scripted := b }) :
    Indifferent v (modify change : Parser Unit) := by
  refine ⟨fun {c c' r r'} _ hr => ?_⟩
  change EndAlike v (.ok ((), change r)) (.ok ((), change r'))
  cases hr with
  | await hr => exact .ok () (.await (hawait r hr))
  | script hr b =>
    rw [hscript r b hr]
    exact .ok () (.script (hcomment r hr) b)

/-! ### Trying and looking ahead -/

theorem Indifferent.attempt (hp : Indifferent v p) : Indifferent v (attempt p) := by
  refine ⟨fun {c c' r r'} hc hr => ?_⟩
  have hrun := hp.alike hc hr
  rw [Grammar.attempt, Grammar.attempt]
  generalize p c r = first at hrun
  generalize p c' r' = first' at hrun
  cases hrun with
  | error failure => exact .ok none hr
  | ok a hmid => exact .ok (some a) hmid

instance [hp : Indifferent v p] : Indifferent v (attempt p) := .attempt hp

theorem Indifferent.orStay {p : Parser (Option α)} (hp : Indifferent v p) : Indifferent v (orStay p) := by
  refine ⟨fun {c c' r r'} hc hr => ?_⟩
  have hrun := hp.alike hc hr
  rw [Grammar.orStay, Grammar.orStay]
  generalize p c r = first at hrun
  generalize p c' r' = first' at hrun
  cases hrun with
  | error failure => exact .error failure
  | ok found hmid =>
    cases found with
    | none => exact .ok none hr
    | some a => exact .ok (some a) hmid

instance [hp : Indifferent v p] : Indifferent v (ahead p) := by
  refine ⟨fun {c c' r r'} hc hr => ?_⟩
  have hrun := hp.alike hc hr
  rw [ahead, ahead]
  generalize p c r = first at hrun
  generalize p c' r' = first' at hrun
  cases hrun with
  | error failure => exact .ok none hr
  | ok a hmid => exact .ok (some a) hr

/-! ### Conditions -/

/-- Conditions that differ only in whether `await` is an operator still do so after the change. -/
class Parallel (change : Conditions → Conditions) : Prop where
  exists_eq : ∀ c b, ∃ b', change { c with awaitOperator := b } = { change c with awaitOperator := b' }

theorem VaryConditions.change {c c' : Conditions} (h : VaryConditions v c c') (change : Conditions → Conditions)
    [hchange : Parallel change] : VaryConditions v (change c) (change c') := by
  cases h with
  | await c b =>
    obtain ⟨b', hb⟩ := hchange.exists_eq c b
    rw [hb]
    exact .await _ b'
  | script c => exact .script _

instance {change : Conditions → Conditions} [Parallel change] [hp : Indifferent v p] :
    Indifferent v (under change p) :=
  ⟨fun hc hr => hp.alike (hc.change change) hr⟩

instance {on : Bool} : Parallel fun c => { c with inOperator := on } := ⟨fun _ b => ⟨b, rfl⟩⟩

instance {result : Bool} : Parallel fun c => { c with inOperator := true, arrowResult := result } :=
  ⟨fun _ b => ⟨b, rfl⟩⟩

instance : Parallel fun c => { c with inOperator := true, arrowResult := true, decorating := false } :=
  ⟨fun _ b => ⟨b, rfl⟩⟩

instance {on : Bool} : Parallel fun c => { c with conditionalTypes := on } := ⟨fun _ b => ⟨b, rfl⟩⟩

instance [Indifferent v p] : Indifferent v (allowingIn p) := by unfold allowingIn; infer_instance

instance [Indifferent v p] : Indifferent v (inBrackets p) := by unfold inBrackets; infer_instance

instance [Indifferent v p] : Indifferent v (allowingConditions p) := by unfold allowingConditions; infer_instance

/-! ### Loops -/

theorem indifferent_iterate {step : σ → Parser (σ ⊕ α)} (h : ∀ s, Indifferent v (step s)) (fuel : Nat) (s : σ) :
    Indifferent v (iterate step fuel s) := by
  induction fuel generalizing s with
  | zero => exact inferInstanceAs (Indifferent v unexpected)
  | succ fuel ih =>
    rw [iterate]
    refine .bind fun result => ?_
    cases result with
    | inl next => exact ih next
    | inr a => exact inferInstanceAs (Indifferent v (pure a))

theorem Indifferent.loop {step : σ → Parser (σ ⊕ α)} (h : ∀ s, Indifferent v (step s)) {s : σ} :
    Indifferent v (loop step s) :=
  .read (fun _ => indifferent_iterate h _ s) fun _ _ _ => rfl

instance {step : σ → Parser (σ ⊕ α)} [h : ∀ s, Indifferent v (step s)] {s : σ} : Indifferent v (loop step s) := .loop h

instance {f : σ → Parser Unit} [hf : ∀ s, Indifferent v (f s)] {items : List σ} : Indifferent v (items.forM f) := by
  induction items with
  | nil => exact inferInstanceAs (Indifferent v (pure ()))
  | cons s items ih => exact inferInstanceAs (Indifferent v (f s >>= fun _ => items.forM f))

instance {f : β → σ → Parser β} [hf : ∀ b s, Indifferent v (f b s)] {items : List σ} {b : β} :
    Indifferent v (items.foldlM f b) := by
  induction items generalizing b with
  | nil => exact inferInstanceAs (Indifferent v (pure b))
  | cons s items ih =>
    rw [List.foldlM_cons]
    infer_instance

/-! ### Tokens -/

instance {fault : Fault} : Indifferent v (note fault) :=
  .modify (fun _ hr => ⟨hr.token, hr.here, hr.rest⟩) (fun _ hr => ⟨hr.here, hr.rest⟩) fun _ _ _ => rfl

instance {wrong : Bool} {fault : Fault} : Indifferent v (noteIf wrong fault) := by unfold noteIf; infer_instance

instance : Indifferent v pass :=
  .modify (fun _ hr => .advance hr.rest) (fun _ hr => hr.advanceBy _) fun _ b hr => hr.advanceBy_scripted _ b

instance : Indifferent v token := by unfold token; infer_instance

instance : Indifferent v kind := by unfold kind; infer_instance

instance : Indifferent v advance := by unfold advance; infer_instance

instance {text : String} : Indifferent v (atMark text) := by unfold atMark; infer_instance

instance {text : String} : Indifferent v (atWord text) := by unfold atWord; infer_instance

instance {texts : List String} : Indifferent v (atAnyWord texts) := by
  unfold atAnyWord
  refine .bind fun k => ?_
  split <;> infer_instance

instance {text : String} : Indifferent v (eatMark text) := by unfold eatMark; infer_instance

instance {text : String} : Indifferent v (eatWord text) := by unfold eatWord; infer_instance

instance {text : String} : Indifferent v (missing text : Parser α) := by unfold missing; infer_instance

instance {text : String} : Indifferent v (expectMark text) := by unfold expectMark; infer_instance

instance {text : String} : Indifferent v (expectWord text) := by unfold expectWord; infer_instance

instance : Indifferent v onNewLine := by unfold onNewLine; infer_instance

instance : Indifferent v nextToken := by
  refine ⟨fun {c c' r r'} _ hr => ?_⟩
  have hnext : r'.advance.token = r.advance.token := by
    cases hr with
    | await => rfl
    | script hr b => rw [Reader.advance, hr.advanceBy_scripted]; rfl
  change EndAlike v (.ok (r.advance.token, r)) (.ok (r'.advance.token, r'))
  rw [hnext]
  exact .ok _ hr

theorem Indifferent.rescan {scan : List Char → Scanned} (h : Spares scan) : Indifferent v (rescan scan) :=
  .modify (fun _ hr => hr.rescan h) (fun _ hr => hr.rescan scan) fun _ _ _ => rfl

instance : Indifferent v (rescan scanRegex) := .rescan spares_scanRegex

instance : Indifferent v (rescan scanTemplateRest) := .rescan spares_scanTemplateRest

instance : Indifferent v (rescan scanAngle) := .rescan spares_scanAngle

instance : Indifferent v here := by unfold here; infer_instance

instance {start : Nat} : Indifferent v (spanFrom start) := by unfold spanFrom; infer_instance

instance {start : Nat} {form : Form} {parts : List Tree} : Indifferent v (nodeFrom start form parts) := by
  unfold nodeFrom
  infer_instance

instance {start : Nat} {form : Form} : Indifferent v (leafFrom start form) := by unfold leafFrom; infer_instance

instance {commas defaults : Reader → List Nat} [hcommas : ∀ r b, Same (commas { r with scripted := b }) (commas r)]
    [hdefaults : ∀ r b, Same (defaults { r with scripted := b }) (defaults r)] :
    Indifferent v (modify fun r => { r with commaEnded := commas r, defaults := defaults r } : Parser Unit) :=
  .modify (fun _ hr => ⟨hr.token, hr.here, hr.rest⟩) (fun _ hr => ⟨hr.here, hr.rest⟩) fun r b _ => by
    rw [(hcommas r b).eq, (hdefaults r b).eq]

/-! ### Lists -/

instance {done : Parser Bool} {item : Parser α} [Indifferent v done] [Indifferent v item] :
    Indifferent v (many done item) := by
  unfold many
  infer_instance

instance {closing : String} : Indifferent v (atListEnd closing) := by unfold atListEnd; infer_instance

instance {separator closing : String} {item : Parser α} [Indifferent v item] :
    Indifferent v (separated separator closing item) := by
  unfold separated
  infer_instance

instance {closing : String} {notLast : Fault} {atRest : Parser Bool} {item : Parser α} [Indifferent v atRest]
    [Indifferent v item] : Indifferent v (separatedWithRest closing notLast atRest item) := by
  unfold separatedWithRest
  refine .bind fun atEnd => ?_
  split
  · infer_instance
  · refine .bind fun isRest => .bind fun first => .loop fun (items, afterRest) => ?_
    dsimp only
    infer_instance

instance {test : Parser Bool} {p : Parser Tree} [Indifferent v test] [Indifferent v p] :
    Indifferent v (optionally test p) := by
  unfold optionally
  infer_instance

instance : Indifferent v atBlockEnd := by unfold atBlockEnd; infer_instance

instance : Indifferent v endStatement := by unfold endStatement; infer_instance

instance : Indifferent v endMember := by unfold endMember; infer_instance

/-! ### Words -/

/-- Where runs vary in what `await` is, the current token is not that word. -/
theorem Indifferent.bindKind {f : TokenKind → Parser β}
    (hf : ∀ k, (v = .await → k.isWord "await" = false) → Indifferent v (f k)) : Indifferent v (kind >>= f) := by
  refine ⟨fun {c c' r r'} hc hr => ?_⟩
  change EndAlike v (f r.token.kind c r) (f r'.token.kind c' r')
  cases hr with
  | await hr => exact (hf r.token.kind fun _ => hr.token).alike hc (.await hr)
  | script hr b => exact (hf r.token.kind fun h => nomatch h).alike hc (.script hr b)

/-- Where `await` does not come, what is done about it does not matter. -/
theorem Indifferent.bindFalse {test : Parser Bool} {f : Bool → Parser β}
    (htest : ∀ c r, r.AwaitFree → test c r = .ok (false, r)) (hf : Indifferent .await (f false)) :
    Indifferent .await (test >>= f) := by
  refine ⟨fun {c c' r r'} hc hr => ?_⟩
  cases hr with
  | await hr =>
    rw [bind_run, bind_run, htest c r hr, htest c' r hr]
    exact hf.alike hc (.await hr)

theorem atWord_await (c : Conditions) (r : Reader) (hr : r.AwaitFree) : atWord "await" c r = .ok (false, r) := by
  change Except.ok (r.token.kind.isWord "await", r) = _
  rw [hr.token]

theorem indifferent_checkName (text : String) (h : v = .await → text ≠ "await") : Indifferent v (checkName text) := by
  refine .read (fun c => inferInstance) fun hv c b => ?_
  have htext : (text == "await") = false := by simpa using h hv
  simp only [htext, Bool.false_and]

instance : Indifferent v nameText := by
  refine .bindKind fun k hk => ?_
  split
  next text escaped =>
    have := indifferent_checkName text (by simpa [TokenKind.isWord] using hk)
    infer_instance
  · infer_instance

instance : Indifferent v bindingText := by
  refine .bindKind fun k hk => ?_
  split
  next text escaped =>
    have := indifferent_checkName text (by simpa [TokenKind.isWord] using hk)
    infer_instance
  · infer_instance

instance : Indifferent v bindingName := by unfold bindingName; infer_instance

instance : Indifferent v wordLeaf := by
  unfold wordLeaf
  refine .bind fun k => ?_
  split <;> infer_instance

instance : Indifferent v wordKey := by unfold wordKey; infer_instance

instance : Indifferent v passWord := by
  unfold passWord
  refine .bind fun k => ?_
  split <;> infer_instance

instance : Indifferent v stringLeaf := by
  unfold stringLeaf
  refine .bind fun k => ?_
  split <;> infer_instance

instance : Indifferent v stringNode := by unfold stringNode; infer_instance

end

end Grammar

end JsxLowering
