import JsxLowering.Proofs.Layout.Order

/-!
# The basic parsers keep elements in order

Tokens, spans and nodes, loops and lists, names.
-/

namespace JsxLowering.Grammar

section

variable {α β σ : Type} [HasElements α] [HasElements β] {acc mid rest : List Elements}

/-! ### Failing and looking -/

instance {fault : Fault} : Reads acc (fail fault : Parser α) acc := ⟨.of_fails (fails_fail fault)⟩

instance : Reads acc (unexpected : Parser α) acc := ⟨.of_fails fails_unexpected⟩

instance : Reads acc (get : Parser Reader) acc := by
  refine ⟨⟨?_⟩⟩
  rintro c r a r' ⟨⟩ hr
  exact ⟨.refl hr, fun _ before hbefore => by simpa [elements] using hbefore⟩

instance : Reads acc (read : Parser Conditions) acc := by
  refine ⟨⟨?_⟩⟩
  rintro c r a r' ⟨⟩ hr
  exact ⟨.refl hr, fun _ before hbefore => by simpa [elements] using hbefore⟩

instance {fault : Fault} : Reads acc (note fault) acc :=
  ⟨.modify fun _ hr => ⟨⟨hr.after, hr.forward, hr.mark, hr.word⟩, Nat.le_refl _, fun hfaults => by simp at hfaults, id⟩⟩

omit [HasElements α] in
/-- Once a fault is noted nothing more has to be in order. -/
theorem KeepsOrder.after_note {fault : Fault} {p : Parser α} {hold hold' : α → Elements} {taken : List Elements}
    (h : KeepsOrder hold' taken p mid) : KeepsOrder hold acc (note fault >>= fun _ => p) rest := by
  refine ⟨fun {c r a r'} hrun hr => ?_⟩
  obtain ⟨_, noted, hnote, hrun⟩ := bind_ok hrun
  have hnoted := ((inferInstance : Reads [] (note fault) []).keeps.run hnote hr).1
  have hforward := (h.run hrun hnoted.sound).1
  refine ⟨hnoted.trans hforward, fun hfaults => ?_⟩
  cases hnote
  simpa using hforward.faults hfaults

instance {wrong : Bool} {fault : Fault} : Reads acc (noteIf wrong fault) acc := .alone (by
  unfold noteIf
  infer_instance)

instance {p : Parser α} [h : Orderly [] p] : Reads acc (attempt p) acc := by
  refine .alone ⟨⟨fun {c r a r'} hrun hr => ?_⟩⟩
  rw [attempt] at hrun
  cases hp : p c r with
  | error failure =>
    rw [hp] at hrun
    cases hrun
    exact ⟨.refl hr, fun _ before hbefore => hbefore⟩
  | ok result =>
    rw [hp] at hrun
    cases hrun
    simpa [elements] using h.keeps.run hp hr

theorem Reads.orStay {p : Parser (Option α)} (h : Orderly [] p) : Reads acc (orStay p) acc := by
  refine .alone ⟨⟨fun {c r a r'} hrun hr => ?_⟩⟩
  rw [Grammar.orStay] at hrun
  split at hrun
  next heq =>
    cases hrun
    exact h.keeps.run heq hr
  · cases hrun
    exact ⟨.refl hr, fun _ before hbefore => hbefore⟩
  · cases hrun

/-- Looking ahead moves nothing. -/
instance {γ : Type} {p : Parser γ} : Reads acc (ahead p) acc := by
  refine .alone ⟨⟨fun {c r a r'} hrun hr => ?_⟩⟩
  have hquiet : elements a = [] := by cases a <;> rfl
  rw [ahead] at hrun
  have hstill : r' = r := by
    cases hp : p c r with
    | error failure =>
      rw [hp] at hrun
      cases hrun
      rfl
    | ok result =>
      rw [hp] at hrun
      cases hrun
      rfl
  rw [hstill, hquiet]
  exact ⟨.refl hr, fun _ before hbefore => hbefore⟩

instance {change : Conditions → Conditions} {p : Parser α} [h : Reads acc p rest] : Reads acc (under change p) rest :=
  ⟨h.keeps.under change⟩

instance {change : Conditions → Conditions} {p : Parser α} [h : Orderly acc p] : Orderly acc (under change p) :=
  ⟨h.keeps.under change⟩

instance {p : Parser α} [h : Reads acc p rest] : Reads acc (allowingIn p) rest := ⟨h.keeps.under _⟩

instance {p : Parser α} [h : Reads acc p rest] : Reads acc (inBrackets p) rest := ⟨h.keeps.under _⟩

instance {p : Parser α} [h : Reads acc p rest] : Reads acc (allowingConditions p) rest := ⟨h.keeps.under _⟩

/-- What is kept in mind about commas and defaults matters for later faults only. -/
instance {commas defaults : Reader → List Nat} :
    Reads acc (modify fun r => { r with commaEnded := commas r, defaults := defaults r } : Parser Unit) acc :=
  ⟨.modify fun _ hr => ⟨⟨hr.after, hr.forward, hr.mark, hr.word⟩, Nat.le_refl _, id, id⟩⟩

/-! ### Tokens -/

/-- Every way to move on moves forward. -/
theorem forward_place {r : Reader} {t : Trivia} {start : Nat} {text : List Char} {scanned : Scanned} (hr : r.Sound)
    (hsound : (r.place t start text scanned).Sound) : Forward r (r.place t start text scanned) := by
  refine ⟨hsound, ?_, id, fun hfaults => (List.append_eq_nil_iff.1 hfaults).2⟩
  exact Nat.le_trans hr.after hr.forward

instance : Reads acc pass acc := ⟨.modify fun r hr => forward_place hr r.sound_advance⟩

instance : Reads acc token acc := .alone (by unfold token; infer_instance)

instance : Reads acc kind acc := .alone (by unfold kind; infer_instance)

instance : Reads acc advance acc := .alone (by unfold advance; infer_instance)

instance {text : String} : Reads acc (atMark text) acc := .alone (by unfold atMark; infer_instance)

instance {text : String} : Reads acc (atWord text) acc := .alone (by unfold atWord; infer_instance)

instance {texts : List String} : Reads acc (atAnyWord texts) acc := .alone (by
  unfold atAnyWord
  refine .bind fun k => ?_
  split <;> infer_instance)

instance {text : String} : Reads acc (eatMark text) acc := .alone (by unfold eatMark; infer_instance)

instance {text : String} : Reads acc (eatWord text) acc := .alone (by unfold eatWord; infer_instance)

instance {text : String} : Reads acc (missing text : Parser α) acc := .alone (by unfold missing; infer_instance)

instance {text : String} : Reads acc (expectMark text) acc := .alone (by unfold expectMark; infer_instance)

instance {text : String} : Reads acc (expectWord text) acc := .alone (by unfold expectWord; infer_instance)

instance : Reads acc onNewLine acc := .alone (by unfold onNewLine; infer_instance)

instance : Reads acc nextToken acc := .alone (by unfold nextToken; infer_instance)

theorem forward_rescan {r : Reader} (hr : r.Sound) {scan : List Char → Scanned} (h : (scan r.here).Faithful r.here) :
    Forward r (r.rescan scan) :=
  ⟨hr.rescan h, Nat.le_refl _, id, fun hfaults => (List.append_eq_nil_iff.1 hfaults).2⟩

theorem Reads.rescan {scan : List Char → Scanned} (h : ∀ text, (scan text).Faithful text) :
    Reads acc (rescan scan) acc :=
  ⟨.modify fun r hr => forward_rescan hr (h r.here)⟩

instance : Reads acc (rescan scanRegex) acc := .rescan faithful_scanRegex

instance : Reads acc (rescan scanTemplateRest) acc := .rescan faithful_scanTemplateRest

/-! ### Nodes -/

instance : Reads acc here acc := .alone (by unfold here; infer_instance)

instance {start : Nat} : Reads acc (spanFrom start) acc := .alone (by unfold spanFrom; infer_instance)

instance {start : Nat} {form : Form} {parts : List Tree} [Takes (elements parts) acc rest] :
    Reads acc (nodeFrom start form parts) rest :=
  .after parts (by unfold nodeFrom; infer_instance)

instance {leaf : Leaf} : Takes (elements leaf.tree) acc acc := .none (elements_node _ _ _)

instance {start : Nat} {form : Form} : Reads acc (leafFrom start form) acc :=
  .alone (by unfold leafFrom; infer_instance)

instance {test : Parser Bool} {p : Parser Tree} [htest : Orderly [] test] [hp : Orderly [] p] :
    Reads acc (optionally test p) acc := by
  have htest (acc : List Elements) : Reads acc test acc := .alone htest
  have hp (acc : List Elements) : Reads acc p acc := .alone hp
  exact .alone (by unfold optionally; infer_instance)

/-! ### Loops -/

/-- A loop keeps elements in order if every round does, where `state` says what its state holds. -/
theorem Orderly.loop (state : σ → Elements) {step : σ → Parser (σ ⊕ α)} {s : σ} [hs : Takes (state s) acc rest]
    (h : ∀ s, KeepsOrder (Sum.elim state elements) [state s] (step s) []) : Orderly acc (loop step s) :=
  ⟨(KeepsOrder.loop h s).within (by simpa using (List.sublist_append_right _ _).trans hs.sublist)⟩

instance {step : σ → Parser (σ ⊕ α)} [HasElements σ] {s : σ} [Takes (elements s) acc rest]
    [h : ∀ s, Orderly [elements s] (step s)] : Reads acc (loop step s) rest :=
  .after s (.loop elements fun s => (h s).keeps)

/-- Lists that are being read are kept the other way round, the latest item first. -/
def reversed (items : List α) : Elements := elements items.reverse

@[simp] theorem reversed_nil : reversed ([] : List α) = [] := rfl

@[simp] theorem reversed_cons (a : α) (items : List α) : reversed (a :: items) = reversed items ++ elements a := by
  simp [reversed, elements]

@[simp] theorem elements_reverse (items : List α) : elements items.reverse = reversed items := rfl

instance : Takes (reversed ([] : List α)) acc acc := .none rfl

instance {a : α} {items : List α} [ha : Takes (elements a) acc mid] [hitems : Takes (reversed items) mid rest] :
    Takes (reversed (a :: items)) acc rest := by
  rw [reversed_cons]
  exact ha.append hitems

instance {items : List α} [h : Takes (reversed items) acc rest] : Takes (elements items.reverse) acc rest := h

instance {f : σ → Parser Unit} [hf : ∀ s, Orderly [] (f s)] {items : List σ} : Reads acc (items.forM f) acc := by
  refine .alone ?_
  induction items with
  | nil => exact inferInstanceAs (Orderly _ (pure ()))
  | cons s items ih =>
    have hfirst : Reads [] (f s) [] := .alone (hf s)
    have hrest (acc : List Elements) : Reads acc (items.forM f) acc := .alone ih
    exact inferInstanceAs (Orderly [] (f s >>= fun _ => items.forM f))

instance {f : β → σ → Parser β} [hf : ∀ b s, Orderly [elements b] (f b s)] {items : List σ} {b : β}
    [Takes (elements b) acc rest] : Reads acc (items.foldlM f b) rest := by
  have hfold : ∀ b, Orderly [elements b] (items.foldlM f b) := by
    induction items with
    | nil => exact fun b => inferInstanceAs (Orderly _ (pure b))
    | cons s items ih =>
      intro b
      have hround : Reads [elements b] (f b s) [] := ⟨(hf b s).keeps⟩
      rw [List.foldlM_cons]
      exact .bind ih
  exact .after b (hfold b)

instance {done : Parser Bool} {item : Parser α} [hdone : Orderly [] done] [hitem : Orderly [] item] :
    Reads acc (many done item) acc := by
  refine .alone (.loop reversed fun items => (Reads.alone hdone).keeps.bind fun finished => ?_)
  cases finished with
  | true => exact .pure (by simp)
  | false => exact (Reads.alone hitem).keeps.bind fun a => .pure (by simp)

instance {closing : String} : Reads acc (atListEnd closing) acc := .alone (by unfold atListEnd; infer_instance)

instance {separator closing : String} {item : Parser α} [hitem : Orderly [] item] :
    Reads acc (separated separator closing item) acc := by
  have hitem (acc : List Elements) : Reads acc item acc := .alone hitem
  refine .alone (.bind fun none => ?_)
  cases none with
  | true => exact inferInstanceAs (Orderly _ (pure ([], false)))
  | false =>
    refine Orderly.bind fun first => .loop reversed fun items => Reads.keeps.bind fun atEnd => ?_
    cases atEnd with
    | true => exact .pure (by simp)
    | false =>
      refine Reads.keeps.bind fun eaten => ?_
      cases eaten with
      | true =>
        refine Reads.keeps.bind fun closed => ?_
        cases closed with
        | true => exact .pure (by simp)
        | false => exact (hitem _).keeps.bind fun a => .pure (by simp)
      | false => exact Reads.keeps.bind fun k => .of_fails (fails_fail _)

instance {closing : String} {notLast : Fault} {atRest : Parser Bool} {item : Parser α} [hrest : Orderly [] atRest]
    [hitem : Orderly [] item] : Reads acc (separatedWithRest closing notLast atRest item) acc := by
  have hrest (acc : List Elements) : Reads acc atRest acc := .alone hrest
  have hitem (acc : List Elements) : Reads acc item acc := .alone hitem
  refine .alone (.bind fun none => ?_)
  cases none with
  | true => exact inferInstanceAs (Orderly _ (pure []))
  | false =>
    refine Orderly.bind fun isRest => Orderly.bind fun first => .loop (fun s => reversed s.1) fun s => ?_
    obtain ⟨items, afterRest⟩ := s
    refine Reads.keeps.bind fun atEnd => ?_
    cases atEnd with
    | true => exact .pure (by simp)
    | false =>
      refine Reads.keeps.bind fun eaten => ?_
      cases eaten with
      | true =>
        refine Reads.keeps.bind fun closed => ?_
        cases closed with
        | true => exact Reads.keeps.bind fun c => Reads.keeps.bind fun _ => .pure (by simp)
        | false =>
          exact Reads.keeps.bind fun _ => (hrest _).keeps.bind fun isRest => (hitem _).keeps.bind fun a =>
            .pure (by simp)
      | false => exact Reads.keeps.bind fun k => .of_fails (fails_fail _)

end

/-! ### Statement ends and names -/

section

variable {acc : List Elements}

instance : Reads acc atBlockEnd acc := .alone (by unfold atBlockEnd; infer_instance)

instance : Reads acc endStatement acc := .alone (by unfold endStatement; infer_instance)

instance : Reads acc endMember acc := .alone (by unfold endMember; infer_instance)

instance {text : String} : Reads acc (checkName text) acc := .alone (by unfold checkName; infer_instance)

instance : Reads acc nameText acc := .alone (by
  unfold nameText
  refine .bind fun k => ?_
  split <;> infer_instance)

instance : Reads acc bindingText acc := .alone (by
  unfold bindingText
  refine .bind fun k => ?_
  split <;> infer_instance)

instance : Reads acc bindingName acc := .alone (by unfold bindingName; infer_instance)

instance : Reads acc wordLeaf acc := .alone (by
  unfold wordLeaf
  refine .bind fun k => ?_
  split <;> infer_instance)

instance : Reads acc wordKey acc := .alone (by unfold wordKey; infer_instance)

instance : Reads acc passWord acc := .alone (by
  unfold passWord
  refine .bind fun k => ?_
  split <;> infer_instance)

instance : Reads acc stringLeaf acc := .alone (by
  unfold stringLeaf
  refine .bind fun k => ?_
  split <;> infer_instance)

instance : Reads acc stringNode acc := .alone (by unfold stringNode; infer_instance)

end

end JsxLowering.Grammar
