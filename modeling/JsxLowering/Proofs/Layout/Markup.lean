import JsxLowering.Grammar.Markup
import JsxLowering.Proofs.Layout.Type

/-!
# Markup keeps elements in order

An element ends with the mark that closes its last tag.  That mark takes text (`Reader.Sound`), so that the element ends
after everything that has been read before it (`keepsOrder_closeMarkup`), and it comes after the elements in its
attributes and children.
-/

namespace JsxLowering.Grammar

section

variable {rules : Rules} [OrderlyRules rules] {acc mid rest : List Elements}

/-! ### Tags -/

instance : Reads acc (modify Reader.advanceToChild : Parser Unit) acc :=
  ⟨.modify fun r hr => forward_place hr r.sound_advanceToChild⟩

instance : Reads acc (modify Reader.advanceToValue : Parser Unit) acc :=
  ⟨.modify fun r hr => forward_place hr r.sound_advanceToValue⟩

instance {text : String} : Reads acc (expectBeforeChild text) acc :=
  .alone (by unfold expectBeforeChild; infer_instance)

private theorem closeTag_ok {nested : Bool} {c : Conditions} {r r' : Reader} (h : closeTag nested c r = .ok ((), r')) :
    r.token.kind = .mark ">" ∧ r' = if nested then r.advanceToChild else r.advance := by
  obtain ⟨found, r₁, hat, hrun⟩ := bind_ok h
  cases hat
  cases hmark : r.token.kind.isMark ">" with
  | true =>
    rw [hmark] at hrun
    cases hrun
    refine ⟨TokenKind.eq_mark_of_isMark hmark, ?_⟩
    split <;> rfl
  | false =>
    rw [hmark] at hrun
    cases hrun

/-- Markup ends after everything that has been read before its last mark. -/
theorem keepsOrder_closeMarkup {start : Nat} {nested : Bool} (filled : Bool) :
    KeepsOrder (fun span => [(span, filled)]) acc (closeMarkup start nested) acc := by
  refine ⟨fun {c r span r'} hrun hr => ?_⟩
  obtain ⟨_, r₁, hclose, hspan⟩ := bind_ok hrun
  cases hspan
  obtain ⟨hkind, hnext⟩ := closeTag_ok hclose
  obtain ⟨-, hwide⟩ := hr.mark _ hkind
  have hafter := hr.after
  have hstop : r'.lastStop = r.token.stop := by rw [hnext]; split <;> rfl
  have hforward : Forward r r' := by
    rw [hnext]
    split
    · exact forward_place hr r.sound_advanceToChild
    · exact forward_place hr r.sound_advance
  refine ⟨hforward, fun _ before hbefore => ?_⟩
  have hlt : r.lastStop < (Span.mk start r'.lastStop).stop := by
    show r.lastStop < r'.lastStop
    omega
  rw [← List.append_assoc]
  exact hbefore.concat hlt filled

/-- A name in a tag is read again as it is written, but what is wrong with it has been noted before. -/
theorem reads_passName (scan : List Char → Scanned) (raw : String) : Reads acc (do
    rescan scan
    let start ← here
    pass
    return (← spanFrom start, raw)) acc := by
  refine .alone ⟨⟨?_⟩⟩
  rintro c r a r' ⟨⟩ hr
  have hstop : r.lastStop ≤ (r.rescan scan).advance.lastStop := Nat.le_trans hr.after (Nat.le_add_right _ _)
  refine ⟨⟨Reader.sound_advance _, hstop, id, fun hfaults => ?_⟩, fun _ before hbefore => ?_⟩
  · exact (List.append_eq_nil_iff.1 (List.append_eq_nil_iff.1 hfaults).2).2
  · simpa [elements] using hbefore.mono hstop

instance : Reads acc tagWord acc := .alone (by
  have hpassed := @reads_passName
  unfold tagWord
  infer_instance)

instance {start : Nat} {object : DottedName} : Reads acc (dottedName start object) acc :=
  .alone (by unfold dottedName; infer_instance)

instance : Reads acc elementName acc := .alone (by unfold elementName; infer_instance)

instance : Reads acc attributeName acc := .alone (by unfold attributeName; infer_instance)

/-! ### Attributes and children -/

instance {content : Tree} [h : Takes (elements content) acc rest] :
    Takes (elements (AttributeValue.expression content)) acc rest := h

instance {m : Markup} [h : Takes (elements m) acc rest] : Takes (elements (AttributeValue.markup m)) acc rest := h

instance {span : Span} {raw : String} : Takes (elements (AttributeValue.text span raw)) acc acc := .none rfl

instance : Takes (elements AttributeValue.empty) acc acc := .none rfl

instance : Takes (elements AttributeValue.missing) acc acc := .none rfl

instance : Reads acc (attributeValue rules) acc := .alone (by
  unfold attributeValue
  refine .bind fun t => ?_
  split <;> infer_instance)

instance {span : Span} {name : AttributeName} {value : AttributeValue} [h : Takes (elements value) acc rest] :
    Takes (elements (Attribute.named span name value)) acc rest := h

instance {span : Span} {argument : Tree} [h : Takes (elements argument) acc rest] :
    Takes (elements (Attribute.spread span argument)) acc rest := h

instance : Reads acc (parseAttribute rules) acc := .alone (by unfold parseAttribute; infer_instance)

instance : Reads acc (parseAttributes rules) acc := .alone (by unfold parseAttributes; infer_instance)

instance {content : Tree} [h : Takes (elements content) acc rest] :
    Takes (elements (Child.expression content)) acc rest := h

instance {span : Span} {argument : Tree} [h : Takes (elements argument) acc rest] :
    Takes (elements (Child.spread span argument)) acc rest := h

instance {m : Markup} [h : Takes (elements m) acc rest] : Takes (elements (Child.markup m)) acc rest := h

instance {span : Span} {raw : String} : Takes (elements (Child.text span raw)) acc acc := .none rfl

instance : Takes (elements Child.empty) acc acc := .none rfl

instance : Reads acc (parseChild rules) acc := .alone (by
  unfold parseChild
  refine .bind fun t => ?_
  split <;> infer_instance)

instance : Reads acc atClosingTag acc := .alone (by unfold atClosingTag; infer_instance)

instance : Reads acc (parseChildren rules) acc := .alone (by unfold parseChildren; infer_instance)

/-! ### Elements and fragments -/

private theorem attributesElements_eq (attributes : List Attribute) :
    attributesElements attributes = elements attributes := by
  induction attributes with
  | nil => rfl
  | cons head rest ih => rw [attributesElements, elements_cons, ih]; rfl

private theorem childrenElements_eq (children : List Child) : childrenElements children = elements children := by
  induction children with
  | nil => rfl
  | cons child rest ih => rw [childrenElements, elements_cons, ih]; rfl

private theorem elements_element (span : Span) (name : ElementName) (attributes : List Attribute)
    (children : List Child) : elements (Markup.element span name attributes children) =
      elements attributes ++ elements children ++ [(span, children.any Child.remains)] := by
  rw [← attributesElements_eq, ← childrenElements_eq]
  rfl

private theorem elements_fragment (span : Span) (children : List Child) :
    elements (Markup.fragment span children) = elements children :=
  childrenElements_eq children

instance {start : Nat} {nested : Bool} : Reads acc (parseFragment rules start nested) acc := .alone (by
  unfold parseFragment
  refine .bind fun _ => .bind fun children => ?_
  exact ⟨(keepsOrder_closeMarkup false).bind fun span => .pure (by simp [elements_fragment])⟩)

instance : Reads acc (skipTypeArguments rules) acc := .alone (by unfold skipTypeArguments; infer_instance)

instance {start : Nat} {nested : Bool} : Reads acc (parseElement rules start nested) acc := .alone (by
  unfold parseElement
  refine .bind fun r => .bind fun name => .bind fun _ => .bind fun attributes => .bind fun selfClosing => ?_
  split
  · exact ⟨(keepsOrder_closeMarkup false).bind fun span => .pure (by simp [elements_element])⟩
  · refine .bind fun _ => .bind fun children => .bind fun closing => ?_
    exact ⟨(keepsOrder_closeMarkup (children.any Child.remains)).bind fun span =>
      Reads.keeps.bind fun _ => .pure (by simp [elements_element])⟩)

instance {nested : Bool} : Reads acc (parseMarkup rules nested) acc := .alone (by unfold parseMarkup; infer_instance)

end

end JsxLowering.Grammar
