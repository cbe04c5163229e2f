import Mathlib.Data.Nat.Init
import JsxLowering.Token.Scan

/-!
# Where tokens stand

A reader moves forward only.  At every place it is sound (`Reader.Sound`): the current token does not start before the
end of the last one, does not end before it starts, takes text if it is a mark, and if it is a word, what is wrong with
it has been noted.  Every way to move on keeps that, and so does every way to read the current token again.
-/

namespace JsxLowering

/-! ### Marks and words -/

/-- Whether the token is neither a mark nor a word. -/
def TokenKind.isOther : TokenKind → Bool
  | mark _ | word _ _ => false
  | _ => true

/-- What is read from a text takes some of it if it is a mark, and says what is wrong if it is a word. -/
structure Scanned.Faithful (scanned : Scanned) (text : List Char) : Prop where
  mark : ∀ mark, scanned.kind = .mark mark → text ≠ [] ∧ 0 < scanned.length
  word : scanned.kind.isAnyWord = true → scanned.faults = [] → (readWord true 0 text).faults = []

theorem faithful_of_isOther {scanned : Scanned} {text : List Char} (h : scanned.kind.isOther = true) :
    scanned.Faithful text := by
  constructor
  · intro mark hmark
    rw [hmark] at h
    cases h
  · intro hword
    unfold TokenKind.isAnyWord at hword
    split at hword
    next hkind =>
      rw [hkind] at h
      cases h
    · cases hword

private theorem faithful_mark {mark : String} {length : Nat} {text : List Char} (htext : text ≠ [])
    (hlength : 0 < length) : (Scanned.sound (.mark mark) length).Faithful text :=
  ⟨fun _ _ => ⟨htext, hlength⟩, fun hword => nomatch hword⟩

private theorem faithful_getD {candidates : List (List Char)} (hne : ∀ m ∈ candidates, m ≠ []) {text : List Char}
    (htext : text ≠ []) {other : Scanned} (hother : other.Faithful text) :
    ((markToken? candidates text).getD other).Faithful text := by
  rw [markToken?]
  cases hfind : candidates.find? (·.isPrefixOf text) with
  | none => exact hother
  | some m => exact faithful_mark htext (List.length_pos_iff.2 (hne m (List.mem_of_find?_eq_some hfind)))

private theorem marks_ne_nil : ∀ m ∈ marks, m ≠ [] := by
  decide

private theorem angleOperators_ne_nil : ∀ m ∈ angleOperators, m ≠ [] := by
  decide

/-! ### Numbers are neither -/

/-- The number that is read is neither a mark nor a word. -/
private def NumberOther (read : NumberRead) : Prop :=
  ∀ kind length, read = .ok (kind, length) → ∀ raw, (kind raw).isOther = true

private theorem numberOther_ok {kind : String → TokenKind} {length : Nat} (h : ∀ raw, (kind raw).isOther = true) :
    NumberOther (.ok (kind, length)) := by
  rintro kind' length' ⟨⟩
  exact h

private theorem numberOther_bind {α : Type} {read : Except Fault α} {next : α → NumberRead}
    (h : ∀ a, NumberOther (next a)) : NumberOther (read >>= next) := by
  cases read with
  | error fault => rintro kind length ⟨⟩
  | ok a => exact h a

private theorem numberOther_basedNumber (base : Nat) (text : List Char) : NumberOther (basedNumber base text) := by
  refine numberOther_bind fun read => ?_
  dsimp only
  split
  · exact numberOther_ok fun _ => rfl
  · exact numberOther_ok fun _ => rfl

private theorem numberOther_decimalRest (whole : List Char) (length : Nat) (text : List Char) :
    NumberOther (decimalRest whole length text) := by
  refine numberOther_bind fun fraction => numberOther_bind fun exponent => ?_
  exact numberOther_ok fun _ => rfl

private theorem numberOther_decimalTail (whole : List Char) (length : Nat) (text : List Char) :
    NumberOther (decimalTail whole length text) := by
  unfold decimalTail
  split
  · exact numberOther_ok fun _ => rfl
  · exact numberOther_decimalRest _ _ _

private theorem numberOther_decimalNumber (text : List Char) : NumberOther (decimalNumber text) := by
  unfold decimalNumber
  split <;> exact numberOther_bind fun _ => numberOther_decimalTail _ _ _

private theorem numberOther_zeroLedNumber (text : List Char) : NumberOther (zeroLedNumber text) := by
  rw [zeroLedNumber]
  split
  · exact numberOther_ok fun _ => rfl
  · exact numberOther_decimalRest _ _ _

private theorem numberOther_readNumber (text : List Char) : NumberOther (readNumber text) := by
  unfold readNumber
  split
  · split
    · exact numberOther_basedNumber _ _
    split
    · exact numberOther_basedNumber _ _
    split
    · exact numberOther_basedNumber _ _
    split
    · exact numberOther_ok fun _ => rfl
    split
    · exact numberOther_zeroLedNumber _
    · exact numberOther_decimalNumber _
  · exact numberOther_decimalNumber _

private theorem isOther_numberToken (text : List Char) : (numberToken text).kind.isOther = true := by
  rw [numberToken]
  split
  · rfl
  next kind length hread =>
    have hkind := numberOther_readNumber text kind length hread
    split
    · split
      · rfl
      · exact hkind _
    · exact hkind _

/-! ### The scanners -/

private theorem isOther_stringToken (quote : Char) (rest : List Char) :
    (stringToken quote rest).kind.isOther = true := by
  rw [stringToken]
  split
  · dsimp only [stringOfUnits]
    split <;> rfl
  · rfl

private theorem isOther_templateToken (rest : List Char) : (templateToken rest).kind.isOther = true := by
  rw [templateToken]
  split <;> rfl

private theorem isOther_privateNameToken (rest : List Char) : (privateNameToken rest).kind.isOther = true := by
  unfold privateNameToken
  split
  · rfl
  · split <;> rfl

private theorem isOther_regexToken (rest : List Char) : (regexToken rest).kind.isOther = true := by
  rw [regexToken]
  split <;> rfl

private theorem isOther_attributeStringToken (quote : Char) (rest : List Char) :
    (attributeStringToken quote rest).kind.isOther = true := by
  rw [attributeStringToken]
  split <;> rfl

theorem faithful_scanToken (text : List Char) : (scanToken text).Faithful text := by
  cases text with
  | nil => exact faithful_of_isOther rfl
  | cons c rest =>
    have hne : c :: rest ≠ [] := List.cons_ne_nil c rest
    unfold scanToken
    dsimp only
    split
    · exact ⟨fun _ hmark => (nomatch hmark), fun _ hfaults => hfaults⟩
    · split
      · exact faithful_of_isOther (isOther_numberToken _)
      · split
        · exact faithful_of_isOther (isOther_stringToken _ _)
        · exact faithful_of_isOther (isOther_stringToken _ _)
        · exact faithful_of_isOther (isOther_templateToken _)
        · exact faithful_of_isOther (isOther_privateNameToken _)
        · split
          · exact faithful_of_isOther (isOther_numberToken _)
          · exact faithful_getD marks_ne_nil hne (faithful_mark hne Nat.one_pos)
        · split
          · exact faithful_mark hne Nat.one_pos
          · exact faithful_mark hne Nat.two_pos
        · exact faithful_of_isOther rfl
        · exact faithful_getD marks_ne_nil hne (faithful_of_isOther rfl)

theorem faithful_scanAttributeValue (text : List Char) : (scanAttributeValue text).Faithful text := by
  unfold scanAttributeValue
  split
  · exact faithful_of_isOther (isOther_attributeStringToken _ _)
  · exact faithful_of_isOther (isOther_attributeStringToken _ _)
  · exact faithful_scanToken text

theorem faithful_scanChild (text : List Char) : (scanChild text).Faithful text := by
  unfold scanChild
  split
  · exact faithful_of_isOther rfl
  · exact faithful_mark (List.cons_ne_nil _ _) Nat.one_pos
  · exact faithful_mark (List.cons_ne_nil _ _) Nat.one_pos
  · dsimp only
    split <;> exact faithful_of_isOther rfl

theorem faithful_scanAngle {text : List Char} (htext : text ≠ []) : (scanAngle text).Faithful text :=
  faithful_getD angleOperators_ne_nil htext (faithful_mark htext Nat.one_pos)

theorem faithful_scanRegex (text : List Char) : (scanRegex text).Faithful text :=
  faithful_of_isOther (isOther_regexToken _)

theorem faithful_scanTemplateRest (text : List Char) : (scanTemplateRest text).Faithful text :=
  faithful_of_isOther (isOther_templateToken _)

theorem TokenKind.eq_mark_of_isMark {kind : TokenKind} {text : String} (h : kind.isMark text = true) :
    kind = .mark text := by
  unfold isMark at h
  split at h
  · simpa using h
  · cases h

/-! ### Readers -/

namespace Reader

/-- The current token stands after the last one, takes text if it is a mark, and if it is a word, what is wrong with it
has been noted. -/
structure Sound (r : Reader) : Prop where
  after : r.lastStop ≤ r.token.start
  forward : r.token.start ≤ r.token.stop
  mark : ∀ text, r.token.kind = .mark text → r.here ≠ [] ∧ r.token.start < r.token.stop
  word : r.token.kind.isAnyWord = true → r.tokenFaults = [] → (readWord true 0 r.here).faults = []

private theorem byteWidth_take_pos {text : List Char} {length : Nat} (htext : text ≠ []) (hlength : 0 < length) :
    0 < Text.byteWidth (text.take length) := by
  obtain ⟨c, rest, rfl⟩ := List.exists_cons_of_ne_nil htext
  obtain ⟨n, rfl⟩ := Nat.exists_eq_add_one_of_ne_zero (Nat.ne_of_gt hlength)
  have hc := c.utf8Size_pos
  rw [List.take_succ_cons, Text.byteWidth]
  omega

private theorem lt_of_mark {scanned : Scanned} {text : List Char} (h : scanned.Faithful text) {mark : String}
    (hkind : scanned.kind = .mark mark) (start : Nat) :
    text ≠ [] ∧ start < start + Text.byteWidth (text.take scanned.length) := by
  obtain ⟨htext, hlength⟩ := h.mark mark hkind
  have hwidth := byteWidth_take_pos htext hlength
  exact ⟨htext, by omega⟩

private theorem faults_eq_nil {scanned : Scanned} {faults : List Fault}
    (h : scanned.faults.reverse ++ faults = []) : scanned.faults = [] :=
  List.reverse_eq_nil_iff.1 (List.append_eq_nil_iff.1 h).1

theorem sound_place {r : Reader} {t : Trivia} {start : Nat} {text : List Char} {scanned : Scanned}
    (hstart : r.token.stop ≤ start) (hscanned : scanned.Faithful text) : (r.place t start text scanned).Sound := by
  refine ⟨hstart, Nat.le_add_right _ _, ?_, ?_⟩
  · exact fun mark hkind => lt_of_mark hscanned hkind start
  · exact fun hword hfaults => hscanned.word hword (faults_eq_nil hfaults)

theorem sound_advance (r : Reader) : r.advance.Sound :=
  sound_place (Nat.le_add_right _ _) (faithful_scanToken _)

theorem sound_advanceToValue (r : Reader) : r.advanceToValue.Sound :=
  sound_place (Nat.le_add_right _ _) (faithful_scanAttributeValue _)

theorem sound_advanceToChild (r : Reader) : r.advanceToChild.Sound :=
  sound_place (Nat.le_refl _) (faithful_scanChild _)

theorem sound_start (scripted : Bool) (offset : Nat) (text : List Char) : (start scripted offset text).Sound :=
  sound_place (Nat.le_add_right _ _) (faithful_scanToken _)

theorem Sound.rescan {r : Reader} (h : r.Sound) {scan : List Char → Scanned}
    (hscanned : (scan r.here).Faithful r.here) : (r.rescan scan).Sound := by
  refine ⟨h.after, Nat.le_add_right _ _, ?_, ?_⟩
  · exact fun mark hkind => lt_of_mark hscanned hkind r.token.start
  · exact fun hword hfaults => hscanned.word hword (faults_eq_nil hfaults)

end Reader

end JsxLowering
