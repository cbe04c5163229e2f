import JsxLowering.Config.Reader
import JsxLowering.Proofs.Json

/-!
# What readers accept

A reader is described by the texts that it accepts: `Accepts p R` says that `p` reads a value from a text, and leaves a
rest of it, exactly if `R` relates the three.  The descriptions of the steps compose along `bind`, and a reader that
always fails takes no part in what is accepted.

The readers of strings, truth values and null are described by the grammar of JSON.
-/

namespace JsxLowering.Config

open Json (Skips Solid Hex Character Characters Value)

/-! ### What readers accept -/

section

variable {α β : Type} {p : Reading α} {f : α → Reading β} {R S : List Char → α → List Char → Prop}
  {T : α → List Char → β → List Char → Prop}

/-- The reader takes a text to a value and a rest exactly if they are related. -/
def Accepts (p : Reading α) (R : List Char → α → List Char → Prop) : Prop :=
  ∀ text offset a rest, (∃ stop, p ⟨text, offset⟩ = .ok (a, ⟨rest, stop⟩)) ↔ R text a rest

/-- The reader always fails. -/
def Refuses (p : Reading α) : Prop := ∀ cursor, ∃ error, p cursor = .error error

theorem Accepts.congr (h : Accepts p R) (hiff : ∀ text a rest, R text a rest ↔ S text a rest) : Accepts p S :=
  fun text offset a rest => (h text offset a rest).trans (hiff text a rest)

theorem Refuses.accepts (h : Refuses p) : Accepts p fun _ _ _ => False := by
  intro text offset a rest
  obtain ⟨error, herror⟩ := h ⟨text, offset⟩
  simp [herror]

/-- A reader does nothing more than the reader it starts with, and then the reader that it chooses. -/
theorem bind_eq_ok_iff {cursor : Cursor} {b : β} {stop : Cursor} :
    (p >>= f) cursor = .ok (b, stop) ↔ ∃ a mid, p cursor = .ok (a, mid) ∧ f a mid = .ok (b, stop) := by
  change (p cursor >>= fun result => f result.1 result.2) = _ ↔ _
  cases h : p cursor with
  | error error => simp [bind, Except.bind]
  | ok result =>
    obtain ⟨a, mid⟩ := result
    simp [bind, Except.bind]

theorem accepts_pure (a : α) : Accepts (pure a) fun text b rest => b = a ∧ rest = text := by
  intro text offset b rest
  change (∃ stop, Except.ok (a, (⟨text, offset⟩ : Cursor)) = .ok (b, ⟨rest, stop⟩)) ↔ _
  simp only [Except.ok.injEq, Prod.mk.injEq, Cursor.mk.injEq]
  grind

theorem Accepts.bind (hp : Accepts p R) (hf : ∀ a, Accepts (f a) (T a)) :
    Accepts (p >>= f) fun text b rest => ∃ a mid, R text a mid ∧ T a mid b rest := by
  intro text offset b rest
  simp only [bind_eq_ok_iff]
  constructor
  · rintro ⟨stop, a, ⟨mid, place⟩, h, hnext⟩
    exact ⟨a, mid, (hp _ _ _ _).1 ⟨place, h⟩, (hf a _ _ _ _).1 ⟨stop, hnext⟩⟩
  · rintro ⟨a, mid, h, hnext⟩
    obtain ⟨place, h⟩ := (hp text offset a mid).2 h
    obtain ⟨stop, hnext⟩ := (hf a mid place b rest).2 hnext
    exact ⟨stop, a, ⟨mid, place⟩, h, hnext⟩

theorem refuses_refuse (cause : Cause) : Refuses (refuse cause : Reading α) := fun _ => ⟨_, rfl⟩

theorem refuses_refuseNext (cause : Cause) : Refuses (refuseNext cause : Reading α) := fun _ => ⟨_, rfl⟩

theorem Refuses.bind (hf : ∀ a, Refuses (f a)) : Refuses (p >>= f) := by
  intro cursor
  cases h : (p >>= f) cursor with
  | error error => exact ⟨error, rfl⟩
  | ok result =>
    obtain ⟨a, mid, -, hmid⟩ := bind_eq_ok_iff.1 h
    obtain ⟨error, herror⟩ := hf a mid
    cases hmid.symm.trans herror

end

theorem accepts_peek : Accepts peek fun text c rest => c = text.head? ∧ rest = text := by
  intro text offset c rest
  change (∃ stop, Except.ok (text.head?, (⟨text, offset⟩ : Cursor)) = .ok (c, ⟨rest, stop⟩)) ↔ _
  simp only [Except.ok.injEq, Prod.mk.injEq, Cursor.mk.injEq]
  grind

theorem accepts_pass : Accepts pass fun text _ rest => rest = text.tail := by
  intro text offset c rest
  change (∃ stop, Except.ok ((), (⟨text, offset⟩ : Cursor).skip 1) = .ok ((), ⟨rest, stop⟩)) ↔ _
  simp only [Cursor.skip, List.drop_one, Except.ok.injEq, Prod.mk.injEq, Cursor.mk.injEq]
  grind

theorem isLayout_iff {c : Char} : isLayout c = true ↔ c ∈ Json.blanks := by
  simp only [isLayout, Json.blanks, Bool.or_eq_true, beq_iff_eq, List.mem_cons, List.not_mem_nil, or_false]
  tauto

/-- White space is skipped as far as it goes. -/
theorem drop_takeWhile_isLayout {text rest : List Char} :
    rest = text.drop (text.takeWhile isLayout).length ↔ Skips text rest ∧ Solid rest := by
  have hskips : ∀ text, Skips text (text.drop (text.takeWhile isLayout).length) ∧
      Solid (text.drop (text.takeWhile isLayout).length) := by
    intro text
    induction text with
    | nil => exact ⟨.none, Json.solid_nil⟩
    | cons c text ih =>
      by_cases hc : isLayout c = true
      · simpa [hc] using ⟨.blank (isLayout_iff.1 hc) ih.1, ih.2⟩
      · simpa [hc] using ⟨.none, Json.solid_cons.2 (mt isLayout_iff.2 hc)⟩
  constructor
  · rintro rfl
    exact hskips text
  · rintro ⟨h, hsolid⟩
    exact h.unique (hskips text).1 hsolid (hskips text).2

theorem accepts_peekToken :
    Accepts peekToken fun text c rest => Skips text rest ∧ Solid rest ∧ c = rest.head? := by
  intro text offset c rest
  change _ ↔ Skips text rest ∧ Solid rest ∧ c = rest.head?
  rw [← and_assoc, ← drop_takeWhile_isLayout]
  change (∃ stop, Except.ok ((text.drop (text.takeWhile isLayout).length).head?,
    (⟨text, offset⟩ : Cursor).skip (text.takeWhile isLayout).length) = .ok (c, ⟨rest, stop⟩)) ↔ _
  simp only [Cursor.skip, Except.ok.injEq, Prod.mk.injEq, Cursor.mk.injEq]
  grind

/-- A reader that decides by the next character, after white space. -/
theorem accepts_token {α : Type} {f : Option Char → Reading α} {T : Char → List Char → α → List Char → Prop}
    (hnone : Refuses (f none)) (hsome : ∀ c, Accepts (f (some c)) (T c)) :
    Accepts (peekToken >>= f) fun text a rest =>
      ∃ c more, c ∉ Json.blanks ∧ Skips text (c :: more) ∧ T c (c :: more) a rest := by
  refine (accepts_peekToken.bind (T := fun c text a rest => ∃ d, c = some d ∧ T d text a rest) fun c => ?_).congr ?_
  · cases c with
    | none => exact hnone.accepts.congr (by simp)
    | some c => exact (hsome c).congr (by simp)
  · intro text a rest
    constructor
    · rintro ⟨_, start, ⟨hskip, hsolid, rfl⟩, c, hc, h⟩
      obtain ⟨more, rfl⟩ := List.head?_eq_some_iff.1 hc
      exact ⟨c, more, Json.solid_cons.1 hsolid, hskip, h⟩
    · rintro ⟨c, more, hc, hskip, h⟩
      exact ⟨_, c :: more, ⟨hskip, Json.solid_cons.2 hc, rfl⟩, c, rfl, h⟩

theorem accepts_passWord (word : List Char) : Accepts (passWord word) fun text _ rest => text = word ++ rest := by
  induction word with
  | nil => exact (accepts_pure ()).congr (by simp [eq_comm])
  | cons expected word ih =>
    unfold passWord
    refine (accepts_peek.bind (T := fun c text _ rest => c = some expected ∧ text.tail = word ++ rest)
      fun c => ?_).congr ?_
    · cases c with
      | none => exact (refuses_refuse _).accepts.congr (by simp)
      | some c =>
        by_cases hc : c = expected
        · simp only [hc, ↓reduceIte]
          exact (accepts_pass.bind fun _ => ih).congr (by simp)
        · simp only [hc, ↓reduceIte]
          exact (refuses_refuseNext _).accepts.congr (by simp [hc])
    · rintro (_ | ⟨c, text⟩) _ rest <;> simp

/-! ### Strings -/

theorem hex_iff (offset : Nat) {text rest : List Char} {n : Nat} :
    Hex text n rest ↔ hexEscape offset text = .ok n ∧ rest = text.drop 4 := by
  constructor
  · rintro @⟨digits, _, _, hlength, h⟩
    obtain ⟨-, hdigits, hvalue⟩ := (Text.numeral_iff (by decide)).1 h
    have htake : (digits ++ rest).take 4 = digits := List.take_left' hlength
    have hall : digits.all fun c => (Text.digitValue? 16 c).isSome := List.all_eq_true.2 hdigits
    refine ⟨?_, (List.drop_left' hlength).symm⟩
    rw [hexEscape]
    simp only [htake, hlength, hall, hvalue, and_self, ↓reduceIte]
  · rintro ⟨h, rfl⟩
    rw [hexEscape] at h
    split at h
    next hdigits =>
      cases h
      have hne : text.take 4 ≠ [] := List.ne_nil_of_length_pos (by omega)
      have hnumeral := (Text.numeral_iff (by decide)).2 ⟨hne, List.all_eq_true.1 hdigits.2, rfl⟩
      have hhex : Hex (text.take 4 ++ text.drop 4) _ (text.drop 4) := .mk hdigits.1 hnumeral
      rwa [List.take_append_drop] at hhex
    · split at h <;> cases h

theorem Hex.lt {text rest : List Char} {n : Nat} (h : Hex text n rest) : n < 0x10000 := by
  obtain @⟨digits, _, _, hlength, values, -, hlt, hdigits, rfl⟩ := h
  have hvalues : values.reverse.length = 4 := by
    rw [List.length_reverse, ← hlength, ← List.length_map Char.toLower, hdigits, List.length_map]
  calc Nat.ofDigits 16 values.reverse < 16 ^ values.reverse.length :=
        Nat.ofDigits_lt_base_pow_length (by decide) (fun d hd => hlt d (List.mem_reverse.1 hd))
    _ = 0x10000 := by rw [hvalues]; rfl

theorem surrogatePair_eq_ok_iff {offset high count : Nat} {text : List Char} {c : Char} :
    surrogatePair offset high text = .ok (c, count) ↔
      count = 12 ∧ ∃ more low, text = '\\' :: 'u' :: more ∧ hexEscape (offset + 8) more = .ok low ∧
        (0xDC00 ≤ low ∧ low ≤ 0xDFFF) ∧ c = Char.ofNat (Json.pairCode high low) := by
  fun_cases surrogatePair offset high text with
  | case1 => simp
  | case2 => simp
  | case3 more error h => simp [h]
  | case4 more low h hlow =>
    unfold Json.pairCode
    simp only [Except.ok.injEq, Prod.mk.injEq, List.cons.injEq, true_and]
    constructor
    · rintro ⟨hc, hcount⟩
      exact ⟨hcount.symm, more, low, rfl, h, hlow, hc.symm⟩
    · rintro ⟨hcount, _, low', rfl, h', -, hc⟩
      cases h.symm.trans h'
      exact ⟨hc.symm, hcount.symm⟩
  | case5 more low h hlow =>
    simp only [reduceCtorEq, false_iff]
    rintro ⟨-, _, low', hmore, h', hlow', -⟩
    cases hmore
    cases h.symm.trans h'
    exact hlow hlow'
  | case6 mark more hmark =>
    simp only [reduceCtorEq, false_iff]
    rintro ⟨-, _, low', hmore, -⟩
    cases hmore
    exact hmark rfl
  | case7 first more hnil hu hescape =>
    simp only [reduceCtorEq, false_iff]
    rintro ⟨-, _, low', hmore, -⟩
    cases hmore
    exact hu _ rfl rfl

theorem toNat_ofNat_pairCode {high low : Nat} (hhigh : 0xD800 ≤ high ∧ high < 0xDC00)
    (hlow : 0xDC00 ≤ low ∧ low < 0xE000) : (Char.ofNat (Json.pairCode high low)).toNat = Json.pairCode high low := by
  have hrange : 0xDFFF < Json.pairCode high low ∧ Json.pairCode high low < 0x110000 := by
    unfold Json.pairCode
    omega
  rw [Char.ofNat, dif_pos (Or.inr hrange)]
  rfl

/-- An escape with four digits is a character of its own, or the first half of a pair. -/
theorem unicodeEscape_iff {offset : Nat} {text rest : List Char} {c : Char} :
    (∃ count, unicodeEscape offset text = .ok (c, count) ∧ rest = ('u' :: text).drop (count - 1)) ↔
      Character ('\\' :: 'u' :: text) c rest := by
  constructor
  · rintro ⟨count, h, rfl⟩
    rw [unicodeEscape] at h
    split at h
    · cases h
    next code hcode =>
      have hhex : Hex text code (text.drop 4) := (hex_iff _).2 ⟨hcode, rfl⟩
      split at h
      · cases h
      split at h
      next htrailing hleading =>
        obtain ⟨hcount, more, low, htext, hlow, hrange, hc⟩ := surrogatePair_eq_ok_iff.1 h
        have hrest : ('u' :: text).drop (count - 1) = more.drop 4 := by
          rw [hcount]
          change text.drop (4 + (2 + 4)) = _
          rw [← List.drop_drop, htext]
          rfl
        rw [htext] at hhex
        rw [hrest, hc]
        exact .pair hhex ((hex_iff _).2 ⟨hlow, rfl⟩) ⟨hleading.1, by omega⟩ ⟨hrange.1, by omega⟩
          (toNat_ofNat_pairCode ⟨hleading.1, by omega⟩ ⟨hrange.1, by omega⟩)
      next htrailing hleading =>
        cases h
        have hvalid : code.isValidChar := by
          have := Hex.lt hhex
          unfold Nat.isValidChar
          omega
        have hc : (Char.ofNat code).toNat = code := by
          rw [Char.ofNat, dif_pos hvalid]
          rfl
        exact .code (by rwa [hc])
  · intro h
    cases h with
    | plain _ hescape => exact absurd rfl hescape
    | short h => simp [Json.shortEscapes] at h
    | code h =>
      obtain ⟨hcode, rfl⟩ := (hex_iff (offset + 2)).1 h
      have hc := Json.toNat_not_surrogate c
      refine ⟨6, ?_, rfl⟩
      rw [unicodeEscape, hcode]
      dsimp only
      rw [if_neg (by omega), if_neg (by omega), Char.ofNat_toNat]
    | @pair _ more _ high low _ hhigh hlow hleading htrailing hc =>
      obtain ⟨hcode, htext⟩ := (hex_iff (offset + 2)).1 hhigh
      obtain ⟨hsecond, rfl⟩ := (hex_iff (offset + 8)).1 hlow
      refine ⟨12, ?_, ?_⟩
      · rw [unicodeEscape, hcode]
        dsimp only
        rw [if_neg (by omega), if_pos (by omega), ← htext, surrogatePair_eq_ok_iff]
        refine ⟨rfl, _, _, rfl, hsecond, by omega, ?_⟩
        rw [← hc, Char.ofNat_toNat]
      · change _ = text.drop (4 + (2 + 4))
        rw [← List.drop_drop, ← htext]
        rfl

/-- The escapes of strings. -/
theorem escape_iff {offset : Nat} {text rest : List Char} {c : Char} :
    (∃ count, escape offset text = .ok (c, count) ∧ rest = text.drop (count - 1)) ↔
      Character ('\\' :: text) c rest := by
  have hshort : ∀ {mark d : Char} {text : List Char}, (mark, d) ∈ Json.shortEscapes →
      ((∃ count, (Except.ok (d, 2) : Except Error (Char × Nat)) = .ok (c, count) ∧
        rest = (mark :: text).drop (count - 1)) ↔ Character ('\\' :: mark :: text) c rest) := by
    intro mark d text hmark
    constructor
    · rintro ⟨count, h, rfl⟩
      cases h
      exact .short hmark
    · intro h
      obtain ⟨rfl, rfl⟩ := h.unique (.short hmark)
      exact ⟨2, rfl, rfl⟩
  fun_cases escape offset text with
  | case1 =>
    simp only [reduceCtorEq, false_and, exists_false, false_iff]
    intro h
    cases h with
    | plain _ hescape => exact hescape rfl
  | case2 | case3 | case4 | case5 | case6 | case7 | case8 | case9 => exact hshort (by simp [Json.shortEscapes])
  | case10 text => exact unicodeEscape_iff
  | case11 mark text =>
    simp only [reduceCtorEq, false_and, exists_false, false_iff]
    intro h
    cases h with
    | plain _ hescape => exact hescape rfl
    | short hmark => simp_all [Json.shortEscapes]
    | code | pair => simp_all

theorem stringChars_next {first : Char} {text chars rest : List Char} {next : Cursor}
    (hquote : text.head? ≠ some '"') (h : Character text first next.rest)
    (ih : ∀ chars, (∃ stop, stringChars next = .ok (chars, ⟨rest, stop⟩)) ↔ Characters next.rest chars rest) :
    (∃ stop, (stringChars next >>= fun result => pure (first :: result.1, result.2)) = .ok (chars, ⟨rest, stop⟩)) ↔
      Characters text chars rest := by
  constructor
  · rintro ⟨stop, hread⟩
    cases hnext : stringChars next with
    | error error =>
      rw [hnext] at hread
      cases hread
    | ok result =>
      obtain ⟨more, place⟩ := result
      rw [hnext] at hread
      cases hread
      exact .next h ((ih _).1 ⟨stop, hnext⟩)
  · intro hchars
    cases hchars with
    | close => exact absurd rfl hquote
    | next h' hmore =>
      obtain ⟨rfl, rfl⟩ := h'.unique h
      obtain ⟨stop, hnext⟩ := (ih _).2 hmore
      exact ⟨stop, by rw [hnext]; rfl⟩

theorem stringChars_stuck {text chars rest : List Char} {error : Error} (hquote : text.head? ≠ some '"')
    (h : ∀ c more, ¬ Character text c more) :
    (∃ stop, Except.error error = .ok (chars, (⟨rest, stop⟩ : Cursor))) ↔ Characters text chars rest := by
  simp only [reduceCtorEq, exists_false, false_iff]
  intro hchars
  cases hchars with
  | close => exact hquote rfl
  | next hnext _ => exact h _ _ hnext

theorem stringChars_iff (cursor : Cursor) {chars rest : List Char} :
    (∃ stop, stringChars cursor = .ok (chars, ⟨rest, stop⟩)) ↔ Characters cursor.rest chars rest := by
  fun_induction stringChars cursor generalizing chars with
  | case1 => exact stringChars_stuck (by simp) fun _ _ h => by cases h
  | case2 text offset =>
    simp only [Except.ok.injEq, Prod.mk.injEq, Cursor.mk.injEq]
    constructor
    · rintro ⟨_, rfl, rfl, -⟩
      exact .close
    · intro h
      obtain ⟨rfl, rfl⟩ := h.unique .close
      exact ⟨_, rfl, rfl, rfl⟩
  | case3 text offset error herror hescape =>
    refine stringChars_stuck (by simp) fun c more h => ?_
    obtain ⟨count, hok, -⟩ := escape_iff.2 h
    cases herror.symm.trans hok
  | case4 text offset first count hfirst _ ih =>
    exact stringChars_next (by simp) (escape_iff.1 ⟨count, hfirst, rfl⟩) fun _ => ih
  | case5 first text offset hquote hescape hcontrol =>
    refine stringChars_stuck (by simpa using hquote) fun c more h => ?_
    cases h with
    | plain _ _ hcode => omega
    | short | code | pair => exact hescape rfl
  | case6 first text offset hquote hescape hcontrol ih =>
    exact stringChars_next (by simpa using hquote) (.plain hquote hescape (Nat.not_lt.1 hcontrol)) fun _ => ih

/-- The characters of a string, its opening quote passed over. -/
theorem accepts_readString : Accepts readString fun text value rest => Characters text.tail value.toList rest := by
  refine (accepts_pass.bind (T := fun _ text value rest => Characters text value.toList rest)
    fun _ => ?_).congr (by simp)
  intro text offset value rest
  simp only [bind_eq_ok_iff]
  constructor
  · rintro ⟨stop, _, _, hget, hread⟩
    cases hget
    cases h : stringChars ⟨text, offset⟩ with
    | error error =>
      rw [h] at hread
      cases hread
    | ok result =>
      obtain ⟨chars, place⟩ := result
      rw [h] at hread
      cases hread
      rw [String.toList_ofList]
      exact (stringChars_iff _).1 ⟨stop, h⟩
  · intro h
    obtain ⟨stop, h⟩ := (stringChars_iff ⟨text, offset⟩).2 h
    refine ⟨stop, _, _, rfl, ?_⟩
    rw [h]
    exact congrArg (fun value => Except.ok (value, (⟨rest, stop⟩ : Cursor))) (String.ofList_toList)

/-! ### Values -/

theorem refuses_refuseType {α : Type} (wanted : Wanted) : Refuses (refuseType wanted : Reading α) := by
  refine Refuses.bind fun c => ?_
  split
  · exact Refuses.bind fun _ => Refuses.bind fun _ => refuses_refuse _
  · exact Refuses.bind fun _ => Refuses.bind fun _ => refuses_refuse _
  · exact Refuses.bind fun _ => Refuses.bind fun _ => refuses_refuse _
  · exact Refuses.bind fun _ => Refuses.bind fun _ => refuses_refuse _
  · exact Refuses.bind fun _ => refuses_refuse _
  · exact refuses_refuse _
  · exact refuses_refuse _
  · split
    · exact Refuses.bind fun _ => refuses_refuse _
    · exact refuses_refuseNext _
  · exact refuses_refuseNext _

/-- A word whose first letter is known. -/
theorem accepts_restOfWord {α : Type} (word : List Char) (a : α) :
    Accepts (do pass; passWord word; return a) fun text b rest => b = a ∧ text.tail = word ++ rest :=
  (accepts_pass.bind fun _ => (accepts_passWord word).bind fun _ => accepts_pure a).congr (by
    simp only [exists_const, exists_eq_left]
    grind)

theorem accepts_stringValue : Accepts stringValue fun text value rest => Value text (.string value) rest := by
  refine (accepts_peek.bind (T := fun c text value rest => c = some '"' ∧ Characters text.tail value.toList rest)
    fun c => ?_).congr ?_
  · split
    · exact accepts_readString.congr (by simp)
    · exact (refuses_refuseType _).accepts.congr (by simp_all)
  · intro text value rest
    rw [Json.value_string_iff]
    cases text <;> simp [eq_comm]

theorem accepts_booleanValue : Accepts booleanValue fun text value rest => Value text (.boolean value) rest := by
  refine (accepts_peek.bind (T := fun c text value rest =>
    c = some 't' ∧ value = true ∧ text.tail = "rue".toList ++ rest ∨
      c = some 'f' ∧ value = false ∧ text.tail = "alse".toList ++ rest) fun c => ?_).congr ?_
  · split
    · exact (accepts_restOfWord _ _).congr (by simp)
    · exact (accepts_restOfWord _ _).congr (by simp)
    · exact (refuses_refuseType _).accepts.congr (by simp_all)
  · intro text value rest
    rw [Json.value_boolean_iff]
    cases text <;> cases value <;> simp [eq_comm]

/-- The value of a field that may be missing. -/
def optional {α : Type} (wrap : α → Json) : Option α → Json
  | none => .null
  | some a => wrap a

/-- A reader of values serves under `orNull` if none of its values is null. -/
theorem accepts_orNull {α : Type} {value : Reading α} (wrap : α → Json) (hwrap : ∀ a, (wrap a).mark ≠ 'n')
    (h : Accepts value fun text a rest => Value text (wrap a) rest) :
    Accepts (orNull value) fun text a rest => ∃ start, Skips text start ∧ Value start (optional wrap a) rest := by
  refine (accepts_peekToken.bind (T := fun c text a rest =>
    c = some 'n' ∧ a = none ∧ text.tail = "ull".toList ++ rest ∨
      c ≠ some 'n' ∧ c ≠ none ∧ ∃ b, a = some b ∧ Value text (wrap b) rest) fun c => ?_).congr ?_
  · split
    · exact (accepts_restOfWord _ _).congr (by simp)
    · exact (h.bind fun a => accepts_pure (some a)).congr (by simp_all [and_comm])
    · exact (refuses_refuseNext _).accepts.congr (by simp)
  · intro text a rest
    constructor
    · rintro ⟨c, start, ⟨hskip, -, rfl⟩, ⟨hn, rfl, hrest⟩ | ⟨-, -, b, rfl, hvalue⟩⟩
      · obtain ⟨more, rfl⟩ := List.head?_eq_some_iff.1 hn
        exact ⟨_, hskip, Json.value_null_iff.2 (congrArg ('n' :: ·) hrest)⟩
      · exact ⟨start, hskip, hvalue⟩
    · rintro ⟨start, hskip, hvalue⟩
      refine ⟨_, start, ⟨hskip, hvalue.solid, rfl⟩, ?_⟩
      cases a with
      | none =>
        rw [Json.value_null_iff.1 hvalue]
        exact .inl ⟨rfl, rfl, rfl⟩
      | some b =>
        obtain ⟨c, more, rfl, hmark⟩ := hvalue.exists_cons
        refine .inr ⟨?_, nofun, b, rfl, hvalue⟩
        rintro ⟨⟩
        exact hwrap b hmark.symm

end JsxLowering.Config
