import JsxLowering.Proofs.OneLine

/-!
# Texts that stay as they are

Normalizing a text can leave spaces at its start, which indented an inner line, and more than one space at its end.
All of them stand on the only line then, so that they are trimmed when the result is normalized once more, and a third
time nothing is left to do.

* `normalizeChars_of_flat`: a text on one line is normalized by trimming it and adding one space to what is left.
* `normalizeChars_eq_self_iff`: the texts that normalization leaves as they are.
-/

namespace JsxLowering.Text

/-- A text without line ends and without tabs. -/
def Flat (text : List Char) : Prop := ∀ c ∈ text, c ≠ '\r' ∧ c ≠ '\n' ∧ c ≠ '\t'

/-- A text without line ends and tabs that starts with a character other than a space and ends with exactly one space,
which follows a character other than a space. -/
structure Settled (text : List Char) : Prop where
  flat : Flat text
  head : ∃ c ∈ text.head?, c ≠ ' '
  last : ∃ before c, text = before ++ [c, ' '] ∧ c ≠ ' '

theorem flat_normalizeChars (text : List Char) : Flat (normalizeChars text) := by
  intro c hc
  obtain ⟨hplain, htab⟩ := mem_normalizeChars hc
  simp only [isLineBreak, Bool.or_eq_false_iff, beq_eq_false_iff_ne] at hplain
  exact ⟨hplain.2, hplain.1, htab⟩

section

variable {text : List Char}

theorem Flat.mono (h : Flat text) {part : List Char} (hpart : part ⊆ text) : Flat part :=
  fun c hc => h c (hpart hc)

theorem Flat.isLineBreak_eq_false (h : Flat text) {c : Char} (hc : c ∈ text) : isLineBreak c = false := by
  obtain ⟨hreturn, hfeed, -⟩ := h c hc
  simp [isLineBreak, hreturn, hfeed]

theorem Flat.isGap_eq_false_iff (h : Flat text) {c : Char} (hc : c ∈ text) : isGap c = false ↔ c ≠ ' ' := by
  obtain ⟨-, -, htab⟩ := h c hc
  simp [isGap, htab]

theorem Flat.joined_eq (h : Flat text) : joined text = text := by
  have htabs : ∀ c ∈ text, (if c = '\t' then ' ' else c) = c := by
    intro c hc
    rw [if_neg (h c hc).2.2]
  rw [joined_of_plain fun c hc => h.isLineBreak_eq_false hc, spaced, List.map_congr_left htabs, List.map_id']

theorem Flat.any_isContent_iff (h : Flat text) : text.any isContent = true ↔ core text ≠ [] := by
  rw [Ne, core_eq_nil_iff, List.any_eq_true]
  push Not
  refine exists_congr fun c => and_congr_right fun hc => ?_
  simp [isContent, h.isLineBreak_eq_false hc]

/-- On one line, normalization trims and adds one space to what is left. -/
theorem normalizeChars_of_flat (h : Flat text) :
    normalizeChars text = if core text = [] then [] else core text ++ [' '] := by
  have hcore : Flat (core text) := h.mono fun c hc => mem_of_mem_core hc
  rw [normalizeChars_eq, hcore.joined_eq]
  by_cases hnil : core text = []
  · rw [if_neg (mt h.any_isContent_iff.1 (not_not.2 hnil)), if_pos hnil, hnil, List.append_nil]
  · rw [if_pos (h.any_isContent_iff.2 hnil), if_neg hnil]

/-- A settled text is a trimmed one with one space behind it. -/
theorem settled_iff : Settled text ↔ ∃ body, text = body ++ [' '] ∧ body ≠ [] ∧ Flat body ∧ Bare body := by
  constructor
  · rintro ⟨hflat, ⟨d, hd, hd'⟩, before, c, rfl, hc⟩
    have hbody : Flat (before ++ [c]) := hflat.mono (by simp)
    refine ⟨before ++ [c], by simp, by simp, hbody, ?_, ?_⟩
    · intro e he
      obtain rfl : d = e := by
        cases before <;> simp_all
      exact (hbody.isGap_eq_false_iff (List.mem_of_mem_head? he)).2 hd'
    · intro e he
      obtain rfl : c = e := by simpa using he
      exact (hbody.isGap_eq_false_iff (by simp)).2 hc
  · rintro ⟨body, rfl, hne, hflat, hbare⟩
    obtain ⟨before, c, hbody⟩ := (List.eq_nil_or_concat' body).resolve_left hne
    obtain ⟨d, rest, hstart⟩ := List.exists_cons_of_ne_nil hne
    have hd : d ≠ ' ' := (hflat.isGap_eq_false_iff (by simp [hstart])).1 (hbare.head d (by simp [hstart]))
    have hc : c ≠ ' ' := (hflat.isGap_eq_false_iff (by simp [hbody])).1 (hbare.last c (by simp [hbody]))
    refine ⟨?_, ⟨d, by simp [hstart], hd⟩, before, c, by simp [hbody], hc⟩
    rw [Flat, List.forall_mem_append]
    exact ⟨hflat, by simp⟩

/-- A text on one line is normalized to a settled text or to nothing. -/
theorem settled_normalizeChars (h : Flat text) : normalizeChars text = [] ∨ Settled (normalizeChars text) := by
  rw [normalizeChars_of_flat h]
  by_cases hnil : core text = []
  · exact .inl (if_pos hnil)
  · rw [if_neg hnil]
    exact .inr (settled_iff.2 ⟨core text, rfl, hnil, h.mono fun c hc => mem_of_mem_core hc, bare_core text⟩)

theorem Settled.normalizeChars_eq (h : Settled text) : normalizeChars text = text := by
  obtain ⟨body, rfl, hne, -, hbare⟩ := settled_iff.1 h
  have hnone : ∀ c ∈ ([] : List Char), isGap c := by simp
  have hspace : ∀ c ∈ [' '], isGap c := by simp [isGap]
  have hcore : core (body ++ [' ']) = body := (core_append hnone hspace body).trans hbare.core_eq
  rw [normalizeChars_of_flat h.flat, hcore, if_neg hne]

/-- Normalization leaves the empty text and the settled texts as they are, and no others. -/
theorem normalizeChars_eq_self_iff : normalizeChars text = text ↔ text = [] ∨ Settled text := by
  constructor
  · intro h
    have hflat : Flat text := h ▸ flat_normalizeChars text
    rw [← h]
    exact settled_normalizeChars hflat
  · rintro (rfl | h)
    · rfl
    · exact h.normalizeChars_eq

end

/-- Normalizing a text twice leaves nothing to do, and the texts with nothing to do are the empty text and the settled
ones. -/
theorem normalize_settles (text : String) :
    normalize (normalize (normalize text)) = normalize (normalize text) ∧
      (normalize text = text ↔ text = "" ∨ Settled text.toList) := by
  have hself : ∀ text : String, normalize text = text ↔ text = "" ∨ Settled text.toList := by
    intro text
    rw [← String.toList_inj, toList_normalize, normalizeChars_eq_self_iff, String.toList_eq_nil_iff]
  refine ⟨(hself _).2 ?_, hself text⟩
  -- the first result is on one line, so the second is settled
  have hflat : Flat (normalize text).toList := by
    rw [toList_normalize]
    exact flat_normalizeChars text.toList
  rw [← String.toList_eq_nil_iff, toList_normalize (normalize text)]
  exact settled_normalizeChars hflat

-- once is not enough: the indentation of an inner line is trimmed the second time
example : normalize "\n  a \n" = "  a  " ∧ normalize "  a  " = "a " := by decide +kernel

end JsxLowering.Text
