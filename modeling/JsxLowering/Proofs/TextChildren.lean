import JsxLowering.Proofs.Equations
import JsxLowering.Proofs.OneLine

/-!
# Text children

Which texts between tags leave nothing behind, and what the others become.  Blank lines count only where they stand: a
first or a last line of gaps is trimmed away, and a line of gaps between them stays.
-/

namespace JsxLowering.Text

/-- Lines with nothing to say: only gaps on the first and on the last, and nothing at all on the lines between them. -/
structure CarryNothing (ls : List (List Char)) : Prop where
  first : ∀ line ∈ ls.head?, ∀ c ∈ line, isGap c
  last : ∀ line ∈ ls.getLast?, ∀ c ∈ line, isGap c
  between : ∀ line ∈ ls.tail.dropLast, line = []

theorem spaced_eq_nil_iff {line : List Char} : spaced line = [] ↔ line = [] := List.map_eq_nil_iff

theorem carryNothing_outer_iff {first last : List Char} {inner : List (List Char)} :
    CarryNothing (first :: (inner ++ [last])) ↔
      (∀ c ∈ first, isGap c) ∧ (∀ line ∈ inner, line = []) ∧ ∀ c ∈ last, isGap c := by
  have hends : (first :: (inner ++ [last])).getLast? = some last := by rw [← List.cons_append, List.getLast?_concat]
  constructor
  · intro h
    exact ⟨h.first first rfl, by simpa using h.between, h.last last hends⟩
  · rintro ⟨hfirst, hinner, hlast⟩
    exact ⟨by simpa using hfirst, by simpa [hends] using hlast, by simpa using hinner⟩

/-- Trimming leaves nothing exactly of lines with nothing to say. -/
theorem flatten_trimmedLines_eq_nil_iff (text : List Char) :
    (trimmedLines (lines text)).flatten = [] ↔ CarryNothing (lines text) := by
  rcases exists_outer_lines text with ⟨hlines, -⟩ | ⟨first, between, last, inner, h⟩
  · rw [hlines, trimmedLines_singleton, List.flatten_singleton, spaced_eq_nil_iff, core_eq_nil_iff]
    exact ⟨fun hgaps => ⟨by simpa using hgaps, by simpa using hgaps, by simp⟩, fun hnothing => hnothing.first text rfl⟩
  · rw [h.lines_eq, trimmedLines_outer, carryNothing_outer_iff, List.flatten_cons, List.flatten_append,
      List.flatten_singleton, List.append_eq_nil_iff, List.append_eq_nil_iff, spaced_eq_nil_iff, spaced_eq_nil_iff,
      List.dropWhile_eq_nil_iff, List.rdropWhile_eq_nil_iff]
    simp [spaced_eq_nil_iff]

/-- A text normalizes to nothing exactly if its lines have nothing to say. -/
theorem normalizeChars_eq_nil_iff (text : List Char) : normalizeChars text = [] ↔ CarryNothing (lines text) := by
  rw [← flatten_trimmedLines_eq_nil_iff, flatten_trimmedLines, normalizeChars_eq, List.append_eq_nil_iff,
    and_iff_left_iff_imp]
  intro hnil
  have hnone : text.filter isContent = [] := by rw [← filter_isContent_joined_core, hnil, List.filter_nil]
  have hany : text.any isContent = false := by simpa using hnone
  simp [hany]

/-- What a text normalizes to ends in a space, unless it is empty. -/
theorem getLast?_normalizeChars {text : List Char} (h : normalizeChars text ≠ []) :
    (normalizeChars text).getLast? = some ' ' := by
  rw [normalizeChars_eq] at h ⊢
  by_cases hcontent : text.any isContent = true
  · simp [hcontent]
  · -- without content nothing but spaces is left
    rw [if_neg hcontent, List.append_nil] at h ⊢
    have hblank : ∀ c ∈ core text, isContent c = false := by
      intro c hc
      have hnone : ∀ d ∈ text, isContent d = false := by simpa using hcontent
      exact hnone c (mem_of_mem_core hc)
    rw [List.getLast?_eq_some_getLast h, eq_space_of_mem_joined hblank (List.getLast_mem h)]

end JsxLowering.Text

namespace JsxLowering

open Text (CarryNothing lines decodeEntities normalize)

/-- A text normalizes to nothing exactly if its lines have nothing to say.  So a text child is dropped, wherever it
stands, exactly if the lines of its decoded text have nothing to say, and otherwise becomes one literal call, whose text
ends in a space. -/
theorem text_child_dropped_iff :
    (∀ text : String, normalize text = "" ↔ CarryNothing (lines text.toList)) ∧
    ∀ (names : MethodNames) (bound : Bool) (span : Span) (raw : String), ∃ emitted : List Tree,
      (∀ before after : List Child, (lowerChildren names bound (before ++ .text span raw :: after)).value =
        (lowerChildren names bound before).value ++ emitted ++ (lowerChildren names bound after).value) ∧
      (emitted = [] ↔ CarryNothing (lines (decodeEntities raw).toList)) ∧
      (emitted ≠ [] → ∃ text : String, emitted = [names.literalCall span text] ∧
        text = normalize (decodeEntities raw) ∧ text.toList.getLast? = some ' ') := by
  have hempty : ∀ text : String, normalize text = "" ↔ CarryNothing (lines text.toList) := by
    intro text
    rw [← Text.normalizeChars_eq_nil_iff, ← Text.toList_normalize, String.toList_eq_nil_iff]
  refine ⟨hempty, fun names bound span raw => ?_⟩
  have hvalue : ((Child.text span raw).lower names bound).value =
      if normalize (decodeEntities raw) = "" then none
      else some (names.literalCall span (normalize (decodeEntities raw))) := by
    simp [childText]
  refine ⟨((Child.text span raw).lower names bound).value.toList, fun before after => ?_, ?_, fun hne => ?_⟩
  · simp [value_lowerChildren_append, lowerChildren]
  · rw [← hempty, hvalue]
    split
    next hnil => simp [hnil]
    next hsome => simp [hsome]
  · rw [hvalue] at hne ⊢
    split at hne
    · exact absurd rfl hne
    next hsome =>
      refine ⟨_, by rw [if_neg hsome]; rfl, rfl, ?_⟩
      rw [Text.toList_normalize]
      refine Text.getLast?_normalizeChars fun hnil => hsome ?_
      rwa [← Text.toList_normalize, String.toList_eq_nil_iff] at hnil

/-- A line of gaps between two line ends, one of them escaped, is a literal of its own. -/
theorem text_child_inner_gap :
    ¬ CarryNothing (lines (decodeEntities "&#10;\t\n").toList) ∧
      (lowerChildren ⟨"ui", "box", "text"⟩ false [.text ⟨0, 7⟩ "&#10;\t\n"]).value =
        [MethodNames.literalCall ⟨"ui", "box", "text"⟩ ⟨0, 7⟩ " "] := by
  have hlines : lines (decodeEntities "&#10;\t\n").toList = [[], ['\t'], []] := by decide +kernel
  have hnothing : ¬ CarryNothing (lines (decodeEntities "&#10;\t\n").toList) := by
    intro h
    rw [hlines] at h
    exact absurd (h.between ['\t'] (by decide)) (by decide)
  obtain ⟨emitted, hplace, hdropped, hone⟩ :=
    text_child_dropped_iff.2 ⟨"ui", "box", "text"⟩ false ⟨0, 7⟩ "&#10;\t\n"
  obtain ⟨text, hemitted, htext, -⟩ := hone fun hnil => hnothing (hdropped.1 hnil)
  have hspace : normalize (decodeEntities "&#10;\t\n") = " " := by decide +kernel
  refine ⟨hnothing, ?_⟩
  have hvalue := hplace [] []
  rw [hemitted, htext, hspace] at hvalue
  simpa [lowerChildren] using hvalue

end JsxLowering
