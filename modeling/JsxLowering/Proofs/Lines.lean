import Mathlib.Data.List.Basic

/-!
# The lines of a text

The lines of a text, found among its characters (`lines`).  A text is empty, or starts with a character of a line, or
starts with a line end; `lines_cons` and `Ends.lines_append` say what `lines` does in each case, and `readLines` is the
induction along them.

* `flatten_lines`: the lines hold all characters of the text but those of its line ends.
* `exists_outer_lines`: a text is a single line, or its first and its last line stand around everything between them.
* `lines_withLineEnds`: the lines do not depend on how they are ended.
-/

namespace JsxLowering.Text

/-- The lines of a text given by its characters, without their ends. -/
def lines : List Char → List (List Char)
  | [] => [[]]
  | '\r' :: '\n' :: rest => [] :: lines rest
  | c :: rest =>
    if c = '\n' ∨ c = '\r' then [] :: lines rest
    else
      match lines rest with
      | [] => [[c]]
      | line :: more => (c :: line) :: more

theorem lines_ne_nil (text : List Char) : lines text ≠ [] := by
  fun_cases lines text <;> simp_all

/-- The characters that line ends are made of. -/
def isLineBreak (c : Char) : Bool := c == '\n' || c == '\r'

theorem eq_or_eq_of_isLineBreak {c : Char} (h : isLineBreak c) : c = '\n' ∨ c = '\r' := by
  simpa [isLineBreak] using h

/-- The ways to end a line. -/
inductive LineEnd : List Char → Prop
  | lineFeed : LineEnd ['\n']
  | both : LineEnd ['\r', '\n']
  | carriageReturn : LineEnd ['\r']

/-- A line end that is complete before the text `rest`: a carriage return is none before a line feed. -/
structure Ends (ending rest : List Char) : Prop where
  lineEnd : LineEnd ending
  complete : ending = ['\r'] → rest.head? ≠ some '\n'

theorem LineEnd.isLineBreak {ending : List Char} (h : LineEnd ending) : ∀ c ∈ ending, Text.isLineBreak c := by
  cases h <;> simp [Text.isLineBreak]

theorem LineEnd.exists_head? {ending : List Char} (h : LineEnd ending) (rest : List Char) :
    ∃ c ∈ (ending ++ rest).head?, Text.isLineBreak c := by
  cases h <;> exact ⟨_, rfl, rfl⟩

theorem LineEnd.exists_getLast? {ending : List Char} (h : LineEnd ending) :
    ∃ c ∈ ending.getLast?, Text.isLineBreak c := by
  cases h <;> exact ⟨_, rfl, rfl⟩

theorem lines_cons {c : Char} (hc : isLineBreak c = false) (rest : List Char) :
    lines (c :: rest) = (lines rest).modifyHead (c :: ·) := by
  simp only [isLineBreak, Bool.or_eq_false_iff, beq_eq_false_iff_ne] at hc
  rw [lines.eq_3 _ _ (by simp [hc]), if_neg (by simp [hc])]
  cases h : lines rest with
  | nil => exact absurd h (lines_ne_nil rest)
  | cons line more => rfl

theorem lines_append {line : List Char} (h : ∀ c ∈ line, isLineBreak c = false) (text : List Char) :
    lines (line ++ text) = (lines text).modifyHead (line ++ ·) := by
  induction line with
  | nil => exact (congrFun List.modifyHead_id (lines text)).symm
  | cons c line ih =>
    rw [List.forall_mem_cons] at h
    rw [List.cons_append, lines_cons h.1, ih h.2, List.modifyHead_modifyHead]
    rfl

theorem Ends.not_lineFeed {rest : List Char} (h : Ends ['\r'] rest) :
    ∀ more, '\r' = '\r' → rest = '\n' :: more → False := by
  rintro more - rfl
  exact h.complete rfl rfl

theorem Ends.lines_append {ending rest : List Char} (h : Ends ending rest) :
    lines (ending ++ rest) = [] :: lines rest := by
  cases h.lineEnd with
  | lineFeed => simp [lines]
  | both => simp [lines]
  | carriageReturn => rw [List.singleton_append, lines.eq_3 _ _ h.not_lineFeed, if_pos (by simp)]

/-- Induction over a text as it is read: character by character, with line ends in one piece. -/
@[elab_as_elim]
theorem readLines {motive : List Char → Prop} (nil : motive [])
    (char : ∀ c rest, isLineBreak c = false → motive rest → motive (c :: rest))
    (ending : ∀ ending rest, Ends ending rest → motive rest → motive (ending ++ rest)) (text : List Char) :
    motive text := by
  induction text using lines.induct with
  | case1 => exact nil
  | case2 rest ih => exact ending ['\r', '\n'] rest ⟨.both, by simp⟩ ih
  | case3 c rest hfeed hc ih =>
    rcases hc with rfl | rfl
    · exact ending ['\n'] rest ⟨.lineFeed, by simp⟩ ih
    · refine ending ['\r'] rest ⟨.carriageReturn, fun _ hhead => ?_⟩ ih
      cases rest with
      | nil => cases hhead
      | cons d more => exact hfeed more rfl (by simpa using hhead)
  | case4 c rest _ hc _ ih => exact char c rest (by simpa [isLineBreak] using hc) ih
  | case5 c rest _ hc _ _ _ ih => exact char c rest (by simpa [isLineBreak] using hc) ih

/-! ### What the lines hold -/

theorem flatten_modifyHead_cons (c : Char) {ls : List (List Char)} (h : ls ≠ []) :
    (ls.modifyHead (c :: ·)).flatten = c :: ls.flatten := by
  cases ls with
  | nil => exact absurd rfl h
  | cons line more => rfl

/-- The lines hold the text without its line ends. -/
theorem flatten_lines (text : List Char) : (lines text).flatten = text.filter fun c => !isLineBreak c := by
  induction text using readLines with
  | nil => rfl
  | char c rest hc ih => simp [lines_cons hc, flatten_modifyHead_cons c (lines_ne_nil rest), ih, hc]
  | ending ending rest h ih =>
    have hbreaks : (ending.filter fun c => !isLineBreak c) = [] := by simpa using h.lineEnd.isLineBreak
    rw [h.lines_append, List.filter_append, hbreaks, List.flatten_cons, ih]

/-- The first and the last line of a text with more than one line, the lines between them, and the part of the text from
the first line end to the last. -/
structure OuterLines (text first between last : List Char) (inner : List (List Char)) : Prop where
  text_eq : text = first ++ between ++ last
  lines_eq : lines text = first :: (inner ++ [last])
  first_plain : ∀ c ∈ first, isLineBreak c = false
  last_plain : ∀ c ∈ last, isLineBreak c = false
  opens : ∃ c ∈ between.head?, isLineBreak c
  closes : ∃ c ∈ between.getLast?, isLineBreak c

theorem exists_outer_lines (text : List Char) :
    (lines text = [text] ∧ ∀ c ∈ text, isLineBreak c = false) ∨
      ∃ first between last inner, OuterLines text first between last inner := by
  induction text using readLines with
  | nil => exact .inl ⟨rfl, by simp⟩
  | char c rest hc ih =>
    rcases ih with ⟨hlines, hplain⟩ | ⟨first, between, last, inner, houter⟩
    · exact .inl ⟨by simp [lines_cons hc, hlines], by simpa [hc] using hplain⟩
    · exact .inr ⟨c :: first, between, last, inner,
        { text_eq := by simp [houter.text_eq]
          lines_eq := by simp [lines_cons hc, houter.lines_eq]
          first_plain := by simpa [hc] using houter.first_plain
          last_plain := houter.last_plain
          opens := houter.opens
          closes := houter.closes }⟩
  | ending ending rest h ih =>
    right
    rcases ih with ⟨hlines, hplain⟩ | ⟨first, between, last, inner, houter⟩
    · exact ⟨[], ending, rest, [],
        { text_eq := rfl
          lines_eq := by rw [h.lines_append, hlines]; rfl
          first_plain := by simp
          last_plain := hplain
          opens := by simpa using h.lineEnd.exists_head? []
          closes := h.lineEnd.exists_getLast? }⟩
    · obtain ⟨c, hc, hbreak⟩ := houter.closes
      exact ⟨[], ending ++ (first ++ between), last, first :: inner,
        { text_eq := by simp [houter.text_eq]
          lines_eq := by rw [h.lines_append, houter.lines_eq]; rfl
          first_plain := by simp
          last_plain := houter.last_plain
          opens := h.lineEnd.exists_head? _
          closes := ⟨c, by simp_all [List.getLast?_append], hbreak⟩ }⟩

theorem OuterLines.flatten_inner {text first between last : List Char} {inner : List (List Char)}
    (h : OuterLines text first between last inner) : inner.flatten = between.filter fun c => !isLineBreak c := by
  have hfirst : (first.filter fun c => !isLineBreak c) = first := List.filter_eq_self.2 (by simpa using h.first_plain)
  have hlast : (last.filter fun c => !isLineBreak c) = last := List.filter_eq_self.2 (by simpa using h.last_plain)
  have hflatten := flatten_lines text
  rw [h.lines_eq, h.text_eq, List.filter_append, List.filter_append, hfirst, hlast] at hflatten
  simpa using hflatten

/-! ### Line ends of one kind -/

/-- The text with `ending` in place of each of its line ends. -/
def withLineEnds (ending : List Char) : List Char → List Char
  | [] => []
  | '\r' :: '\n' :: rest => ending ++ withLineEnds ending rest
  | c :: rest =>
    if c = '\n' ∨ c = '\r' then ending ++ withLineEnds ending rest else c :: withLineEnds ending rest

theorem withLineEnds_cons (ending : List Char) {c : Char} (hc : isLineBreak c = false) (rest : List Char) :
    withLineEnds ending (c :: rest) = c :: withLineEnds ending rest := by
  simp only [isLineBreak, Bool.or_eq_false_iff, beq_eq_false_iff_ne] at hc
  rw [withLineEnds.eq_3 _ _ _ (by simp [hc]), if_neg (by simp [hc])]

theorem Ends.withLineEnds_append (ending : List Char) {found rest : List Char} (h : Ends found rest) :
    withLineEnds ending (found ++ rest) = ending ++ withLineEnds ending rest := by
  cases h.lineEnd with
  | lineFeed => simp [withLineEnds]
  | both => simp [withLineEnds]
  | carriageReturn => rw [List.singleton_append, withLineEnds.eq_3 _ _ _ h.not_lineFeed, if_pos (by simp)]

/-- The line feeds of a text with line ends of one kind come from these line ends. -/
theorem head?_withLineEnds_carriageReturn (text : List Char) :
    (withLineEnds ['\r'] text).head? ≠ some '\n' := by
  induction text using readLines with
  | nil => simp [withLineEnds]
  | char c rest hc _ =>
    rw [withLineEnds_cons _ hc]
    rintro ⟨⟩
    cases hc
  | ending found rest h _ =>
    rw [h.withLineEnds_append]
    rintro ⟨⟩

/-- The lines of a text do not depend on how they are ended. -/
theorem lines_withLineEnds {ending : List Char} (h : LineEnd ending) (text : List Char) :
    lines (withLineEnds ending text) = lines text := by
  induction text using readLines with
  | nil => rfl
  | char c rest hc ih => rw [withLineEnds_cons _ hc, lines_cons hc, lines_cons hc, ih]
  | ending found rest hfound ih =>
    have hends : Ends ending (withLineEnds ending rest) :=
      ⟨h, by rintro rfl; exact head?_withLineEnds_carriageReturn rest⟩
    rw [hfound.withLineEnds_append, hends.lines_append, hfound.lines_append, ih]

end JsxLowering.Text
