import JsxLowering.Proofs.LineDivision
import JsxLowering.Text.Normalized
import Mathlib.Data.List.DropRight
import Mathlib.Data.List.Forall2
import Mathlib.Data.List.TakeWhile

/-!
# Text on one line

Normalization works line by line: it numbers the lines, trims the first and the last one and adds a space to one of
them.  On the whole text this is simpler, because all that comes behind the last line with content are spaces.

* `normalizeChars_eq`: the gaps at the two ends are left out, the rest is joined, and one space is added at the end if
  there is any content.
* `normalizeChars_eq_iff`: said with the place of the space, the result is the one line that the text can be put on
  (`OnOneLine`).

So nothing is lost but gaps at the ends and line ends, and the result does not depend on how a text is laid out.
-/

namespace JsxLowering.Text

/-! ### Gaps at the ends of a text -/

/-- A space or a tab. -/
def isGap (c : Char) : Bool := c == ' ' || c == '\t'

/-- Neither a space nor a tab, and no part of a line end. -/
def isContent (c : Char) : Bool := !isGap c && !isLineBreak c

/-- The text without the gaps that open its first line and those that close its last. -/
def core (text : List Char) : List Char := (text.dropWhile isGap).rdropWhile isGap

/-- The text on one line: without its line ends, and with spaces for its tabs. -/
def joined (text : List Char) : List Char := spaced (text.filter fun c => !isLineBreak c)

theorem isGap_eq_false_of_isLineBreak {c : Char} (h : isLineBreak c = true) : isGap c = false := by
  simp only [isLineBreak, Bool.or_eq_true, beq_iff_eq] at h
  rcases h with rfl | rfl <;> rfl

theorem dropWhile_append_of_head? {p : Char → Bool} {after : List Char} (h : ∃ c ∈ after.head?, p c = false)
    (before : List Char) : (before ++ after).dropWhile p = before.dropWhile p ++ after := by
  obtain ⟨c, hc, hp⟩ := h
  obtain ⟨rest, rfl⟩ := List.head?_eq_some_iff.1 hc
  rw [List.dropWhile_append]
  split
  next hempty => simp [hp, List.isEmpty_iff.1 hempty]
  next => rfl

theorem rdropWhile_append_of_getLast? {p : Char → Bool} {before : List Char}
    (h : ∃ c ∈ before.getLast?, p c = false) (after : List Char) :
    (before ++ after).rdropWhile p = before ++ after.rdropWhile p := by
  induction after using List.reverseRecOn with
  | nil =>
    obtain ⟨c, hc, hp⟩ := h
    obtain ⟨rest, rfl⟩ := List.getLast?_eq_some_iff.1 hc
    simp [hp]
  | append_singleton after d ih =>
    rw [← List.append_assoc, List.rdropWhile_concat, List.rdropWhile_concat, ih]
    split <;> simp

theorem rdropWhile_append_of_forall {p : Char → Bool} {after : List Char} (h : ∀ c ∈ after, p c)
    (before : List Char) : (before ++ after).rdropWhile p = before.rdropWhile p := by
  induction after using List.reverseRecOn with
  | nil => simp
  | append_singleton after d ih =>
    rw [← List.append_assoc, List.rdropWhile_concat_pos _ _ _ (h d (by simp)), ih fun c hc => h c (by simp [hc])]

/-- Gaps around a text are no part of its core. -/
theorem core_append {lead trail : List Char} (hlead : ∀ c ∈ lead, isGap c) (htrail : ∀ c ∈ trail, isGap c)
    (text : List Char) : core (lead ++ text ++ trail) = core text := by
  rw [core, List.append_assoc, List.dropWhile_append_of_pos hlead]
  by_cases h : text.dropWhile isGap = []
  · have hgaps : ∀ c ∈ text ++ trail, isGap c := by
      intro c hc
      rcases List.mem_append.1 hc with hc | hc
      · exact List.dropWhile_eq_nil_iff.1 h c hc
      · exact htrail c hc
    rw [core, h, List.dropWhile_eq_nil_iff.2 hgaps]
  · rw [List.dropWhile_append, if_neg (by simpa using h), rdropWhile_append_of_forall htrail, core]

/-- A text that neither starts nor ends with a gap. -/
structure Bare (text : List Char) : Prop where
  head : ∀ c ∈ text.head?, isGap c = false
  last : ∀ c ∈ text.getLast?, isGap c = false

theorem Bare.core_eq {text : List Char} (h : Bare text) : core text = text := by
  have hleft : text.dropWhile isGap = text := by
    cases text with
    | nil => rfl
    | cons c rest => simp [h.head c rfl]
  rw [core, hleft, List.rdropWhile_eq_self_iff]
  intro hne
  simp [h.last _ (List.getLast?_eq_some_getLast hne)]

theorem of_mem_head?_dropWhile {p : Char → Bool} {text : List Char} {c : Char} (h : c ∈ (text.dropWhile p).head?) :
    p c = false := by
  have hnot := List.head?_dropWhile_not p text
  rw [Option.mem_def.1 h] at hnot
  simpa using hnot

theorem of_mem_getLast?_rdropWhile {p : Char → Bool} {text : List Char} {c : Char}
    (h : c ∈ (text.rdropWhile p).getLast?) : p c = false := by
  obtain ⟨hne, rfl⟩ := List.mem_getLast?_eq_getLast h
  exact Bool.eq_false_iff.2 (List.rdropWhile_last_not p text hne)

theorem bare_core (text : List Char) : Bare (core text) where
  head := by
    intro c hc
    obtain ⟨rest, hrest⟩ := List.head?_eq_some_iff.1 hc
    obtain ⟨more, hmore⟩ : core text <+: text.dropWhile isGap := List.rdropWhile_prefix isGap _
    have hhead : c ∈ (text.dropWhile isGap).head? := by
      rw [← hmore, hrest]
      rfl
    exact of_mem_head?_dropWhile hhead
  last := fun _ hc => of_mem_getLast?_rdropWhile hc

/-- A text is its core between gaps. -/
theorem exists_core_eq (text : List Char) : ∃ lead trail, text = lead ++ core text ++ trail ∧
    (∀ c ∈ lead, isGap c) ∧ ∀ c ∈ trail, isGap c := by
  refine ⟨text.takeWhile isGap, (text.dropWhile isGap).rtakeWhile isGap, ?_, fun c hc => List.mem_takeWhile_imp hc,
    fun c hc => List.mem_rtakeWhile_imp hc⟩
  rw [core, List.append_assoc, List.rdropWhile_append_rtakeWhile, List.takeWhile_append_dropWhile]

theorem core_eq_nil_iff {text : List Char} : core text = [] ↔ ∀ c ∈ text, isGap c := by
  constructor
  · intro h
    obtain ⟨lead, trail, htext, hlead, htrail⟩ := exists_core_eq text
    rw [htext, h, List.append_nil, List.forall_mem_append]
    exact ⟨hlead, htrail⟩
  · intro h
    rw [core, List.dropWhile_eq_nil_iff.2 h, List.rdropWhile_nil]

/-! ### The lines as they are trimmed -/

theorem spaced_append (first last : List Char) : spaced (first ++ last) = spaced first ++ spaced last :=
  List.map_append

theorem joined_append (first last : List Char) : joined (first ++ last) = joined first ++ joined last := by
  rw [joined, List.filter_append, spaced_append, joined, joined]

@[simp] theorem spaced_cons (c : Char) (text : List Char) :
    spaced (c :: text) = (if c = '\t' then ' ' else c) :: spaced text := rfl

theorem dropWhile_spaced {p : Char → Bool} (hp : ∀ c, p (if c = '\t' then ' ' else c) = isGap c)
    (text : List Char) : (spaced text).dropWhile p = spaced (text.dropWhile isGap) := by
  rw [spaced, List.dropWhile_map, show (p ∘ fun c => if c = '\t' then ' ' else c) = isGap from funext hp, spaced]

theorem rdropWhile_spaced {p : Char → Bool} (hp : ∀ c, p (if c = '\t' then ' ' else c) = isGap c)
    (text : List Char) : (spaced text).rdropWhile p = spaced (text.rdropWhile isGap) := by
  induction text using List.reverseRecOn with
  | nil => rfl
  | append_singleton text c ih =>
    have hlast : spaced [c] = [if c = '\t' then ' ' else c] := rfl
    rw [spaced_append, hlast, List.rdropWhile_concat, List.rdropWhile_concat, hp, ih]
    split
    · rfl
    · rw [spaced_append, hlast]

theorem trimLeft_spaced (line : List Char) : trimLeft (spaced line) = spaced (line.dropWhile isGap) :=
  dropWhile_spaced (by grind [isGap]) line

theorem trimRight_spaced (line : List Char) : trimRight (spaced line) = spaced (line.rdropWhile isGap) :=
  rdropWhile_spaced (by grind [isGap]) line

/-- The lines of a text, spaced and trimmed. -/
def trimmedLines (ls : List (List Char)) : List (List Char) :=
  ls.zipIdx.map fun entry => trimmedLine ls.length entry.2 entry.1

theorem trimmedLines_singleton (line : List Char) : trimmedLines [line] = [spaced (core line)] := by
  simp [trimmedLines, trimmedLine, trimLeft_spaced, trimRight_spaced, core]

theorem trimmedLines_outer (first last : List Char) (inner : List (List Char)) :
    trimmedLines (first :: (inner ++ [last])) =
      spaced (first.dropWhile isGap) :: (inner.map spaced ++ [spaced (last.rdropWhile isGap)]) := by
  have hfirst : trimmedLine (inner.length + 2) 0 first = spaced (first.dropWhile isGap) := by
    simp [trimmedLine, trimLeft_spaced]
  have hinner : (inner.zipIdx 1).map (fun entry => trimmedLine (inner.length + 2) entry.2 entry.1) =
      inner.map spaced := by
    rw [← List.zipIdx_map_fst 1 (inner.map spaced), List.zipIdx_map, List.map_map]
    refine List.map_congr_left fun entry hentry => ?_
    have := List.mem_zipIdx hentry
    simp [trimmedLine, show entry.2 ≠ 0 by omega, show entry.2 ≠ inner.length + 1 by omega]
  have hlast : trimmedLine (inner.length + 2) (inner.length + 1) last = spaced (last.rdropWhile isGap) := by
    simp [trimmedLine, trimRight_spaced]
  simp [trimmedLines, List.zipIdx_append, hfirst, hinner, hlast, Nat.add_comm 1]

/-- What is removed at the start of a text is not seen by a filter that leaves it out. -/
theorem filter_dropWhile (p : Char → Bool) (text : List Char) :
    (text.dropWhile p).filter (fun c => !p c) = text.filter fun c => !p c := by
  have hstart : ((text.takeWhile p).filter fun c => !p c) = [] := by
    simpa using fun c hc => List.mem_takeWhile_imp hc
  conv_rhs => rw [← List.takeWhile_append_dropWhile (p := p) (l := text), List.filter_append, hstart, List.nil_append]

theorem filter_rdropWhile (p : Char → Bool) (text : List Char) :
    (text.rdropWhile p).filter (fun c => !p c) = text.filter fun c => !p c := by
  have hreverse := filter_dropWhile p text.reverse
  rw [← List.reverse_reverse text, List.rdropWhile_reverse, List.filter_reverse, hreverse, List.filter_reverse,
    List.reverse_reverse, List.reverse_reverse]

theorem filter_spaced (line : List Char) :
    (spaced line).filter (fun c => !isGap c) = line.filter fun c => !isGap c := by
  induction line with
  | nil => rfl
  | cons c line ih =>
    by_cases hc : c = '\t'
    · subst hc
      simpa [isGap] using ih
    · simp [hc, List.filter_cons, ih]

/-- Trimming removes nothing but gaps. -/
theorem exists_trimmedLine_eq (count i : Nat) (line : List Char) : ∃ part, trimmedLine count i line = spaced part ∧
    (part.filter fun c => !isGap c) = line.filter fun c => !isGap c := by
  simp only [trimmedLine]
  split <;> split
  · exact ⟨_, by rw [trimLeft_spaced, trimRight_spaced], by rw [filter_rdropWhile, filter_dropWhile]⟩
  · exact ⟨_, trimRight_spaced line, filter_rdropWhile isGap line⟩
  · exact ⟨_, trimLeft_spaced line, filter_dropWhile isGap line⟩
  · exact ⟨line, rfl, rfl⟩

theorem ne_tab_of_mem_spaced {line : List Char} {c : Char} (h : c ∈ spaced line) : c ≠ '\t' := by
  obtain ⟨d, -, rfl⟩ := List.mem_map.1 h
  split
  · decide
  · assumption

theorem hasContent_eq_any (line : List Char) : hasContent line = line.any fun c => !isGap c := by
  simp only [hasContent, isGap, Bool.not_or]
  rfl

theorem hasContent_iff {line : List Char} : hasContent line ↔ (line.filter fun c => !isGap c) ≠ [] := by
  simp [hasContent_eq_any]

theorem trimmedLine_ne_nil {line : List Char} (h : hasContent line = true) (count i : Nat) :
    trimmedLine count i line ≠ [] := by
  obtain ⟨part, hpart, hfilter⟩ := exists_trimmedLine_eq count i line
  rw [hpart]
  intro hnil
  rw [hasContent_iff, ← hfilter, ← filter_spaced, hnil] at h
  exact h rfl

/-- A line without content leaves only spaces. -/
theorem eq_space_of_mem_trimmedLine {line : List Char} (h : hasContent line = false) {count i : Nat} {c : Char}
    (hc : c ∈ trimmedLine count i line) : c = ' ' := by
  obtain ⟨part, hpart, hfilter⟩ := exists_trimmedLine_eq count i line
  rw [hpart] at hc
  have hgap : isGap c := by
    by_contra hnot
    have hmem : c ∈ (spaced part).filter fun c => !isGap c := by simpa [hc] using hnot
    rw [filter_spaced, hfilter] at hmem
    exact Bool.false_ne_true (h.symm.trans (hasContent_iff.2 (List.ne_nil_of_mem hmem)))
  simpa [isGap, ne_tab_of_mem_spaced hc] using hgap

/-! ### The closing space -/

/-- The last element of a list that satisfies a condition. -/
theorem exists_last_of_any {α : Type} {p : α → Bool} {l : List α} (h : l.any p = true) :
    ∃ before a after, l = before ++ a :: after ∧ p a = true ∧ ∀ b ∈ after, p b = false := by
  induction l with
  | nil => cases h
  | cons a l ih =>
    by_cases hl : l.any p = true
    · obtain ⟨before, b, after, rfl, hb, hafter⟩ := ih hl
      exact ⟨a :: before, b, after, rfl, hb, hafter⟩
    · have ha : p a = true := by simpa [hl] using h
      exact ⟨[], a, l, rfl, ha, by simpa using hl⟩

theorem lastContentLine_of_forall {ls : List (List Char)} (h : ∀ line ∈ ls, hasContent line = false) :
    lastContentLine ls = 0 := by
  have hnone : (ls.zipIdx.filter fun entry => hasContent entry.1) = [] := by
    rw [List.filter_eq_nil_iff]
    intro entry hentry
    simp [h entry.1 (List.fst_mem_of_mem_zipIdx hentry)]
  exact congrArg (List.foldl _ 0) hnone

theorem lastContentLine_append {line : List Char} {before after : List (List Char)} (hline : hasContent line = true)
    (hafter : ∀ line ∈ after, hasContent line = false) : lastContentLine (before ++ line :: after) = before.length := by
  have hnone : ((after.zipIdx (before.length + 1)).filter fun entry => hasContent entry.1) = [] := by
    rw [List.filter_eq_nil_iff]
    intro entry hentry
    simp [hafter entry.1 (List.fst_mem_of_mem_zipIdx hentry)]
  simp [lastContentLine, List.zipIdx_append, hline, hnone]

theorem map_lineContribution_of_ne {count last : Nat} {entries : List (List Char × Nat)}
    (h : ∀ entry ∈ entries, entry.2 ≠ last) :
    (entries.map fun entry => lineContribution count last entry.2 entry.1) =
      entries.map fun entry => trimmedLine count entry.2 entry.1 := by
  refine List.map_congr_left fun entry hentry => ?_
  have hne := h entry hentry
  rw [lineContribution]
  split <;> simp_all

theorem lineContribution_of_hasContent {line : List Char} (h : hasContent line = true) (count i : Nat) :
    lineContribution count i i line = trimmedLine count i line ++ [' '] := by
  have hne := trimmedLine_ne_nil h count i
  rw [lineContribution]
  split <;> simp_all

/-- A first line without content contributes nothing, even where it counts as the last line with content. -/
theorem lineContribution_zero {line : List Char} (h : hasContent line = false) (count : Nat) :
    lineContribution count 0 0 line = trimmedLine count 0 line := by
  have hgaps : line.dropWhile isGap = [] := by simpa [hasContent_eq_any] using h
  have hnil : trimmedLine count 0 line = [] := by
    simp only [trimmedLine, trimLeft_spaced, hgaps, if_true]
    split <;> rfl
  rw [lineContribution, hnil]

theorem cons_space_eq {text : List Char} (h : ∀ c ∈ text, c = ' ') : ' ' :: text = text ++ [' '] := by
  rw [List.eq_replicate_of_mem h, ← List.replicate_succ, List.replicate_succ']

/-- The lines contribute what trimming leaves of them, and one space is added if there is content.  The space is put
behind the last line with content, but only spaces come after it. -/
theorem flatten_contributions (ls : List (List Char)) :
    (ls.zipIdx.map fun entry => lineContribution ls.length (lastContentLine ls) entry.2 entry.1).flatten =
      (trimmedLines ls).flatten ++ if ls.any hasContent then [' '] else [] := by
  by_cases hcontent : ls.any hasContent = true
  · obtain ⟨before, line, after, rfl, hline, hafter⟩ := exists_last_of_any hcontent
    rw [if_pos hcontent, lastContentLine_append hline hafter, trimmedLines]
    generalize (before ++ line :: after).length = count
    have hbefore : ∀ entry ∈ before.zipIdx, entry.2 ≠ before.length := by
      intro entry hentry
      have := List.mem_zipIdx hentry
      omega
    have hbehind : ∀ entry ∈ after.zipIdx (before.length + 1), entry.2 ≠ before.length := by
      intro entry hentry
      have := List.mem_zipIdx hentry
      omega
    have hspaces : ∀ c ∈ ((after.zipIdx (before.length + 1)).map fun entry =>
        trimmedLine count entry.2 entry.1).flatten, c = ' ' := by
      simp only [List.mem_flatten, List.mem_map]
      rintro c ⟨_, ⟨entry, hentry, rfl⟩, hc⟩
      exact eq_space_of_mem_trimmedLine (hafter _ (List.fst_mem_of_mem_zipIdx hentry)) hc
    simp [List.zipIdx_append, map_lineContribution_of_ne hbefore, map_lineContribution_of_ne hbehind,
      lineContribution_of_hasContent hline, cons_space_eq hspaces]
  · have hnone : ∀ line ∈ ls, hasContent line = false := by simpa using hcontent
    rw [if_neg hcontent, lastContentLine_of_forall hnone, List.append_nil, trimmedLines]
    congr 1
    cases ls with
    | nil => rfl
    | cons line ls =>
      have hrest : ∀ entry ∈ ls.zipIdx 1, entry.2 ≠ 0 := by
        intro entry hentry
        have := List.mem_zipIdx hentry
        omega
      simp only [List.zipIdx_cons, List.map_cons, Nat.zero_add, map_lineContribution_of_ne hrest,
        lineContribution_zero (hnone line List.mem_cons_self)]

/-! ### The normal form of a text -/

theorem joined_of_plain {text : List Char} (h : ∀ c ∈ text, isLineBreak c = false) : joined text = spaced text := by
  rw [joined, List.filter_eq_self.2 (by simpa using h)]

theorem mem_of_mem_core {text : List Char} {c : Char} (h : c ∈ core text) : c ∈ text :=
  (List.dropWhile_sublist isGap).subset ((List.rdropWhile_prefix isGap _).subset h)

/-- The line ends around the inner lines keep the gaps there out of reach of trimming. -/
theorem OuterLines.core_eq {text first between last : List Char} {inner : List (List Char)}
    (h : OuterLines text first between last inner) :
    core text = first.dropWhile isGap ++ between ++ last.rdropWhile isGap := by
  obtain ⟨b, hb, hbreak⟩ := h.opens
  obtain ⟨d, hd, hbreak'⟩ := h.closes
  have hopens : ∃ c ∈ (between ++ last).head?, isGap c = false :=
    ⟨b, by simp_all [List.head?_append], isGap_eq_false_of_isLineBreak hbreak⟩
  have hcloses : ∃ c ∈ (first.dropWhile isGap ++ between).getLast?, isGap c = false :=
    ⟨d, by simp_all [List.getLast?_append], isGap_eq_false_of_isLineBreak hbreak'⟩
  rw [core, h.text_eq, List.append_assoc, dropWhile_append_of_head? hopens, ← List.append_assoc,
    rdropWhile_append_of_getLast? hcloses]

/-- What trimming leaves of the lines is the core of the text. -/
theorem flatten_trimmedLines (text : List Char) : (trimmedLines (lines text)).flatten = joined (core text) := by
  rcases exists_outer_lines text with ⟨hlines, hplain⟩ | ⟨first, between, last, inner, h⟩
  · rw [hlines, trimmedLines_singleton, joined_of_plain fun c hc => hplain c (mem_of_mem_core hc),
      List.flatten_singleton]
  · have hfirst : joined (first.dropWhile isGap) = spaced (first.dropWhile isGap) :=
      joined_of_plain fun c hc => h.first_plain c ((List.dropWhile_sublist isGap).subset hc)
    have hlast : joined (last.rdropWhile isGap) = spaced (last.rdropWhile isGap) :=
      joined_of_plain fun c hc => h.last_plain c ((List.rdropWhile_prefix isGap last).subset hc)
    have hinner : (inner.map spaced).flatten = joined between := by
      rw [joined, ← h.flatten_inner]
      exact List.map_flatten.symm
    rw [h.core_eq, h.lines_eq, trimmedLines_outer, joined_append, joined_append, hfirst, hlast, ← hinner]
    simp

theorem any_hasContent_lines (text : List Char) : (lines text).any hasContent = text.any isContent := by
  have hlines : hasContent = fun line : List Char => line.any fun c => !isGap c :=
    funext hasContent_eq_any
  rw [hlines, ← List.any_flatten, flatten_lines, List.any_filter]
  exact congrArg text.any (funext fun c => Bool.and_comm _ _)

/-- What a text given by its characters is normalized to. -/
def normalizeChars (text : List Char) : List Char :=
  joinLines (lines text)

/-- A text is normalized by joining its core and adding one space if it has content. -/
theorem normalizeChars_eq (text : List Char) :
    normalizeChars text = joined (core text) ++ if text.any isContent then [' '] else [] := by
  rw [← flatten_trimmedLines, ← any_hasContent_lines]
  exact flatten_contributions (lines text)

/-! ### Text on one line -/

theorem mem_joined {text : List Char} {c : Char} (h : c ∈ joined text) : isLineBreak c = false ∧ c ≠ '\t' := by
  refine ⟨?_, ne_tab_of_mem_spaced h⟩
  obtain ⟨d, hd, rfl⟩ := List.mem_map.1 h
  split
  · rfl
  · simpa using (List.mem_filter.1 hd).2

/-- Joining keeps the content. -/
theorem filter_isContent_joined (text : List Char) : (joined text).filter isContent = text.filter isContent := by
  calc (joined text).filter isContent
      = (joined text).filter fun c => !isGap c := List.filter_congr fun c hc => by simp [isContent, (mem_joined hc).1]
    _ = (text.filter fun c => !isLineBreak c).filter fun c => !isGap c := filter_spaced _
    _ = text.filter isContent := List.filter_filter

theorem eq_space_of_mem_joined {text : List Char} (h : ∀ c ∈ text, isContent c = false) {c : Char}
    (hc : c ∈ joined text) : c = ' ' := by
  have hnone : (joined text).filter isContent = [] := by
    rw [filter_isContent_joined]
    simpa using h
  have hblank : isContent c = false := by simpa using List.filter_eq_nil_iff.1 hnone c hc
  obtain ⟨hplain, htab⟩ := mem_joined hc
  simpa [isContent, isGap, hplain, htab] using hblank

/-- The last line with content, between the texts before it and after it. -/
structure LastContent (before line after : List Char) : Prop where
  opens : ∀ c ∈ before.getLast?, isLineBreak c
  closes : ∀ c ∈ after.head?, isLineBreak c
  plain : ∀ c ∈ line, isLineBreak c = false
  content : ∃ c ∈ line, isGap c = false
  last : ∀ c ∈ after, isContent c = false

/-- A text, and the same text on one line.  Of the joined text the spaces that open the first line and those that close
the last one are left out; joining goes part by part, so this is the joined text of what stands between these gaps.  If
a line has content, one space is put in where the last such line ends. -/
inductive OnOneLine : List Char → List Char → Prop
  | blank {lead body trail : List Char} (hlead : ∀ c ∈ lead, isGap c) (htrail : ∀ c ∈ trail, isGap c)
      (hbody : Bare body) (h : ∀ c ∈ body, isContent c = false) : OnOneLine (lead ++ body ++ trail) (joined body)
  | content {lead before line after trail : List Char} (hlead : ∀ c ∈ lead, isGap c) (htrail : ∀ c ∈ trail, isGap c)
      (hbody : Bare (before ++ line ++ after)) (h : LastContent before line after) :
      OnOneLine (lead ++ (before ++ line ++ after) ++ trail) (joined (before ++ line) ++ ' ' :: joined after)

theorem isContent_eq_false_of_isGap {c : Char} (h : isGap c = true) : isContent c = false := by
  simp [isContent, h]

theorem filter_isContent_append {lead trail : List Char} (hlead : ∀ c ∈ lead, isGap c) (htrail : ∀ c ∈ trail, isGap c)
    (text : List Char) : (lead ++ text ++ trail).filter isContent = text.filter isContent := by
  have hleft : lead.filter isContent = [] := by
    simpa using fun c hc => isContent_eq_false_of_isGap (hlead c hc)
  have hright : trail.filter isContent = [] := by
    simpa using fun c hc => isContent_eq_false_of_isGap (htrail c hc)
  rw [List.filter_append, List.filter_append, hleft, hright, List.nil_append, List.append_nil]

theorem any_isContent_append {lead trail : List Char} (hlead : ∀ c ∈ lead, isGap c) (htrail : ∀ c ∈ trail, isGap c)
    (text : List Char) : (lead ++ text ++ trail).any isContent = text.any isContent := by
  have hfilter : ∀ l : List Char, l.any isContent = (l.filter isContent).any fun _ => true := by simp [List.any_filter]
  rw [hfilter, filter_isContent_append hlead htrail, ← hfilter]

theorem exists_lastContent {text : List Char} (h : text.any isContent = true) :
    ∃ before line after, text = before ++ line ++ after ∧ LastContent before line after := by
  obtain ⟨left, c, right, rfl, hc, hright⟩ := exists_last_of_any h
  obtain ⟨hgap, hplain⟩ : isGap c = false ∧ isLineBreak c = false := by simpa [isContent] using hc
  -- the line reaches from the content to the nearest line ends
  refine ⟨left.rdropWhile (fun c => !isLineBreak c),
    left.rtakeWhile (fun c => !isLineBreak c) ++ c :: right.takeWhile (fun c => !isLineBreak c),
    right.dropWhile (fun c => !isLineBreak c), ?_, ?_⟩
  · rw [← List.append_assoc, List.rdropWhile_append_rtakeWhile, List.append_assoc, List.cons_append,
      List.takeWhile_append_dropWhile]
  · exact {
      opens := fun d hd => by simpa using of_mem_getLast?_rdropWhile hd
      closes := fun d hd => by simpa using of_mem_head?_dropWhile hd
      plain := by
        intro d hd
        rcases List.mem_append.1 hd with hd | hd
        · simpa using List.mem_rtakeWhile_imp hd
        · rcases List.mem_cons.1 hd with rfl | hd
          · exact hplain
          · simpa using List.mem_takeWhile_imp hd
      content := ⟨c, by simp, hgap⟩
      last := fun d hd => hright d ((List.dropWhile_sublist _).subset hd) }

theorem OnOneLine.normalizeChars_eq {text result : List Char} (h : OnOneLine text result) :
    normalizeChars text = result := by
  cases h with
  | @blank lead body trail hlead htrail hbody h =>
    have hnone : body.any isContent = false := by simpa using h
    rw [Text.normalizeChars_eq, core_append hlead htrail, hbody.core_eq, any_isContent_append hlead htrail, hnone]
    simp
  | @content lead before line after trail hlead htrail hbody h =>
    obtain ⟨c, hc, hgap⟩ := h.content
    have hsome : (before ++ line ++ after).any isContent = true :=
      List.any_eq_true.2 ⟨c, by simp [hc], by simp [isContent, hgap, h.plain c hc]⟩
    rw [Text.normalizeChars_eq, core_append hlead htrail, hbody.core_eq, any_isContent_append hlead htrail, hsome,
      if_pos rfl, joined_append, List.append_assoc, ← cons_space_eq fun c hc => eq_space_of_mem_joined h.last hc]

theorem exists_onOneLine (text : List Char) : ∃ result, OnOneLine text result := by
  obtain ⟨lead, trail, htext, hlead, htrail⟩ := exists_core_eq text
  have hbare := bare_core text
  rw [htext]
  by_cases h : (core text).any isContent = true
  · obtain ⟨before, line, after, hcore, hline⟩ := exists_lastContent h
    rw [hcore] at hbare ⊢
    exact ⟨_, .content hlead htrail hbare hline⟩
  · exact ⟨_, .blank hlead htrail hbare (by simpa using h)⟩

/-- A text is put on one line in one way. -/
theorem normalizeChars_eq_iff {text result : List Char} : normalizeChars text = result ↔ OnOneLine text result := by
  refine ⟨?_, OnOneLine.normalizeChars_eq⟩
  rintro rfl
  obtain ⟨result, h⟩ := exists_onOneLine text
  rwa [h.normalizeChars_eq]

theorem normalize_eq (text : String) : normalize text = String.ofList (normalizeChars text.toList) := by
  rw [normalize, map_toList_splitLines, normalizeChars]

theorem toList_normalize (text : String) : (normalize text).toList = normalizeChars text.toList := by
  rw [normalize_eq, String.toList_ofList]

theorem filter_isContent_joined_core (text : List Char) :
    (joined (core text)).filter isContent = text.filter isContent := by
  obtain ⟨lead, trail, htext, hlead, htrail⟩ := exists_core_eq text
  conv_rhs => rw [htext, filter_isContent_append hlead htrail]
  exact filter_isContent_joined (core text)

theorem filter_isContent_normalizeChars (text : List Char) :
    (normalizeChars text).filter isContent = text.filter isContent := by
  have hspace : (if text.any isContent then [' '] else []).filter isContent = [] := by split <;> rfl
  rw [normalizeChars_eq, List.filter_append, hspace, List.append_nil, filter_isContent_joined_core]

theorem mem_normalizeChars {text : List Char} {c : Char} (h : c ∈ normalizeChars text) :
    isLineBreak c = false ∧ c ≠ '\t' := by
  rw [normalizeChars_eq, List.mem_append] at h
  rcases h with h | h
  · exact mem_joined h
  · split at h
    · rw [List.mem_singleton.1 h]
      decide
    · cases h

theorem length_normalizeChars_le (text : List Char) : (normalizeChars text).length ≤ text.length + 1 := by
  have hcore : (core text).length ≤ text.length :=
    (List.rdropWhile_prefix isGap _).length_le.trans (List.dropWhile_sublist isGap).length_le
  have hjoined : (joined (core text)).length ≤ (core text).length := by
    rw [joined, spaced, List.length_map]
    exact List.length_filter_le _ _
  have hspace : (if text.any isContent then [' '] else []).length ≤ 1 := by split <;> simp
  rw [normalizeChars_eq, List.length_append]
  omega

/-- A text is normalized to the one line that it can be put on, which holds its content in order and neither line ends
nor tabs, and is at most one character longer than the text. -/
theorem normalize_puts_on_one_line (text : String) :
    (∀ result : String, normalize text = result ↔ OnOneLine text.toList result.toList) ∧
    (normalize text).toList.filter isContent = text.toList.filter isContent ∧
    (∀ c ∈ (normalize text).toList, c ≠ '\r' ∧ c ≠ '\n' ∧ c ≠ '\t') ∧
    (normalize text).length ≤ text.length + 1 := by
  refine ⟨fun result => ?_, ?_, fun c hc => ?_, ?_⟩
  · rw [← normalizeChars_eq_iff, ← toList_normalize, String.toList_inj]
  · rw [toList_normalize, filter_isContent_normalizeChars]
  · rw [toList_normalize] at hc
    obtain ⟨hplain, htab⟩ := mem_normalizeChars hc
    refine ⟨?_, ?_, htab⟩
    · rintro rfl
      cases hplain
    · rintro rfl
      cases hplain
  · rw [← String.length_toList, ← String.length_toList, toList_normalize]
    exact length_normalizeChars_le text.toList

/-- Spaces that open a line with tabs and a carriage return before it, and blank lines behind the content. -/
theorem normalize_indented_line :
    OnOneLine " \t\r\n  one\ttwo \n \n ".toList "  one two   ".toList ∧
      'w' ∈ (normalize " \t\r\n  one\ttwo \n \n ").toList ∧ 'w' ≠ '\r' ∧ 'w' ≠ '\n' ∧ 'w' ≠ '\t' := by
  obtain ⟨honly, -, hplain, -⟩ := normalize_puts_on_one_line " \t\r\n  one\ttwo \n \n "
  have hmem : 'w' ∈ (normalize " \t\r\n  one\ttwo \n \n ").toList := by decide +kernel
  exact ⟨(honly _).1 (by decide +kernel), hmem, hplain 'w' hmem⟩

/-! ### What makes no difference -/

theorem normalizeChars_withLineEnds {ending : List Char} (h : LineEnd ending) (text : List Char) :
    normalizeChars (withLineEnds ending text) = normalizeChars text := by
  simp only [normalizeChars, lines_withLineEnds h]

theorem normalizeChars_append {lead trail : List Char} (hlead : ∀ c ∈ lead, isGap c) (htrail : ∀ c ∈ trail, isGap c)
    (text : List Char) : normalizeChars (lead ++ text ++ trail) = normalizeChars text := by
  rw [normalizeChars_eq, normalizeChars_eq, core_append hlead htrail, any_isContent_append hlead htrail]

theorem core_spaced (text : List Char) : core (spaced text) = spaced (core text) := by
  have hgap : ∀ c, isGap (if c = '\t' then ' ' else c) = isGap c := by grind [isGap]
  rw [core, dropWhile_spaced hgap, rdropWhile_spaced hgap, core]

theorem joined_spaced (text : List Char) : joined (spaced text) = joined text := by
  induction text with
  | nil => rfl
  | cons c text ih =>
    rw [joined, joined] at ih ⊢
    by_cases hc : c = '\t'
    · subst hc
      simpa [isLineBreak] using ih
    · by_cases hbreak : isLineBreak c <;> simp [hc, hbreak, ih]

theorem any_isContent_spaced (text : List Char) : (spaced text).any isContent = text.any isContent := by
  have hcontent : (isContent ∘ fun c => if c = '\t' then ' ' else c) = isContent := by
    funext c
    grind [isContent, isGap]
  rw [spaced, List.any_map, hcontent]

theorem normalizeChars_spaced (text : List Char) : normalizeChars (spaced text) = normalizeChars text := by
  rw [normalizeChars_eq, normalizeChars_eq, core_spaced, joined_spaced, any_isContent_spaced]

/-- The same character, or a space for a tab. -/
def SameOrSpaced (c d : Char) : Prop := d = c ∨ c = '\t' ∧ d = ' '

theorem spaced_eq_of_forall₂ {text other : List Char} (h : List.Forall₂ SameOrSpaced text other) :
    spaced other = spaced text := by
  induction h with
  | nil => rfl
  | cons hchar _ ih => rcases hchar with rfl | ⟨rfl, rfl⟩ <;> simp [ih]

/-- Normalization does not see which line ends a text has, how far its outer ends are indented, and whether its gaps
are tabs or spaces. -/
theorem normalize_ignores_layout (text : String) :
    (∀ ending, LineEnd ending → normalize (.ofList (withLineEnds ending text.toList)) = normalize text) ∧
    (∀ lead trail : String, (∀ c ∈ lead.toList, isGap c) → (∀ c ∈ trail.toList, isGap c) →
      normalize (lead ++ text ++ trail) = normalize text) ∧
    ∀ other : String, List.Forall₂ SameOrSpaced text.toList other.toList → normalize other = normalize text := by
  refine ⟨fun ending h => ?_, fun lead trail hlead htrail => ?_, fun other h => ?_⟩
  · rw [normalize_eq, String.toList_ofList, normalizeChars_withLineEnds h, normalize_eq]
  · rw [normalize_eq, String.toList_append, String.toList_append, normalizeChars_append hlead htrail, normalize_eq]
  · rw [normalize_eq, ← normalizeChars_spaced, spaced_eq_of_forall₂ h, normalizeChars_spaced, normalize_eq]

/-- One text with carriage returns for its line ends, with gaps around it, and with a space for its tab. -/
theorem normalize_three_layouts :
    normalize (.ofList (withLineEnds ['\r'] "a\r\n\tb\n\n".toList)) = normalize "a\r\n\tb\n\n" ∧
      normalize ("\t " ++ "a\r\n\tb\n\n" ++ " ") = normalize "a\r\n\tb\n\n" ∧
      normalize "a\r\n b\n\n" = normalize "a\r\n\tb\n\n" ∧ normalize "a\r\n\tb\n\n" = "a b " := by
  obtain ⟨hends, hgaps, htabs⟩ := normalize_ignores_layout "a\r\n\tb\n\n"
  have hlead : ∀ c ∈ "\t ".toList, isGap c := List.all_eq_true.1 (by decide)
  have htrail : ∀ c ∈ " ".toList, isGap c := List.all_eq_true.1 (by decide)
  have hother : List.Forall₂ SameOrSpaced "a\r\n\tb\n\n".toList "a\r\n b\n\n".toList :=
    .cons (.inl rfl) (.cons (.inl rfl) (.cons (.inl rfl) (.cons (.inr ⟨rfl, rfl⟩) (.cons (.inl rfl)
      (.cons (.inl rfl) (.cons (.inl rfl) .nil))))))
  exact ⟨hends _ .carriageReturn, hgaps _ _ hlead htrail, htabs _ hother, by decide +kernel⟩

end JsxLowering.Text
