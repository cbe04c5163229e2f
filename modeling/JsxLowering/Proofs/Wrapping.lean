import JsxLowering.Text.Collapsed
import Mathlib.Data.List.Chain
import Mathlib.Data.List.TakeWhile
import Mathlib.Logic.ExistsUnique

/-!
# Wrapped text

A wrap is a line feed with the blanks after it, of which there is at least one.  A text is empty, or starts with a wrap
that takes in all blanks up to the next character that is none, or starts with a character that begins no wrap;
`readWraps` is the induction along these cases, with one equation of `collapseChars` for each.

* `existsUnique_splits`: a text has one division into wraps and kept parts in which no wrap could be longer (`Splits`).
* `Splits.collapseChars_eq`: collapsing puts one space between the kept parts of this division.
* `unwrapped_collapseChars`, `length_collapseChars_lt`: no wrap is left and none arises, and every text gets shorter
  unless it has no wraps.
-/

namespace JsxLowering.Text

/-! ### Wraps -/

/-- A line feed and the blanks after it, at least one. -/
def IsWrap (run : List Char) : Prop := ∃ blanks, run = '\n' :: blanks ∧ blanks ≠ [] ∧ ∀ c ∈ blanks, isBlank c

/-- The text does not start with a blank. -/
def Flush (text : List Char) : Prop := ∀ c ∈ text.head?, isBlank c = false

/-- No line feed of the text has a blank after it. -/
def Unwrapped (text : List Char) : Prop := text.IsChain fun c next => c = '\n' → isBlank next = false

section

variable {c : Char} {run rest : List Char}

theorem IsWrap.two_le_length (h : IsWrap run) : 2 ≤ run.length := by
  obtain ⟨blanks, rfl, hne, -⟩ := h
  have := List.length_pos_iff.2 hne
  rw [List.length_cons]
  omega

theorem flush_dropWhile (text : List Char) : Flush (text.dropWhile isBlank) := by
  intro c hc
  have hnot := List.head?_dropWhile_not isBlank text
  rw [Option.mem_def.1 hc] at hnot
  simpa using hnot

theorem Flush.takeWhile_eq (h : Flush rest) : rest.takeWhile isBlank = [] := by
  cases rest with
  | nil => rfl
  | cons d rest => simp [h d rfl]

theorem Flush.takeWhile_append (h : Flush rest) {blanks : List Char} (hblanks : ∀ c ∈ blanks, isBlank c) :
    (blanks ++ rest).takeWhile isBlank = blanks := by
  rw [List.takeWhile_append_of_pos hblanks, h.takeWhile_eq, List.append_nil]

theorem IsWrap.exists_tail (h : IsWrap run) (rest : List Char) : ∃ tail, run ++ rest = '\n' :: tail ∧ ¬ Flush tail := by
  obtain ⟨blanks, rfl, hne, hblanks⟩ := h
  obtain ⟨b, more, rfl⟩ := List.exists_cons_of_ne_nil hne
  refine ⟨b :: more ++ rest, rfl, fun hflush => ?_⟩
  have hb : isBlank b = false := hflush b rfl
  rw [hblanks b (by simp)] at hb
  cases hb

theorem IsWrap.not_flush (h : IsWrap run) (rest : List Char) : ¬ Flush (run ++ rest) := by
  obtain ⟨tail, htail, -⟩ := h.exists_tail rest
  rw [htail]
  intro hflush
  exact absurd (hflush '\n' rfl) (by decide)

theorem IsWrap.append_inj {run' rest' : List Char} (hrun : IsWrap run) (hrest : Flush rest) (hrun' : IsWrap run')
    (hrest' : Flush rest') (h : run ++ rest = run' ++ rest') : run = run' ∧ rest = rest' := by
  obtain ⟨blanks, rfl, -, hblanks⟩ := hrun
  obtain ⟨blanks', rfl, -, hblanks'⟩ := hrun'
  have htail : blanks ++ rest = blanks' ++ rest' := (List.cons.inj h).2
  have hsame : blanks = blanks' := by
    rw [← hrest.takeWhile_append hblanks, htail, hrest'.takeWhile_append hblanks']
  subst hsame
  exact ⟨rfl, List.append_cancel_left htail⟩

theorem unwrapped_cons_iff : Unwrapped (c :: rest) ↔ (c = '\n' → Flush rest) ∧ Unwrapped rest := by
  rw [Unwrapped, List.isChain_cons]
  exact and_congr_left fun _ => ⟨fun h hc d hd => h d hd hc, fun h d hd hc => h hc d hd⟩

/-- Induction over a text as it is read: character by character, with wraps in one piece. -/
@[elab_as_elim]
theorem readWraps {motive : List Char → Prop} (nil : motive [])
    (char : ∀ c rest, (c = '\n' → Flush rest) → motive rest → motive (c :: rest))
    (wrap : ∀ run rest, IsWrap run → Flush rest → motive rest → motive (run ++ rest)) (text : List Char) :
    motive text := by
  induction hn : text.length using Nat.strong_induction_on generalizing text with
  | _ n ih =>
    subst hn
    cases text with
    | nil => exact nil
    | cons c rest =>
      by_cases hc : c = '\n' → Flush rest
      · exact char c rest hc (ih rest.length (by simp) rest rfl)
      · -- the wrap takes in all blanks, so that what comes after it is flush
        obtain ⟨rfl, hflush⟩ := Classical.not_imp.1 hc
        have hrun : IsWrap ('\n' :: rest.takeWhile isBlank) := by
          refine ⟨_, rfl, fun hnil => hflush ?_, fun c hc => List.mem_takeWhile_imp hc⟩
          rw [← List.takeWhile_append_dropWhile (p := isBlank) (l := rest), hnil]
          exact flush_dropWhile rest
        have hshort : (rest.dropWhile isBlank).length < ('\n' :: rest).length :=
          Nat.lt_succ_of_le (List.dropWhile_sublist isBlank).length_le
        rw [← List.takeWhile_append_dropWhile (p := isBlank) (l := rest)]
        exact wrap _ _ hrun (flush_dropWhile rest) (ih _ hshort _ rfl)

/-! ### Collapsing, case by case -/

theorem collapseAfter_eq_drop (skip : Nat) (text : List Char) :
    collapseAfter skip text = collapseChars (text.drop skip) := by
  induction text generalizing skip with
  | nil => cases skip <;> rfl
  | cons c rest ih =>
    cases skip with
    | zero => rfl
    | succ skip => exact ih skip

theorem collapseChars_cons (hc : c = '\n' → Flush rest) : collapseChars (c :: rest) = c :: collapseChars rest := by
  have hnone : ¬ (c = '\n' ∧ 0 < (rest.takeWhile isBlank).length) := by
    rintro ⟨hfeed, hrun⟩
    rw [(hc hfeed).takeWhile_eq] at hrun
    cases hrun
  rw [collapseChars, collapseAfter, if_neg hnone, collapseChars]

theorem collapseChars_wrap (hrun : IsWrap run) (hrest : Flush rest) :
    collapseChars (run ++ rest) = ' ' :: collapseChars rest := by
  obtain ⟨blanks, rfl, hne, hblanks⟩ := hrun
  have htake : (blanks ++ rest).takeWhile isBlank = blanks := hrest.takeWhile_append hblanks
  rw [collapseChars, List.cons_append, collapseAfter, htake, if_pos ⟨rfl, List.length_pos_iff.2 hne⟩,
    collapseAfter_eq_drop, List.drop_left]

end

/-! ### The division of a text -/

/-- A text divided into kept parts with wraps between them: the first part, then each wrap with the part after it. -/
structure Division where
  first : List Char
  rest : List (List Char × List Char)

namespace Division

/-- The text that is divided. -/
def text (d : Division) : List Char := d.first ++ d.rest.flatMap fun entry => entry.1 ++ entry.2

/-- The kept parts. -/
def kept (d : Division) : List (List Char) := d.first :: d.rest.map Prod.snd

/-- The kept parts with one space between each two. -/
def collapsed (d : Division) : List Char := d.first ++ d.rest.flatMap fun entry => ' ' :: entry.2

/-- Between the parts stand wraps, no part that follows a wrap starts with a blank, no part holds a wrap, and no part
but the last ends with a line feed. -/
structure Proper (d : Division) : Prop where
  wraps : ∀ entry ∈ d.rest, IsWrap entry.1
  flush : ∀ entry ∈ d.rest, Flush entry.2
  unwrapped : ∀ part ∈ d.kept, Unwrapped part
  ends : ∀ part ∈ d.kept.dropLast, part.getLast? ≠ some '\n'

/-- The parts between two wraps are not empty either, so that no wrap follows another one directly. -/
structure Greedy (d : Division) : Prop extends Proper d where
  apart : ∀ part ∈ (d.rest.map Prod.snd).dropLast, part ≠ []

theorem greedy_last_iff {part : List Char} : Greedy ⟨part, []⟩ ↔ Unwrapped part := by
  constructor
  · intro h
    exact h.unwrapped part (by simp [kept])
  · intro h
    exact ⟨⟨by simp, by simp, by simpa [kept] using h, by simp [kept]⟩, by simp⟩

variable {c : Char} {part run next : List Char} {rest : List (List Char × List Char)}

theorem text_cons : text ⟨part, (run, next) :: rest⟩ = part ++ (run ++ text ⟨next, rest⟩) := by
  simp [text]

theorem collapsed_cons : collapsed ⟨part, (run, next) :: rest⟩ = part ++ ' ' :: collapsed ⟨next, rest⟩ := by
  simp [collapsed]

theorem flush_text_iff (hwraps : ∀ entry ∈ rest, IsWrap entry.1) :
    Flush (text ⟨next, rest⟩) ↔ Flush next ∧ (rest ≠ [] → next ≠ []) := by
  cases next with
  | cons c next => simp [text, Flush]
  | nil =>
    cases rest with
    | nil => simp [text]
    | cons entry rest =>
      have hnot : ¬ Flush (text ⟨[], entry :: rest⟩) := by
        rw [text_cons, List.nil_append]
        exact (hwraps entry (by simp)).not_flush _
      simpa using hnot

theorem forall_mem_dropLast_cons {α : Type} {p : α → Prop} {a : α} {l : List α} :
    (∀ b ∈ (a :: l).dropLast, p b) ↔ (l ≠ [] → p a) ∧ ∀ b ∈ l.dropLast, p b := by
  cases l with
  | nil => simp
  | cons b l => simp

/-- What follows a wrap is flush as a whole: neither its first part nor, if that is empty, a second wrap starts with a
blank. -/
theorem greedy_cons_iff : Greedy ⟨part, (run, next) :: rest⟩ ↔
    Unwrapped part ∧ part.getLast? ≠ some '\n' ∧ IsWrap run ∧ Flush (text ⟨next, rest⟩) ∧ Greedy ⟨next, rest⟩ := by
  constructor
  · intro h
    have hwraps : ∀ entry ∈ rest, IsWrap entry.1 := fun entry hentry => h.wraps entry (by simp [hentry])
    obtain ⟨hnext, hapart⟩ := forall_mem_dropLast_cons.1 h.apart
    refine ⟨h.unwrapped part (by simp [kept]), h.ends part (by simp [kept]), h.wraps (run, next) (by simp),
      (flush_text_iff hwraps).2 ⟨h.flush (run, next) (by simp), fun hrest => hnext (by simpa using hrest)⟩, ?_⟩
    exact {
      wraps := hwraps
      flush := fun entry hentry => h.flush entry (by simp [hentry])
      unwrapped := fun part hpart => h.unwrapped part (List.mem_cons_of_mem _ hpart)
      ends := fun part hpart => h.ends part (List.mem_cons_of_mem _ hpart)
      apart := hapart }
  · rintro ⟨hpart, hend, hrun, hflush, h⟩
    obtain ⟨hnext, hapart⟩ := (flush_text_iff h.wraps).1 hflush
    exact {
      wraps := by simpa [hrun] using h.wraps
      flush := by simpa [hnext] using h.flush
      unwrapped := by simpa [kept, hpart] using h.unwrapped
      ends := by simpa [kept, hend] using h.ends
      apart := forall_mem_dropLast_cons.2 ⟨fun hrest => hapart (by simpa using hrest), h.apart⟩ }

theorem greedy_char_iff : Greedy ⟨c :: part, rest⟩ ↔ (c = '\n' → Flush (text ⟨part, rest⟩)) ∧ Greedy ⟨part, rest⟩ := by
  cases rest with
  | nil => rw [greedy_last_iff, greedy_last_iff, unwrapped_cons_iff, text, List.flatMap_nil, List.append_nil]
  | cons entry rest =>
    obtain ⟨run, next⟩ := entry
    rw [greedy_cons_iff, greedy_cons_iff, unwrapped_cons_iff, text_cons]
    cases part with
    | nil =>
      -- as the whole part, a line feed would end it, and would stand before the line feed of the wrap
      constructor
      · rintro ⟨-, hend, hrun, hrest⟩
        exact ⟨fun hc => absurd hc (by simpa using hend), .nil, by simp, hrun, hrest⟩
      · rintro ⟨hc, hpart, -, hrun, hrest⟩
        exact ⟨⟨by simp [Flush], hpart⟩, fun hend => hrun.not_flush _ (hc (by simpa using hend)), hrun, hrest⟩
    | cons d part =>
      rw [List.getLast?_cons_cons]
      exact and_assoc

end Division

open Division (greedy_char_iff greedy_cons_iff greedy_last_iff text_cons collapsed_cons)

/-- The division is one of the text, and no wrap in it could be longer. -/
def Splits (text : List Char) (d : Division) : Prop := d.Greedy ∧ d.text = text

section

variable {c : Char} {run text : List Char} {d : Division}

theorem splits_nil_iff : Splits [] d ↔ d = ⟨[], []⟩ := by
  constructor
  · rintro ⟨hgreedy, htext⟩
    obtain ⟨first, rest⟩ := d
    obtain ⟨rfl, hrest⟩ : first = [] ∧ _ := List.append_eq_nil_iff.1 htext
    cases rest with
    | nil => rfl
    | cons entry rest =>
      have := (hgreedy.wraps entry (by simp)).two_le_length
      simp_all
  · rintro rfl
    exact ⟨greedy_last_iff.2 .nil, rfl⟩

theorem splits_char_iff (hc : c = '\n' → Flush text) :
    Splits (c :: text) d ↔ ∃ first rest, d = ⟨c :: first, rest⟩ ∧ Splits text ⟨first, rest⟩ := by
  constructor
  · rintro ⟨hgreedy, htext⟩
    obtain ⟨first, rest⟩ := d
    cases first with
    | nil =>
      cases rest with
      | nil => cases htext
      | cons entry rest =>
        -- a division that starts with a wrap is none of this text
        obtain ⟨tail, htail, hnot⟩ := (hgreedy.wraps entry (by simp)).exists_tail (Division.text ⟨entry.2, rest⟩)
        rw [text_cons, List.nil_append, htail] at htext
        obtain ⟨rfl, rfl⟩ := List.cons.inj htext
        exact absurd (hc rfl) hnot
    | cons e first =>
      obtain ⟨rfl, htail⟩ := List.cons.inj htext
      exact ⟨first, rest, rfl, (greedy_char_iff.1 hgreedy).2, htail⟩
  · rintro ⟨first, rest, rfl, hgreedy, rfl⟩
    exact ⟨greedy_char_iff.2 ⟨hc, hgreedy⟩, rfl⟩

theorem splits_wrap_iff (hrun : IsWrap run) (htext : Flush text) :
    Splits (run ++ text) d ↔ ∃ first rest, d = ⟨[], (run, first) :: rest⟩ ∧ Splits text ⟨first, rest⟩ := by
  constructor
  · rintro ⟨hgreedy, hd⟩
    obtain ⟨tail, htail, hnot⟩ := hrun.exists_tail text
    obtain ⟨first, rest⟩ := d
    cases first with
    | nil =>
      cases rest with
      | nil =>
        rw [htail] at hd
        cases hd
      | cons entry rest =>
        obtain ⟨run', next⟩ := entry
        obtain ⟨-, -, hrun', hflush, hnext⟩ := greedy_cons_iff.1 hgreedy
        rw [text_cons, List.nil_append] at hd
        obtain ⟨rfl, hrest⟩ := hrun'.append_inj hflush hrun htext hd
        exact ⟨next, rest, rfl, hnext, hrest⟩
    | cons e first =>
      -- the first part cannot begin with the line feed of the wrap
      rw [htail] at hd
      obtain ⟨rfl, hrest⟩ := List.cons.inj hd
      exact absurd (hrest ▸ (greedy_char_iff.1 hgreedy).1 rfl) hnot
  · rintro ⟨first, rest, rfl, hgreedy, rfl⟩
    exact ⟨greedy_cons_iff.2 ⟨.nil, by simp, hrun, htext, hgreedy⟩, text_cons⟩

/-- A text can be divided in exactly one way in which no wrap could be longer. -/
theorem existsUnique_splits (text : List Char) : ∃! d, Splits text d := by
  induction text using readWraps with
  | nil => exact ⟨⟨[], []⟩, splits_nil_iff.2 rfl, fun d => splits_nil_iff.1⟩
  | char c text hc ih =>
    obtain ⟨⟨first, rest⟩, hsplits, hunique⟩ := ih
    refine ⟨⟨c :: first, rest⟩, (splits_char_iff hc).2 ⟨first, rest, rfl, hsplits⟩, fun d hd => ?_⟩
    obtain ⟨first', rest', rfl, htail⟩ := (splits_char_iff hc).1 hd
    cases hunique _ htail
    rfl
  | wrap run text hrun htext ih =>
    obtain ⟨⟨first, rest⟩, hsplits, hunique⟩ := ih
    refine ⟨⟨[], (run, first) :: rest⟩, (splits_wrap_iff hrun htext).2 ⟨first, rest, rfl, hsplits⟩, fun d hd => ?_⟩
    obtain ⟨first', rest', rfl, htail⟩ := (splits_wrap_iff hrun htext).1 hd
    cases hunique _ htail
    rfl

/-- Collapsing puts one space for each wrap of the division. -/
theorem Splits.collapseChars_eq (h : Splits text d) : collapseChars text = d.collapsed := by
  induction text using readWraps generalizing d with
  | nil =>
    obtain rfl := splits_nil_iff.1 h
    rfl
  | char c text hc ih =>
    obtain ⟨first, rest, rfl, htail⟩ := (splits_char_iff hc).1 h
    rw [collapseChars_cons hc, ih htail]
    rfl
  | wrap run text hrun htext ih =>
    obtain ⟨first, rest, rfl, htail⟩ := (splits_wrap_iff hrun htext).1 h
    rw [collapseChars_wrap hrun htext, ih htail, collapsed_cons, List.nil_append]

end

theorem Division.flatten_kept_sublist (d : Division) : d.kept.flatten.Sublist d.collapsed := by
  obtain ⟨first, rest⟩ := d
  induction rest generalizing first with
  | nil => simp [kept, collapsed]
  | cons entry rest ih =>
    rw [collapsed_cons]
    exact (List.Sublist.refl first).append ((ih entry.2).cons ' ')

theorem toList_collapse (text : String) : (collapse text).toList = collapseChars text.toList :=
  String.toList_ofList

/-- Every text has exactly one division into kept parts and wraps in which no wrap could be longer, and collapsing puts
one space for each of its wraps, so that all other characters are kept in their order. -/
theorem collapse_replaces_wraps (text : String) :
    (∃! d : Division, d.Greedy ∧ d.text = text.toList) ∧
      ∀ d : Division, d.Greedy → d.text = text.toList →
        collapse text = .ofList d.collapsed ∧ d.kept.flatten.Sublist (collapse text).toList := by
  refine ⟨existsUnique_splits text.toList, fun d hgreedy htext => ?_⟩
  have hcollapse : collapseChars text.toList = d.collapsed := Splits.collapseChars_eq ⟨hgreedy, htext⟩
  refine ⟨by rw [collapse, hcollapse], ?_⟩
  rw [toList_collapse, hcollapse]
  exact d.flatten_kept_sublist

/-- A wrap of two line feeds and indentation after a blank that stays, and a line feed at the end. -/
theorem collapse_wrapped_classes :
    Division.Greedy ⟨"btn ".toList, [("\n\n\t ".toList, "large\n".toList)]⟩ ∧
      Division.text ⟨"btn ".toList, [("\n\n\t ".toList, "large\n".toList)]⟩ = "btn \n\n\t large\n".toList ∧
      collapse "btn \n\n\t large\n" = "btn  large\n" := by
  have hgreedy : Division.Greedy ⟨"btn ".toList, [("\n\n\t ".toList, "large\n".toList)]⟩ := by
    refine greedy_cons_iff.2 ⟨?_, by decide, ⟨"\n\t ".toList, rfl, by decide, ?_⟩, ?_, greedy_last_iff.2 ?_⟩
    · unfold Unwrapped; decide
    · exact List.all_eq_true.1 (by decide)
    · rintro c ⟨⟩; rfl
    · unfold Unwrapped; decide
  have htext : Division.text ⟨"btn ".toList, [("\n\n\t ".toList, "large\n".toList)]⟩ = "btn \n\n\t large\n".toList := by
    decide
  exact ⟨hgreedy, htext, ((collapse_replaces_wraps _).2 _ hgreedy htext).1⟩

/-- Nothing is asked of empty parts. -/
theorem Division.proper_of_empty_parts {rest : List (List Char × List Char)}
    (h : ∀ entry ∈ rest, IsWrap entry.1 ∧ entry.2 = []) : Division.Proper ⟨[], rest⟩ := by
  have hempty : ∀ part ∈ kept ⟨[], rest⟩, part = [] := by
    rintro part (_ | ⟨_, hpart⟩)
    · rfl
    · obtain ⟨entry, hentry, rfl⟩ := List.mem_map.1 hpart
      exact (h entry hentry).2
  exact {
    wraps := fun entry hentry => (h entry hentry).1
    flush := fun entry hentry => by simp [Flush, (h entry hentry).2]
    unwrapped := fun part hpart => hempty part hpart ▸ .nil
    ends := fun part hpart => by simp [hempty part (List.dropLast_subset _ hpart)] }

/-- If wraps may follow each other directly, the division of a text is not unique, and collapsing does not put a space
for each of its wraps. -/
theorem collapse_adjacent_wraps :
    ¬ (∃! d : Division, d.Proper ∧ d.text = "\n \n ".toList) ∧
      ¬ ∀ d : Division, d.Proper → d.text = "\n \n ".toList → collapse "\n \n " = .ofList d.collapsed := by
  have hone : Division.Proper ⟨[], [("\n \n ".toList, [])]⟩ := by
    refine Division.proper_of_empty_parts fun entry hentry => ?_
    obtain rfl := List.mem_singleton.1 hentry
    exact ⟨⟨" \n ".toList, rfl, by decide, List.all_eq_true.1 (by decide)⟩, rfl⟩
  have htwo : Division.Proper ⟨[], [("\n ".toList, []), ("\n ".toList, [])]⟩ := by
    refine Division.proper_of_empty_parts fun entry hentry => ?_
    obtain rfl : entry = ("\n ".toList, []) := by simpa using hentry
    exact ⟨⟨" ".toList, rfl, by decide, List.all_eq_true.1 (by decide)⟩, rfl⟩
  constructor
  · intro hunique
    have hsame := hunique.unique ⟨hone, by decide⟩ ⟨htwo, by decide⟩
    exact absurd (congrArg (fun d => d.rest.length) hsame) (by decide)
  · intro hall
    exact absurd (hall _ htwo (by decide)) (by decide +kernel)

/-! ### What collapsing leaves -/

theorem flush_collapseChars {text : List Char} (h : Flush text) : Flush (collapseChars text) := by
  cases text with
  | nil => exact h
  | cons c rest =>
    have hc : isBlank c = false := h c rfl
    have hfeed : c ≠ '\n' := by
      rintro rfl
      cases hc
    rw [collapseChars_cons fun heq => absurd heq hfeed]
    exact h

/-- No wrap is left, and none arises: what follows a line feed that stays is no blank, and stays too. -/
theorem unwrapped_collapseChars (text : List Char) : Unwrapped (collapseChars text) := by
  induction text using readWraps with
  | nil => exact .nil
  | char c rest hc ih =>
    rw [collapseChars_cons hc, unwrapped_cons_iff]
    exact ⟨fun hfeed => flush_collapseChars (hc hfeed), ih⟩
  | wrap run rest hrun hrest ih =>
    rw [collapseChars_wrap hrun hrest, unwrapped_cons_iff]
    exact ⟨fun hfeed => absurd hfeed (by decide), ih⟩

theorem Unwrapped.collapseChars_eq {text : List Char} (h : Unwrapped text) : collapseChars text = text := by
  induction text with
  | nil => rfl
  | cons c rest ih =>
    obtain ⟨hc, hrest⟩ := unwrapped_cons_iff.1 h
    rw [collapseChars_cons hc, ih hrest]

theorem length_collapseChars_le (text : List Char) : (collapseChars text).length ≤ text.length := by
  induction text using readWraps with
  | nil => exact Nat.le_refl 0
  | char c rest hc ih =>
    rw [collapseChars_cons hc, List.length_cons, List.length_cons]
    omega
  | wrap run rest hrun hrest ih =>
    have := hrun.two_le_length
    rw [collapseChars_wrap hrun hrest, List.length_cons, List.length_append]
    omega

theorem length_collapseChars_lt {text : List Char} (h : ¬ Unwrapped text) :
    (collapseChars text).length < text.length := by
  induction text using readWraps with
  | nil => exact absurd .nil h
  | char c rest hc ih =>
    have hrest : ¬ Unwrapped rest := fun hrest => h (unwrapped_cons_iff.2 ⟨hc, hrest⟩)
    have := ih hrest
    rw [collapseChars_cons hc, List.length_cons, List.length_cons]
    omega
  | wrap run rest hrun hrest _ =>
    have := hrun.two_le_length
    have := length_collapseChars_le rest
    rw [collapseChars_wrap hrun hrest, List.length_cons, List.length_append]
    omega

/-- A text without wraps stays as it is, and every other gets shorter. -/
theorem collapseChars_eq_self_iff {text : List Char} : collapseChars text = text ↔ Unwrapped text := by
  refine ⟨fun h => ?_, Unwrapped.collapseChars_eq⟩
  by_contra hwraps
  have := length_collapseChars_lt hwraps
  rw [h] at this
  omega

/-- Collapsing leaves a text without wraps, in which it finds nothing more to do; such texts stay as they are, and all
others get shorter. -/
theorem collapse_unwraps (text : String) :
    Unwrapped (collapse text).toList ∧ (collapse text = text ↔ Unwrapped text.toList) ∧
      collapse (collapse text) = collapse text ∧ (collapse text).length ≤ text.length ∧
      ((collapse text).length < text.length ↔ collapse text ≠ text) := by
  have hself : ∀ text : String, collapse text = text ↔ Unwrapped text.toList := by
    intro text
    rw [← String.toList_inj, toList_collapse, collapseChars_eq_self_iff]
  have hunwrapped : Unwrapped (collapse text).toList := by
    rw [toList_collapse]
    exact unwrapped_collapseChars text.toList
  refine ⟨hunwrapped, hself text, (hself _).2 hunwrapped, ?_, ?_⟩
  · rw [← String.length_toList, ← String.length_toList, toList_collapse]
    exact length_collapseChars_le text.toList
  · rw [Ne, hself, ← String.length_toList, ← String.length_toList, toList_collapse]
    refine ⟨fun hlt hunwrapped => ?_, length_collapseChars_lt⟩
    rw [hunwrapped.collapseChars_eq] at hlt
    omega

end JsxLowering.Text
