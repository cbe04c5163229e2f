import JsxLowering.Proofs.Lines
import JsxLowering.Text.Lines

/-!
# The division of a text into lines

A text is divided by the line ends that stand between its lines (`Divided`).  A division that takes a carriage return
and a line feed together where it can is unique, and the scan of the bytes of a text finds it.

* `Divided.lines_eq`: a text has no other division than that into its `lines`.
* `exists_divided_splitLines`: the parts between the cuts of the scan are the lines of a division.  This is read off the
  bytes: a byte of a line end is never part of another character, so a line in which the scan has met none holds none.
-/

namespace JsxLowering.Text

/-- A text divided into lines and the line ends between them.  A carriage return does not stand alone where an empty
line and a line feed would follow. -/
inductive Divided : List Char → List (List Char) → List (List Char) → Prop
  | last (line : List Char) (plain : ∀ c ∈ line, isLineBreak c = false) : Divided line [line] []
  | cons (line : List Char) {ending text : List Char} {ls ends : List (List Char)}
      (plain : ∀ c ∈ line, isLineBreak c = false) (lineEnd : LineEnd ending)
      (whole : ending = ['\r'] → ¬ (ls.head? = some [] ∧ ends.head? = some ['\n'])) (rest : Divided text ls ends) :
      Divided (line ++ ending ++ text) (line :: ls) (ending :: ends)

/-! ### One division at most -/

namespace Divided

variable {text : List Char} {ls ends : List (List Char)}

theorem length_eq (h : Divided text ls ends) : ls.length = ends.length + 1 := by
  induction h with
  | last => rfl
  | cons _ _ _ _ _ ih => simp [ih]

theorem head?_eq_lineFeed_iff (h : Divided text ls ends) :
    text.head? = some '\n' ↔ ls.head? = some [] ∧ ends.head? = some ['\n'] := by
  cases h with
  | last _ hplain =>
    have hnone : text.head? ≠ some '\n' := fun hhead => absurd (hplain _ (List.mem_of_head? hhead)) (by decide)
    simpa using hnone
  | cons line hplain hend _ _ =>
    cases line with
    | nil => cases hend <;> simp
    | cons c line =>
      have hc : c ≠ '\n' := by
        rintro rfl
        exact absurd (hplain '\n' (by simp)) (by decide)
      simpa using hc

theorem lines_eq (h : Divided text ls ends) : lines text = ls := by
  induction h with
  | last line hplain => simpa [lines] using lines_append hplain []
  | cons line hplain hend hwhole hrest ih =>
    have hends : Ends _ _ := ⟨hend, fun hreturn hhead => hwhole hreturn (hrest.head?_eq_lineFeed_iff.1 hhead)⟩
    rw [List.append_assoc, lines_append hplain, hends.lines_append, ih]
    simp

end Divided

/-! ### Slices -/

section

variable {text : String} {span : Span}

theorem toByteArray_slice (h : Fits text span) :
    (slice text span h).toByteArray = text.toByteArray.extract span.start span.stop :=
  rfl

/-- A line break among the characters of a slice is one among the bytes of the text. -/
theorem getElem?_of_toList_slice {h : Fits text span} (before : List Char) {after : List Char} {c : Char}
    (hslice : (slice text span h).toList = before ++ c :: after) (hc : isLineBreak c) :
    span.start + before.utf8Encode.size < span.stop ∧
      text.toByteArray[span.start + before.utf8Encode.size]? = some c.toUInt8 := by
  have hchar : [c].utf8Encode = [c.toUInt8].toByteArray := by
    rcases eq_or_eq_of_isLineBreak hc with rfl | rfl <;> rfl
  have hbytes : text.toByteArray.extract span.start span.stop =
      before.utf8Encode ++ ([c.toUInt8].toByteArray ++ after.utf8Encode) := by
    rw [← toByteArray_slice h, ← String.utf8Encode_toList, hslice, List.utf8Encode_append, List.utf8Encode_cons, hchar]
  have hsize := congrArg ByteArray.size hbytes
  simp only [ByteArray.size_extract, ByteArray.size_append, List.size_toByteArray, List.length_singleton] at hsize
  refine ⟨by omega, getElem?_eq_some_iff.2 ⟨by omega, ?_⟩⟩
  have hlt : before.utf8Encode.size < (text.toByteArray.extract span.start span.stop).size := by
    rw [ByteArray.size_extract]
    omega
  rw [← ByteArray.getElem_extract hlt]
  simp [hbytes, ByteArray.getElem_append_right, ByteArray.getElem_append_left]

theorem plain_slice (h : Fits text span)
    (hnone : ∀ i, span.start ≤ i → i < span.stop → lineEndWidth? text.toByteArray i = none) :
    ∀ c ∈ (slice text span h).toList, isLineBreak c = false := by
  intro c hc
  obtain ⟨before, after, hslice⟩ := List.append_of_mem hc
  by_contra hbreak
  rw [Bool.not_eq_false] at hbreak
  obtain ⟨hlt, hbyte⟩ := getElem?_of_toList_slice before hslice hbreak
  obtain ⟨hfeed, hreturn⟩ := lineEndWidth?_eq_none_iff.1 (hnone _ (Nat.le_add_right _ _) hlt)
  rcases eq_or_eq_of_isLineBreak hbreak with rfl | rfl
  · exact hfeed hbyte
  · exact hreturn hbyte

theorem slice_eq_append {start i next stop : Nat} {ending : String} (h : Fits text ⟨start, stop⟩)
    (hline : Fits text ⟨start, i⟩) (hrest : Fits text ⟨next, stop⟩) (hle : i ≤ next)
    (hbytes : text.toByteArray.extract i next = ending.toByteArray) :
    slice text ⟨start, stop⟩ h = slice text ⟨start, i⟩ hline ++ ending ++ slice text ⟨next, stop⟩ hrest := by
  have hcut : start ≤ i := hline.ordered
  rw [← String.toByteArray_inj, String.toByteArray_append, String.toByteArray_append, ← hbytes]
  simp only [toByteArray_slice]
  rw [ByteArray.extract_eq_extract_append_extract next (Nat.le_trans hcut hle) hrest.ordered,
    ByteArray.extract_eq_extract_append_extract i hcut hle]

end

/-! ### The division that the scan finds -/

theorem lineEnd_of_mem {ending : String} (h : ending ∈ ["\r\n", "\n", "\r"]) : LineEnd ending.toList := by
  simp only [List.mem_cons, List.not_mem_nil, or_false] at h
  rcases h with rfl | rfl | rfl
  · exact .both
  · exact .lineFeed
  · exact .carriageReturn

section

variable {text : String} {start i width : Nat}

/-- A line end, and a line before it in which the scan met none, divide what they stand before once more. -/
theorem exists_divided_cons (hstart : String.Pos.Raw.IsValid text ⟨start⟩) (hline : Fits text ⟨start, i⟩)
    (hnone : ∀ j, start ≤ j → j < i → lineEndWidth? text.toByteArray j = none)
    (hend : lineEndWidth? text.toByteArray i = some width) {ls ends : List (List Char)}
    (h : Divided (slice text _ (fits_to_end (isValid_after_lineEnd hend))).toList ls ends) :
    ∃ ends, Divided (slice text _ (fits_to_end hstart)).toList ((slice text ⟨start, i⟩ hline).toList :: ls) ends := by
  obtain ⟨-, ending, hending, hbytes, hreturn⟩ := exists_lineEnd hend
  rw [slice_eq_append (fits_to_end hstart) hline (fits_to_end (isValid_after_lineEnd hend)) (Nat.le_add_right i width)
    hbytes, String.toList_append, String.toList_append]
  refine ⟨ending.toList :: ends, .cons _ (plain_slice hline hnone) (lineEnd_of_mem hending) (fun hone hhead => ?_) h⟩
  -- a line feed that came next would be a byte that the scan has looked at
  obtain ⟨after, hslice⟩ := List.head?_eq_some_iff.1 (h.head?_eq_lineFeed_iff.2 hhead)
  obtain ⟨-, hfeed⟩ := getElem?_of_toList_slice [] hslice rfl
  exact hreturn (String.toList_inj.1 hone) hfeed

theorem exists_divided_lineSpansFrom (hstart : String.Pos.Raw.IsValid text ⟨start⟩)
    (hnone : ∀ j, start ≤ j → j < i → lineEndWidth? text.toByteArray j = none)
    (hfits : ∀ span ∈ lineSpansFrom text.toByteArray start i, Fits text span) :
    ∃ ends, Divided (slice text _ (fits_to_end hstart)).toList
      (((lineSpansFrom text.toByteArray start i).pmap (slice text) hfits).map String.toList) ends := by
  -- along the scan, with no line end in the part of the line that it has passed
  fun_induction lineSpansFrom text.toByteArray start i with
  | case1 start i hi width hend ih =>
    obtain ⟨ends, h⟩ := ih (isValid_after_lineEnd hend) (fun j hj hlt => absurd hlt (Nat.not_lt.2 hj))
      fun span hspan => hfits span (List.mem_cons_of_mem _ hspan)
    exact exists_divided_cons hstart (hfits _ List.mem_cons_self) hnone hend h
  | case2 start i hi hchar ih =>
    refine ih hstart (fun j hj hlt => ?_) hfits
    rcases Nat.lt_succ_iff_lt_or_eq.1 hlt with hlt | rfl
    · exact hnone j hj hlt
    · exact hchar
  | case3 start i hi =>
    refine ⟨[], .last _ (plain_slice (fits_to_end hstart) fun j hj hlt => hnone j hj ?_)⟩
    exact Nat.lt_of_lt_of_le hlt (Nat.not_lt.1 hi)

end

theorem exists_divided_splitLines (text : String) :
    ∃ ends, Divided text.toList ((splitLines text).map String.toList) ends := by
  have hwhole : slice text _ (fits_to_end String.Pos.Raw.isValid_zero) = text := by
    rw [← String.toByteArray_inj, toByteArray_slice]
    exact ByteArray.extract_zero_size
  obtain ⟨ends, h⟩ := exists_divided_lineSpansFrom String.Pos.Raw.isValid_zero (by simp) (fits_of_mem_lineSpans text)
  rw [hwhole] at h
  exact ⟨ends, h⟩

/-- The lines found among the bytes are those found among the characters. -/
theorem map_toList_splitLines (text : String) : (splitLines text).map String.toList = lines text.toList := by
  obtain ⟨ends, h⟩ := exists_divided_splitLines text
  exact h.lines_eq.symm

/-- A text is cut into lines at boundaries of its characters only, and the lines are the only ones it can be divided
into, one more than there are line ends between them. -/
theorem splitLines_divides_text (text : String) :
    (∀ span ∈ lineSpans text, Fits text span) ∧ splitLines text ≠ [] ∧
    (∀ ls : List String, (∃ ends, Divided text.toList (ls.map String.toList) ends) ↔ ls = splitLines text) ∧
    ∀ ends, Divided text.toList ((splitLines text).map String.toList) ends →
      (splitLines text).length = ends.length + 1 := by
  refine ⟨fits_of_mem_lineSpans text, fun hnil => ?_, fun ls => ⟨?_, ?_⟩, fun ends h => ?_⟩
  · refine lines_ne_nil text.toList ?_
    rw [← map_toList_splitLines, hnil, List.map_nil]
  · rintro ⟨ends, h⟩
    have hsame : ls.map String.toList = (splitLines text).map String.toList := by
      rw [map_toList_splitLines, h.lines_eq]
    exact List.map_injective_iff.2 (fun _ _ => String.toList_injective) hsame
  · rintro rfl
    exact exists_divided_splitLines text
  · simpa using h.length_eq

/-- A carriage return before both characters, a lone one after them, and characters of two bytes around. -/
theorem splitLines_mixed_ends :
    ⟨3, 3⟩ ∈ lineSpans "é\r\r\n\rß" ∧ Fits "é\r\r\n\rß" ⟨3, 3⟩ ∧
      Divided "é\r\r\n\rß".toList (["é", "", "", "ß"].map String.toList) [['\r'], ['\r', '\n'], ['\r']] ∧
      ["é", "", "", "ß"] = splitLines "é\r\r\n\rß" ∧ (splitLines "é\r\r\n\rß").length = 3 + 1 := by
  obtain ⟨hfits, -, honly, hcount⟩ := splitLines_divides_text "é\r\r\n\rß"
  have hmem : ⟨3, 3⟩ ∈ lineSpans "é\r\r\n\rß" := by decide +kernel
  have hdivided : Divided "é\r\r\n\rß".toList (["é", "", "", "ß"].map String.toList) [['\r'], ['\r', '\n'], ['\r']] :=
    .cons ['é'] (by simp [isLineBreak]) .carriageReturn (by simp) (.cons [] (by simp) .both (by simp)
      (.cons [] (by simp) .carriageReturn (by simp) (.last ['ß'] (by simp [isLineBreak]))))
  have hlines : ["é", "", "", "ß"] = splitLines "é\r\r\n\rß" := (honly _).1 ⟨_, hdivided⟩
  exact ⟨hmem, hfits _ hmem, hdivided, hlines, hcount [['\r'], ['\r', '\n'], ['\r']] (by rwa [← hlines])⟩

end JsxLowering.Text
