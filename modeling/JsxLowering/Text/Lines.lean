import JsxLowering.Span

/-!
# Lines

A line ends at `\r\n`, `\n` or `\r`; a carriage return directly before a line feed belongs to the same end.

The lines of a text are found among its UTF-8 bytes, without decoding any characters: a scan goes from byte to byte and
notes where a line starts and where it ends. The text is then cut there, which can be done at boundaries of characters
only; `fits_of_mem_lineSpans` says that the scan finds no other places.
-/

namespace JsxLowering.Text

/-- The number of bytes of the line end at byte `i`; none if no line ends there. -/
def lineEndWidth? (bytes : ByteArray) (i : Nat) : Option Nat :=
  if bytes[i]? = some '\n'.toUInt8 then some 1
  else if bytes[i]? = some '\r'.toUInt8 then some (if bytes[i + 1]? = some '\n'.toUInt8 then 2 else 1)
  else none

theorem lineEndWidth?_pos {bytes : ByteArray} {i width : Nat} (h : lineEndWidth? bytes i = some width) : 0 < width := by
  grind [lineEndWidth?]

/-- The spans of the lines from byte `start` on, when no line end has been found there before byte `i`. -/
def lineSpansFrom (bytes : ByteArray) (start i : Nat) : List Span :=
  if i < bytes.size then
    match h : lineEndWidth? bytes i with
    | some width => ⟨start, i⟩ :: lineSpansFrom bytes (i + width) (i + width)
    | none => lineSpansFrom bytes start (i + 1)
  else [⟨start, bytes.size⟩]
termination_by bytes.size - i
decreasing_by
  · have := lineEndWidth?_pos h
    omega
  · omega

/-- The spans of the lines of a text. -/
def lineSpans (text : String) : List Span := lineSpansFrom text.toByteArray 0 0

/-- The span starts and ends at boundaries of characters of the text. -/
structure Fits (text : String) (span : Span) : Prop where
  ordered : span.start ≤ span.stop
  start_valid : String.Pos.Raw.IsValid text ⟨span.start⟩
  stop_valid : String.Pos.Raw.IsValid text ⟨span.stop⟩

/-! ### No character is cut -/

section

variable {bytes : ByteArray} {i width : Nat}

theorem lineEndWidth?_eq_none_iff :
    lineEndWidth? bytes i = none ↔ bytes[i]? ≠ some '\n'.toUInt8 ∧ bytes[i]? ≠ some '\r'.toUInt8 := by
  grind [lineEndWidth?]

/-- The bytes of a line end spell one of three texts, and no line feed comes after a carriage return alone. -/
theorem exists_lineEnd (h : lineEndWidth? bytes i = some width) :
    i + width ≤ bytes.size ∧ ∃ ending ∈ ["\r\n", "\n", "\r"], bytes.extract i (i + width) = ending.toByteArray ∧
      (ending = "\r" → bytes[i + width]? ≠ some '\n'.toUInt8) := by
  unfold lineEndWidth? at h
  split at h
  next hfeed =>
    cases h
    obtain ⟨hi, hbyte⟩ := getElem?_eq_some_iff.1 hfeed
    refine ⟨hi, "\n", by simp, ?_, by simp⟩
    rw [ByteArray.extract_add_one hi, hbyte]
    rfl
  next =>
    split at h
    next hreturn =>
      obtain ⟨hi, hbyte⟩ := getElem?_eq_some_iff.1 hreturn
      split at h
      next hfeed =>
        cases h
        obtain ⟨hnext, hbyte'⟩ := getElem?_eq_some_iff.1 hfeed
        refine ⟨hnext, "\r\n", by simp, ?_, by simp⟩
        rw [ByteArray.extract_add_two hnext, hbyte, hbyte']
        rfl
      next hfeed =>
        cases h
        refine ⟨hi, "\r", by simp, ?_, fun _ => hfeed⟩
        rw [ByteArray.extract_add_one hi, hbyte]
        rfl
    next => cases h

end

section

variable {text : String} {start i width : Nat}

theorem isValid_of_lineEnd (h : lineEndWidth? text.toByteArray i = some width) : String.Pos.Raw.IsValid text ⟨i⟩ := by
  have hbreak : text.toByteArray[i]? = some '\n'.toUInt8 ∨ text.toByteArray[i]? = some '\r'.toUInt8 := by
    grind [lineEndWidth?]
  -- both bytes are those of whole characters, so that one starts there
  obtain ⟨b, hb, hfirst⟩ : ∃ b, text.toByteArray[i]? = some b ∧ b.IsUTF8FirstByte := by
    rcases hbreak with h | h
    · exact ⟨_, h, by decide⟩
    · exact ⟨_, h, by decide⟩
  obtain ⟨hi, rfl⟩ := getElem?_eq_some_iff.1 hb
  exact String.Pos.Raw.isValid_iff_isUTF8FirstByte.2 (.inr ⟨hi, hfirst⟩)

theorem isValid_after_lineEnd (h : lineEndWidth? text.toByteArray i = some width) :
    String.Pos.Raw.IsValid text ⟨i + width⟩ := by
  obtain ⟨hle, ending, -, hbytes, -⟩ := exists_lineEnd h
  refine String.Pos.Raw.isValid_iff_isValidUTF8_extract_zero.2 ⟨hle, ?_⟩
  rw [ByteArray.extract_eq_extract_append_extract i (Nat.zero_le i) (Nat.le_add_right i width), hbytes]
  exact (isValid_of_lineEnd h).isValidUTF8_extract_zero.append ending.isValidUTF8

theorem fits_to_end (h : String.Pos.Raw.IsValid text ⟨start⟩) : Fits text ⟨start, text.toByteArray.size⟩ :=
  ⟨h.le_utf8ByteSize, h, String.Pos.Raw.isValid_rawEndPos⟩

theorem fits_of_mem_lineSpansFrom (hstart : String.Pos.Raw.IsValid text ⟨start⟩) (hle : start ≤ i) :
    ∀ span ∈ lineSpansFrom text.toByteArray start i, Fits text span := by
  fun_induction lineSpansFrom text.toByteArray start i with
  | case1 start i hi width h ih =>
    rintro span (_ | ⟨_, hspan⟩)
    · exact ⟨hle, hstart, isValid_of_lineEnd h⟩
    · exact ih (isValid_after_lineEnd h) (Nat.le_refl _) span hspan
  | case2 start i hi h ih => exact ih hstart (Nat.le_succ_of_le hle)
  | case3 start i hi =>
    intro span hspan
    rw [List.mem_singleton.1 hspan]
    exact fits_to_end hstart

end

theorem fits_of_mem_lineSpans (text : String) : ∀ span ∈ lineSpans text, Fits text span :=
  fits_of_mem_lineSpansFrom String.Pos.Raw.isValid_zero (Nat.le_refl 0)

/-- The part of a text that a span covers. -/
def slice (text : String) (span : Span) (h : Fits text span) : String :=
  text.extract (text.pos ⟨span.start⟩ h.start_valid) (text.pos ⟨span.stop⟩ h.stop_valid)

/-- The lines of a text, without their ends. There is always one more line than there are line ends. -/
def splitLines (text : String) : List String :=
  (lineSpans text).pmap (slice text) (fits_of_mem_lineSpans text)

end JsxLowering.Text
