import JsxLowering.Text.Entity
import Mathlib.Data.List.Forall2
import Mathlib.Data.List.TakeWhile
import Mathlib.Data.Nat.Digits.Defs

/-!
# Complete references and escaped texts

Which parts of a text are complete character references is a relation of its own (`Reference`): numerals of any length
with their exact value, or names of the entity table.  Reading a text from left to right, with every complete reference
replaced and everything else copied, is another (`Decodes`).

* `reference?_eq_some_iff`: one look at the text after an ampersand finds the complete reference there, if there is one.
* `decodeChars_eq_iff`: decoding is the one such reading of a text.
* `decodeChars_append_iff`: two texts are decoded each on its own exactly if no complete reference stands across the
  place where they meet.

So every reference is replaced wherever it stands, a text can be divided at every boundary that no reference crosses,
and every way to escape the characters of a text is undone.
-/

namespace JsxLowering.Text

/-! ### Numerals -/

/-- One or more digits of a base, letters in either case, most significant first, with the number that they spell. -/
def Numeral (base : Nat) (written : List Char) (n : Nat) : Prop :=
  ∃ digits : List Nat, digits ≠ [] ∧ (∀ d ∈ digits, d < base) ∧
    written.map Char.toLower = digits.map Nat.digitChar ∧ Nat.ofDigits base digits.reverse = n

theorem toNat_toLower (c : Char) :
    c.toLower.toNat = if 65 ≤ c.toNat ∧ c.toNat ≤ 90 then c.toNat + 32 else c.toNat := by
  delta Char.toLower
  by_cases h : 65 ≤ c.toNat ∧ c.toNat ≤ 90
  · have hshift : ('a'.val - 'A'.val).toNat = 32 := rfl
    rw [if_pos h, dif_pos (show c.val ≥ 'A'.val ∧ c.val ≤ 'Z'.val from h), Char.toNat, UInt32.toNat_add, hshift,
      Char.toNat_val]
    omega
  · rw [if_neg h, dif_neg (show ¬ (c.val ≥ 'A'.val ∧ c.val ≤ 'Z'.val) from h)]

theorem toNat_digitChar : ∀ d < 16, (Nat.digitChar d).toNat = if d < 10 then d + 48 else d + 87 := by
  decide

theorem digitValue?_eq_some_iff {base : Nat} (hbase : base ≤ 16) {c : Char} {d : Nat} :
    digitValue? base c = some d ↔ d < base ∧ c.toLower = Nat.digitChar d := by
  have hle : ∀ a b : Char, a ≤ b ↔ a.toNat ≤ b.toNat := fun a b => Iff.rfl
  simp only [digitValue?, Option.filter_eq_some_iff, hle, Char.reduceToNat, decide_eq_true_eq, ← Char.toNat_inj,
    toNat_toLower]
  constructor
  · rintro ⟨h, hd⟩
    refine ⟨hd, ?_⟩
    rw [toNat_digitChar d (by omega)]
    split_ifs at h ⊢ <;> grind
  · rintro ⟨hd, h⟩
    rw [toNat_digitChar d (by omega)] at h
    refine ⟨?_, hd⟩
    split_ifs at h ⊢ <;> grind

/-- The digits of a list, with the values that they have. -/
theorem map_toLower_eq_iff {base : Nat} (hbase : base ≤ 16) {written : List Char} {digits : List Nat} :
    (∀ d ∈ digits, d < base) ∧ written.map Char.toLower = digits.map Nat.digitChar ↔
      written.map (digitValue? base) = digits.map some := by
  induction written generalizing digits with
  | nil => cases digits <;> simp
  | cons c written ih =>
    cases digits with
    | nil => simp
    | cons d digits =>
      simp only [List.map_cons, List.cons.injEq, List.forall_mem_cons, digitValue?_eq_some_iff hbase, ← ih]
      tauto

/-- The value of a row of digits, computed from the left. -/
theorem digitsValue_eq {base : Nat} {written : List Char} {digits : List Nat}
    (h : written.map (digitValue? base) = digits.map some) :
    digitsValue base written = Nat.ofDigits base digits.reverse := by
  -- the digits read so far come before the value that the rest is added to
  have hfold : ∀ (written : List Char) (digits : List Nat) (start : Nat),
      written.map (digitValue? base) = digits.map some →
      written.foldl (fun n c => n * base + (digitValue? base c).getD 0) start =
        Nat.ofDigits base digits.reverse + base ^ digits.length * start := by
    intro written
    induction written with
    | nil =>
      intro digits start h
      obtain rfl : digits = [] := by simpa using h.symm
      simp
    | cons c written ih =>
      intro digits start h
      cases digits with
      | nil => simp at h
      | cons d digits =>
        simp only [List.map_cons, List.cons.injEq] at h
        rw [List.foldl_cons, ih digits _ h.2, h.1, Nat.ofDigits_reverse_cons, List.length_cons, Option.getD_some]
        ring
  simpa [digitsValue] using hfold written digits 0 h

/-- A numeral is a row of digits that is not empty, and stands for the value of the row. -/
theorem numeral_iff {base : Nat} (hbase : base ≤ 16) {written : List Char} {n : Nat} :
    Numeral base written n ↔
      written ≠ [] ∧ (∀ c ∈ written, (digitValue? base c).isSome) ∧ digitsValue base written = n := by
  constructor
  · rintro ⟨digits, hne, hlt, hwritten, rfl⟩
    have hvalues := (map_toLower_eq_iff hbase).1 ⟨hlt, hwritten⟩
    refine ⟨?_, ?_, digitsValue_eq hvalues⟩
    · rintro rfl
      exact hne (by simpa using hvalues.symm)
    · intro c hc
      have hmem : digitValue? base c ∈ digits.map some := hvalues ▸ List.mem_map_of_mem hc
      obtain ⟨d, -, hd⟩ := List.mem_map.1 hmem
      simp [← hd]
  · rintro ⟨hne, hdigits, rfl⟩
    have hvalues : written.map (digitValue? base) = (written.map fun c => (digitValue? base c).getD 0).map some := by
      rw [List.map_map]
      refine List.map_congr_left fun c hc => ?_
      obtain ⟨d, hd⟩ := Option.isSome_iff_exists.1 (hdigits c hc)
      simp [hd]
    obtain ⟨hlt, hwritten⟩ := (map_toLower_eq_iff hbase).2 hvalues
    exact ⟨_, by simpa using hne, hlt, hwritten, (digitsValue_eq hvalues).symm⟩

/-! ### References -/

/-- A complete reference, with the character that it stands for. -/
inductive Reference : List Char → Char → Prop
  | decimal {written : List Char} {c : Char} (h : Numeral 10 written c.toNat) :
      Reference ('&' :: '#' :: (written ++ [';'])) c
  | hexadecimal {written : List Char} {c : Char} (h : Numeral 16 written c.toNat) :
      Reference ('&' :: '#' :: 'x' :: (written ++ [';'])) c
  | named {name : String} {c : Char} (h : entityChar? name = some c) :
      Reference ('&' :: (name.toList ++ [';'])) c

/-- The names of the table are short, and words of letters and digits. -/
theorem entityTable_names : ∀ entry ∈ entityTable, entry.1.toList.length < nameScanLimit ∧
    entry.1.toList.all Char.isAlphanum := by
  decide +kernel

theorem names_of_entityChar? {name : String} {c : Char} (h : entityChar? name = some c) :
    name.toList.length < nameScanLimit ∧ ∀ c ∈ name.toList, c.isAlphanum := by
  obtain ⟨code, hcode, -⟩ := Option.map_eq_some_iff.1 h
  obtain ⟨before, after, htable, -⟩ := List.lookup_eq_some_iff.1 hcode
  obtain ⟨hlength, hwords⟩ := entityTable_names (name, code) (htable ▸ by simp)
  exact ⟨hlength, List.all_eq_true.1 hwords⟩

theorem charOfCode?_eq_some_iff {n : Nat} {c : Char} : charOfCode? n = some c ↔ c.toNat = n := by
  rw [charOfCode?]
  split
  next hvalid =>
    have hcode : (Char.ofNat n).toNat = n := by
      rw [Char.ofNat, dif_pos hvalid]
      rfl
    rw [Option.some.injEq, ← Char.toNat_inj, hcode]
    exact eq_comm
  next hvalid =>
    refine ⟨nofun, ?_⟩
    rintro rfl
    exact absurd c.valid hvalid

/-- A text that does not consist of such characters only: the row that it starts with, and what ends the row. -/
theorem exists_row_of_takeWhile {p : Char → Bool} {text : List Char} (h : (text.takeWhile p).length < text.length) :
    ∃ row stop rest, text = row ++ stop :: rest ∧ text.takeWhile p = row ∧ (∀ c ∈ row, p c) ∧ p stop = false := by
  have hsplit : text.takeWhile p ++ text.dropWhile p = text := List.takeWhile_append_dropWhile
  cases hrest : text.dropWhile p with
  | nil =>
    rw [hrest, List.append_nil] at hsplit
    rw [hsplit] at h
    omega
  | cons stop rest =>
    have hstop := List.head_dropWhile_not p (l := text) (by simp [hrest])
    simp only [hrest, List.head_cons] at hstop
    exact ⟨_, stop, rest, by rw [← hrest, hsplit], rfl, fun c hc => List.mem_takeWhile_imp hc, hstop⟩

theorem takeWhile_row {p : Char → Bool} {row : List Char} {stop : Char} (rest : List Char) (hrow : ∀ c ∈ row, p c)
    (hstop : p stop = false) : (row ++ stop :: rest).takeWhile p = row := by
  rw [List.takeWhile_append_of_pos hrow, List.takeWhile_cons_of_neg (by simp [hstop]), List.append_nil]

/-- The digits at the start of a text are read up to the first other character, which has to close the reference. -/
theorem numericReference?_eq_some_iff {base : Nat} (hbase : base ≤ 16) {lead width : Nat} {text : List Char}
    {c : Char} :
    numericReference? base lead text = some (c, width) ↔
      ∃ written rest, text = written ++ ';' :: rest ∧ Numeral base written c.toNat ∧
        width = lead + written.length + 1 := by
  simp only [numeral_iff hbase, numericReference?, List.head?_drop]
  constructor
  · intro h
    split at h
    · cases h
    next hopen =>
      simp only [Bool.or_eq_true, not_or, List.isEmpty_iff, Bool.not_eq_true', Bool.not_eq_false, beq_iff_eq]
        at hopen
      obtain ⟨hne, hclosed⟩ := hopen
      obtain ⟨row, stop, rest, rfl, htake, hrow, -⟩ :=
        exists_row_of_takeWhile (List.getElem?_eq_some_iff.1 hclosed).1
      rw [htake] at hne hclosed h
      obtain rfl : stop = ';' := by simpa using hclosed
      obtain ⟨decoded, hdecoded, hpair⟩ := Option.map_eq_some_iff.1 h
      obtain ⟨rfl, rfl⟩ := Prod.mk.inj hpair
      exact ⟨row, rest, rfl, ⟨hne, hrow, (charOfCode?_eq_some_iff.1 hdecoded).symm⟩, rfl⟩
  · rintro ⟨written, rest, rfl, ⟨hne, hdigits, hvalue⟩, rfl⟩
    rw [takeWhile_row rest hdigits (by simp [digitValue?])]
    simp [hne, charOfCode?_eq_some_iff.2 hvalue.symm]

/-- The search for the end of a name reaches far enough for every name of the table. -/
theorem namedReference?_eq_some_iff {width : Nat} {text : List Char} {c : Char} :
    namedReference? text = some (c, width) ↔
      ∃ name rest, text = name.toList ++ ';' :: rest ∧ entityChar? name = some c ∧
        width = name.toList.length + 1 := by
  simp only [namedReference?]
  constructor
  · intro h
    split at h
    next hclosed =>
      obtain ⟨row, stop, rest, hwindow, htake, -, hstop⟩ := exists_row_of_takeWhile hclosed
      obtain rfl : stop = ';' := by simpa using hstop
      rw [htake] at h
      obtain ⟨decoded, hdecoded, hpair⟩ := Option.map_eq_some_iff.1 h
      obtain ⟨rfl, rfl⟩ := Prod.mk.inj hpair
      refine ⟨String.ofList row, rest ++ text.drop nameScanLimit, ?_, hdecoded, by rw [String.toList_ofList]⟩
      rw [String.toList_ofList, ← List.cons_append, ← List.append_assoc, ← hwindow, List.take_append_drop]
    · cases h
  · rintro ⟨name, rest, rfl, hname, rfl⟩
    obtain ⟨hshort, hletters⟩ := names_of_entityChar? hname
    obtain ⟨k, hk⟩ := Nat.exists_eq_add_of_lt hshort
    have hwindow : (name.toList ++ ';' :: rest).take nameScanLimit = name.toList ++ ';' :: rest.take k := by
      rw [hk, Nat.add_assoc, List.take_length_add_append, List.take_succ_cons]
    have hplain : ∀ c ∈ name.toList, decide (c ≠ ';') := by
      intro c hc
      rw [decide_eq_true_eq]
      rintro rfl
      exact absurd (hletters _ hc) (by decide)
    rw [hwindow, takeWhile_row _ hplain (by decide)]
    simp [hname]

/-- The reference after an ampersand is the complete reference that starts with this ampersand. -/
theorem reference?_eq_some_iff {text : List Char} {c : Char} {width : Nat} :
    reference? text = some (c, width) ↔
      ∃ written rest, '&' :: text = written ++ rest ∧ Reference written c ∧ written.length = width + 1 := by
  constructor
  · intro h
    rw [reference?.eq_def] at h
    split at h
    next digits =>
      obtain ⟨written, rest, rfl, hnumeral, rfl⟩ := (numericReference?_eq_some_iff (by decide)).1 h
      exact ⟨_, rest, by simp, .hexadecimal hnumeral, by simp; omega⟩
    next digits hx =>
      obtain ⟨written, rest, rfl, hnumeral, rfl⟩ := (numericReference?_eq_some_iff (by decide)).1 h
      exact ⟨_, rest, by simp, .decimal hnumeral, by simp; omega⟩
    next =>
      obtain ⟨name, rest, rfl, hname, rfl⟩ := namedReference?_eq_some_iff.1 h
      exact ⟨_, rest, by simp, .named hname, by simp⟩
  · rintro ⟨_, rest, htext, href, hwidth⟩
    -- the first characters tell the three forms apart: no decimal digit is an `x`, and no name starts with `#`
    cases href with
    | @decimal written c hnumeral =>
      obtain ⟨hne, hdigits, -⟩ := (numeral_iff (by decide)).1 hnumeral
      have hfound : numericReference? 10 1 (written ++ ';' :: rest) = some (c, width) :=
        (numericReference?_eq_some_iff (by decide)).2 ⟨written, rest, rfl, hnumeral, by simp at hwidth; omega⟩
      obtain ⟨d, digits, rfl⟩ := List.exists_cons_of_ne_nil hne
      have hx : d ≠ 'x' := by
        rintro rfl
        exact absurd (hdigits 'x' (by simp)) (by decide)
      obtain rfl : text = '#' :: d :: (digits ++ ';' :: rest) := by simpa using htext
      rw [reference?]
      · exact hfound
      · rintro more ⟨⟩
        exact hx rfl
    | @hexadecimal written c hnumeral =>
      obtain rfl : text = '#' :: 'x' :: (written ++ ';' :: rest) := by simpa using htext
      exact (numericReference?_eq_some_iff (by decide)).2 ⟨written, rest, rfl, hnumeral, by simp at hwidth; omega⟩
    | @named name c hname =>
      have hhash : ∀ more, name.toList ++ ';' :: rest ≠ '#' :: more := by
        intro more hmore
        cases hletters : name.toList with
        | nil => simp [hletters] at hmore
        | cons first letters =>
          obtain ⟨rfl, -⟩ : first = '#' ∧ letters ++ ';' :: rest = more := by simpa [hletters] using hmore
          exact absurd ((names_of_entityChar? hname).2 '#' (by simp [hletters])) (by decide)
      obtain rfl : text = name.toList ++ ';' :: rest := by simpa using htext
      rw [reference?]
      · exact namedReference?_eq_some_iff.2 ⟨name, rest, rfl, hname, by simpa using hwidth.symm⟩
      · exact fun more h => hhash _ h
      · exact fun more h => hhash _ h

/-! ### Reading a text -/

/-- A text, and what remains of it when it is read from left to right: a complete reference is replaced by its character
and reading goes on behind it, and a character that starts no complete reference is copied. -/
inductive Decodes : List Char → List Char → Prop
  | nil : Decodes [] []
  | reference {written rest decoded : List Char} {c : Char} (h : Reference written c) (hrest : Decodes rest decoded) :
      Decodes (written ++ rest) (c :: decoded)
  | copy {rest decoded : List Char} {c : Char} (h : ∀ written d, Reference written d → ¬ written <+: c :: rest)
      (hrest : Decodes rest decoded) : Decodes (c :: rest) (c :: decoded)

theorem Reference.exists_eq_cons {written : List Char} {c : Char} (h : Reference written c) :
    ∃ rest, written = '&' :: rest := by
  cases h <;> exact ⟨_, rfl⟩

/-- What is passed over leaves no trace. -/
theorem decodeAfter_eq_drop (skip : Nat) (text : List Char) :
    decodeAfter skip text = decodeChars (text.drop skip) := by
  induction text generalizing skip with
  | nil => cases skip <;> rfl
  | cons c rest ih =>
    cases skip with
    | zero => rfl
    | succ skip => exact ih skip

theorem decodeChars_reference {written : List Char} {c : Char} (h : Reference written c) (rest : List Char) :
    decodeChars (written ++ rest) = c :: decodeChars rest := by
  obtain ⟨inner, rfl⟩ := h.exists_eq_cons
  have hfound : reference? (inner ++ rest) = some (c, inner.length) :=
    reference?_eq_some_iff.2 ⟨_, rest, rfl, h, rfl⟩
  rw [decodeChars, List.cons_append, decodeAfter, if_pos rfl, hfound]
  simp [decodeAfter_eq_drop]

theorem decodeChars_copy {c : Char} {rest : List Char}
    (h : ∀ written d, Reference written d → ¬ written <+: c :: rest) :
    decodeChars (c :: rest) = c :: decodeChars rest := by
  rw [decodeChars, decodeAfter]
  by_cases hc : c = '&'
  · subst hc
    have hnone : reference? rest = none := by
      refine Option.eq_none_iff_forall_ne_some.2 fun ⟨d, width⟩ hfound => ?_
      obtain ⟨written, after, htext, href, -⟩ := reference?_eq_some_iff.1 hfound
      exact h written d href ⟨after, htext.symm⟩
    rw [if_pos rfl, hnone]
    rfl
  · rw [if_neg hc]
    rfl

/-- Every text can be read. -/
theorem exists_decodes (text : List Char) : ∃ decoded, Decodes text decoded := by
  induction hn : text.length using Nat.strong_induction_on generalizing text with
  | _ n ih =>
    cases text with
    | nil => exact ⟨[], .nil⟩
    | cons c rest =>
      by_cases h : ∃ written d, Reference written d ∧ written <+: c :: rest
      · obtain ⟨written, d, href, after, htext⟩ := h
        obtain ⟨inner, rfl⟩ := href.exists_eq_cons
        have hlt : after.length < n := by
          have := congrArg List.length htext
          simp at this hn
          omega
        obtain ⟨decoded, hdecoded⟩ := ih _ hlt after rfl
        exact ⟨d :: decoded, htext ▸ .reference href hdecoded⟩
      · obtain ⟨decoded, hdecoded⟩ := ih rest.length (by simp at hn; omega) rest rfl
        exact ⟨c :: decoded, .copy (fun written d href hstart => h ⟨written, d, href, hstart⟩) hdecoded⟩

/-- Decoding gives what remains of the text when it is read, and there is only one way to read it. -/
theorem decodeChars_eq_iff {text decoded : List Char} : decodeChars text = decoded ↔ Decodes text decoded := by
  have hread : ∀ {text decoded : List Char}, Decodes text decoded → decodeChars text = decoded := by
    intro text decoded h
    induction h with
    | nil => rfl
    | reference href _ ih => rw [decodeChars_reference href, ih]
    | copy h _ ih => rw [decodeChars_copy h, ih]
  refine ⟨?_, hread⟩
  rintro rfl
  obtain ⟨decoded, h⟩ := exists_decodes text
  rwa [hread h]

/-! ### References in any place -/

/-- Whether a character may stand in a reference, behind its ampersand. -/
def isReferenceChar (c : Char) : Bool := c.isAlphanum || c == '#' || c == ';'

theorem Numeral.isAlphanum {written : List Char} {base n : Nat} (hbase : base ≤ 16) (h : Numeral base written n) :
    ∀ c ∈ written, c.isAlphanum := by
  obtain ⟨digits, -, hlt, hwritten, -⟩ := h
  intro c hc
  obtain ⟨d, hd, hlower⟩ := List.mem_map.1 (hwritten ▸ List.mem_map_of_mem (f := Char.toLower) hc)
  have hcode : c.toLower.toNat = if d < 10 then d + 48 else d + 87 := by
    rw [← hlower, toNat_digitChar d (lt_of_lt_of_le (hlt d hd) hbase)]
  have hd := hlt d hd
  rw [toNat_toLower] at hcode
  delta Char.isAlphanum Char.isAlpha Char.isUpper Char.isLower Char.isDigit
  simp only [Bool.or_eq_true, Bool.and_eq_true, decide_eq_true_eq, ge_iff_le, UInt32.le_iff_toNat_le, Char.toNat_val,
    Char.reduceToNat]
  split_ifs at hcode <;> omega

/-- A complete reference is letters, digits and number signs between an ampersand and a semicolon. -/
theorem Reference.exists_body {written : List Char} {c : Char} (h : Reference written c) :
    ∃ body, written = '&' :: (body ++ [';']) ∧ ∀ d ∈ body, d.isAlphanum ∨ d = '#' := by
  cases h with
  | @decimal digits _ h =>
    have hdigits := h.isAlphanum (by decide)
    exact ⟨'#' :: digits, rfl, List.forall_mem_cons.2 ⟨.inr rfl, fun d hd => .inl (hdigits d hd)⟩⟩
  | @hexadecimal digits _ h =>
    have hdigits := h.isAlphanum (by decide)
    exact ⟨'#' :: 'x' :: digits, rfl, List.forall_mem_cons.2 ⟨.inr rfl,
      List.forall_mem_cons.2 ⟨.inl (by decide), fun d hd => .inl (hdigits d hd)⟩⟩⟩
  | @named name _ h => exact ⟨name.toList, rfl, fun d hd => .inl ((names_of_entityChar? h).2 d hd)⟩

/-- A complete reference that is cut in two has its ampersand in the first part and its semicolon in the last. -/
theorem Reference.exists_cut {inner outer : List Char} {c : Char} (h : Reference (inner ++ outer) c)
    (hinner : inner ≠ []) (houter : outer ≠ []) :
    ∃ start stop, inner = '&' :: start ∧ outer = stop ++ [';'] ∧ ∀ d ∈ start ++ stop, d.isAlphanum ∨ d = '#' := by
  obtain ⟨body, hwritten, hbody⟩ := h.exists_body
  obtain ⟨first, start, rfl⟩ := List.exists_cons_of_ne_nil hinner
  obtain ⟨stop, last, rfl⟩ := (List.eq_nil_or_concat outer).resolve_left houter
  rw [List.concat_eq_append, List.cons_append, List.cons.injEq, ← List.append_assoc] at hwritten
  obtain ⟨rfl, hwritten⟩ := hwritten
  obtain ⟨rfl, hlast⟩ := List.append_inj' hwritten rfl
  obtain rfl : last = ';' := by simpa using hlast
  exact ⟨start, stop, rfl, by simp, hbody⟩

theorem not_mem_of_body {body : List Char} (h : ∀ d ∈ body, d.isAlphanum ∨ d = '#') : '&' ∉ body ∧ ';' ∉ body := by
  constructor
  · exact fun hmem => absurd (h '&' hmem) (by decide)
  · exact fun hmem => absurd (h ';' hmem) (by decide)

/-- No complete reference starts in the first text and ends in the last. -/
def Parted (first last : List Char) : Prop :=
  ∀ inner outer c, inner <:+ first → inner ≠ [] → outer <+: last → outer ≠ [] → ¬ Reference (inner ++ outer) c

theorem Parted.of_suffix {first rest last : List Char} (h : Parted first last) (hrest : rest <:+ first) :
    Parted rest last :=
  fun inner outer c hinner => h inner outer c (hinner.trans hrest)

/-- A reference that starts in the first of two parted texts ends in it. -/
theorem Parted.prefix_of_prefix_append {first last written : List Char} {c : Char} (h : Parted first last)
    (hne : first ≠ []) (href : Reference written c) (hstart : written <+: first ++ last) : written <+: first := by
  rcases List.prefix_or_prefix_of_prefix hstart (List.prefix_append first last) with hwithin | ⟨outer, rfl⟩
  · exact hwithin
  · by_cases houter : outer = []
    · simp [houter]
    · exact absurd href (h first outer c (List.suffix_refl first) hne
        ((List.prefix_append_right_inj first).1 hstart) houter)

/-- Two parted texts are read each on its own. -/
theorem Decodes.append {first last decoded decoded' : List Char} (h : Decodes first decoded)
    (hlast : Decodes last decoded') (hparted : Parted first last) :
    Decodes (first ++ last) (decoded ++ decoded') := by
  induction h with
  | nil => exact hlast
  | reference href _ ih =>
    rw [List.append_assoc, List.cons_append]
    exact .reference href (ih (hparted.of_suffix (List.suffix_append _ _)))
  | copy h _ ih =>
    exact .copy (fun written d href hstart =>
      h written d href (hparted.prefix_of_prefix_append (List.cons_ne_nil _ _) href hstart))
      (ih (hparted.of_suffix (List.suffix_cons _ _)))

/-- A text that starts with no character of a reference is parted from every text before it. -/
theorem parted_of_head {first last : List Char} (h : ∀ d ∈ last.head?, isReferenceChar d = false) :
    Parted first last := by
  intro inner outer c _ hinner houter hne href
  obtain ⟨start, stop, -, rfl, hbody⟩ := href.exists_cut hinner hne
  obtain ⟨after, rfl⟩ := houter
  cases stop with
  | nil => exact absurd (h ';' (by simp)) (by decide)
  | cons d stop =>
    have hd := h d (by simp)
    have := hbody d (by simp)
    grind [isReferenceChar]

/-- Wherever a complete reference stands, the texts before it and after it are read on their own. -/
theorem Reference.decodes {written : List Char} {c : Char} (h : Reference written c) (before after : List Char) :
    Decodes (before ++ (written ++ after)) (decodeChars before ++ c :: decodeChars after) := by
  refine (decodeChars_eq_iff.1 rfl).append (.reference h (decodeChars_eq_iff.1 rfl)) (parted_of_head ?_)
  obtain ⟨inner, rfl⟩ := h.exists_eq_cons
  rintro d ⟨⟩
  rfl

/-- Decoding is the replacement of all complete references at once: it is the one reading of a text from left to right
in which complete references are replaced and all else is copied, and wherever in the text a complete reference stands,
it becomes its character, between what the text before it and the text after it become alone. -/
theorem decodeEntities_replaces_references (text : String) :
    (∀ decoded : String, decodeEntities text = decoded ↔ Decodes text.toList decoded.toList) ∧
    ∀ (before written after : List Char) (c : Char), text.toList = before ++ written ++ after → Reference written c →
      decodeEntities text = decodeEntities (.ofList before) ++ c.toString ++ decodeEntities (.ofList after) := by
  constructor
  · intro decoded
    rw [← decodeChars_eq_iff, decodeEntities, ← String.toList_inj, String.toList_ofList]
  · intro before written after c htext href
    have hread := href.decodes before after
    rw [← List.append_assoc, ← htext, ← decodeChars_eq_iff] at hread
    simp [decodeEntities, hread, ← String.toList_inj]

/-- A reference behind an ampersand that starts none, before a text that looks like the end of one. -/
theorem decodeEntities_reference_between :
    "&&#x0041;;&lt".toList = ['&'] ++ "&#x0041;".toList ++ ";&lt".toList ∧ Reference "&#x0041;".toList 'A' ∧
      decodeEntities "&&#x0041;;&lt" = "&A;&lt" := by
  have htext : "&&#x0041;;&lt".toList = ['&'] ++ "&#x0041;".toList ++ ";&lt".toList := by decide
  have hnumeral : Numeral 16 "0041".toList 'A'.toNat := ⟨[0, 0, 4, 1], by decide, by decide, by decide, by decide⟩
  have href : Reference "&#x0041;".toList 'A' := .hexadecimal hnumeral
  refine ⟨htext, href, ?_⟩
  rw [(decodeEntities_replaces_references _).2 _ _ _ _ htext href]
  decide +kernel

/-! ### Texts that are put together -/

/-- A text that closes no reference is copied. -/
theorem decodeChars_of_not_mem_semicolon {text : List Char} (h : ';' ∉ text) : decodeChars text = text := by
  induction text with
  | nil => rfl
  | cons c text ih =>
    have hnone : ∀ written d, Reference written d → ¬ written <+: c :: text := by
      intro written d href hstart
      obtain ⟨body, rfl, -⟩ := href.exists_body
      exact h (hstart.subset (by simp))
    rw [decodeChars_copy hnone, ih (List.not_mem_of_not_mem_cons h)]

/-- A text that opens no reference is copied, and does not change how the text after it is read. -/
theorem decodeChars_append_of_not_mem_ampersand {first : List Char} (h : '&' ∉ first) (last : List Char) :
    decodeChars (first ++ last) = first ++ decodeChars last := by
  induction first with
  | nil => rfl
  | cons c first ih =>
    have hnone : ∀ written d, Reference written d → ¬ written <+: c :: (first ++ last) := by
      intro written d href hstart
      obtain ⟨inner, rfl⟩ := href.exists_eq_cons
      obtain rfl := (List.cons_prefix_cons.1 hstart).1
      exact h List.mem_cons_self
    rw [List.cons_append, decodeChars_copy hnone, ih (List.not_mem_of_not_mem_cons h), List.cons_append]

/-- Two texts are decoded each on its own exactly if no complete reference stands across the place where they meet. -/
theorem decodeChars_append_iff {first last : List Char} :
    decodeChars (first ++ last) = decodeChars first ++ decodeChars last ↔ Parted first last := by
  constructor
  · rintro h inner outer c ⟨before, rfl⟩ hinner ⟨after, rfl⟩ houter href
    obtain ⟨start, stop, rfl, rfl, hbody⟩ := href.exists_cut hinner houter
    obtain ⟨hopen, hclose⟩ := not_mem_of_body hbody
    rw [List.mem_append, not_or] at hopen hclose
    -- put together the two parts become one character, and apart both are copied
    have hwhole : decodeChars (before ++ '&' :: start ++ (stop ++ [';'] ++ after)) =
        decodeChars before ++ c :: decodeChars after := by
      simpa using decodeChars_eq_iff.2 (href.decodes before after)
    have hinner : decodeChars (before ++ '&' :: start) = decodeChars before ++ '&' :: start := by
      have hparted : Parted before ('&' :: start) := parted_of_head (by rintro d ⟨⟩; rfl)
      have hcopied : decodeChars ('&' :: start) = '&' :: start := decodeChars_of_not_mem_semicolon (by simp [hclose.1])
      exact decodeChars_eq_iff.2 ((decodeChars_eq_iff.1 rfl).append (decodeChars_eq_iff.1 hcopied) hparted)
    have houter : decodeChars (stop ++ [';'] ++ after) = stop ++ [';'] ++ decodeChars after :=
      decodeChars_append_of_not_mem_ampersand (by simp [hopen.2]) after
    rw [hwhole, hinner, houter] at h
    have := congrArg List.length h
    simp at this
    omega
  · exact fun h => decodeChars_eq_iff.2 ((decodeChars_eq_iff.1 rfl).append (decodeChars_eq_iff.1 rfl) h)

/-- What stands behind the last of the characters that equal `c`. -/
theorem eq_of_append_cons_eq {c : Char} {before before' after after' : List Char}
    (h : before ++ c :: after = before' ++ c :: after') (hafter : c ∉ after) (hafter' : c ∉ after') :
    after = after' := by
  rcases List.append_eq_append_iff.1 h with ⟨between, rfl, hbetween⟩ | ⟨between, rfl, hbetween⟩
  · cases between <;> simp_all
  · cases between <;> simp_all

/-- The places where a text can be divided whatever the parts hold otherwise. -/
inductive SafeBoundary (first last : List Char) : Prop
  /-- No reference has been opened. -/
  | unopened (h : '&' ∉ first)
  /-- The last ampersand is followed by a semicolon. -/
  | closed {before after : List Char} (hfirst : first = before ++ '&' :: after) (hlast : '&' ∉ after)
      (hclosed : ';' ∈ after)
  /-- Nothing follows, or a character that no reference holds behind its ampersand. -/
  | stopped (h : ∀ c ∈ last.head?, isReferenceChar c = false)

theorem SafeBoundary.parted {first last : List Char} (h : SafeBoundary first last) : Parted first last := by
  cases h with
  | unopened h =>
    intro inner outer c hsuffix hinner _ houter href
    obtain ⟨start, stop, rfl, -, -⟩ := href.exists_cut hinner houter
    exact h (hsuffix.subset (by simp))
  | @closed before after hfirst hlast hclosed =>
    rintro inner outer c ⟨before', hfirst'⟩ hinner - houter href
    obtain ⟨start, stop, rfl, -, hbody⟩ := href.exists_cut hinner houter
    obtain ⟨hopen, hclose⟩ := not_mem_of_body hbody
    rw [List.mem_append, not_or] at hopen hclose
    -- the reference starts at the last ampersand, because it holds no other
    have hstart : start = after := eq_of_append_cons_eq (hfirst'.trans hfirst) hopen.1 hlast
    exact hclose.1 (hstart ▸ hclosed)
  | stopped h => exact parted_of_head h

/-- Decoding distributes over a division of a text at every safe boundary. -/
theorem decodeEntities_append (first last : String) (h : SafeBoundary first.toList last.toList) :
    decodeEntities (first ++ last) = decodeEntities first ++ decodeEntities last := by
  rw [decodeEntities, String.toList_append, decodeChars_append_iff.2 h.parted, String.ofList_append]
  rfl

/-- A boundary behind a reference that fails, before what would have been its digits. -/
theorem decodeEntities_append_behind_failure :
    SafeBoundary "&&#x;".toList "41;&lt;".toList ∧
      decodeEntities ("&&#x;" ++ "41;&lt;") = decodeEntities "&&#x;" ++ decodeEntities "41;&lt;" ∧
      decodeEntities "&&#x;" ++ decodeEntities "41;&lt;" = "&&#x;41;<" := by
  have hsafe : SafeBoundary "&&#x;".toList "41;&lt;".toList :=
    .closed (show "&&#x;".toList = ['&'] ++ '&' :: "#x;".toList by decide) (by decide) (by decide)
  exact ⟨hsafe, decodeEntities_append _ _ hsafe, by decide +kernel⟩

/-! ### Escaped texts -/

/-- The ways to write a character. -/
inductive Escape (c : Char) : List Char → Prop
  | plain (h : c ≠ '&') : Escape c [c]
  | decimal (zeros : Nat) : Escape c ('&' :: '#' :: (List.replicate zeros '0' ++ Nat.toDigits 10 c.toNat ++ [';']))
  | hexadecimal (zeros : Nat) {digits : List Char} (h : digits.map Char.toLower = Nat.toDigits 16 c.toNat) :
      Escape c ('&' :: '#' :: 'x' :: (List.replicate zeros '0' ++ digits ++ [';']))
  | named {name : String} (h : entityChar? name = some c) : Escape c ('&' :: (name.toList ++ [';']))

/-- The digits of a number, as they are printed. -/
theorem toDigits_eq_map_digitChar {base : Nat} (hbase : 1 < base) (n : Nat) :
    ∃ digits : List Nat, digits ≠ [] ∧ (∀ d ∈ digits, d < base) ∧
      Nat.toDigits base n = digits.map Nat.digitChar ∧ Nat.ofDigits base digits.reverse = n := by
  induction n using Nat.strong_induction_on with
  | _ n ih =>
    rw [Nat.toDigits_eq_if hbase]
    split
    next hlt => exact ⟨[n], by simp, by simpa using hlt, rfl, by simp⟩
    next hle =>
      obtain ⟨digits, -, hdigits, hwritten, hvalue⟩ := ih (n / base) (Nat.div_lt_self (by omega) hbase)
      refine ⟨digits ++ [n % base], by simp, ?_, by simp [hwritten], ?_⟩
      · intro d hd
        rcases List.mem_append.1 hd with hd | hd
        · exact hdigits d hd
        · rw [List.mem_singleton.1 hd]
          exact Nat.mod_lt n (by omega)
      · rw [List.reverse_append, List.reverse_singleton, List.singleton_append, Nat.ofDigits_cons, hvalue]
        exact Nat.mod_add_div n base

theorem map_toLower_toDigits {base : Nat} (hbase : 1 < base) (hbase' : base ≤ 16) (n : Nat) :
    (Nat.toDigits base n).map Char.toLower = Nat.toDigits base n := by
  have hlower : ∀ d < 16, (Nat.digitChar d).toLower = Nat.digitChar d := by decide
  obtain ⟨digits, -, hdigits, hwritten, -⟩ := toDigits_eq_map_digitChar hbase n
  rw [hwritten, List.map_map]
  exact List.map_congr_left fun d hd => hlower d (lt_of_lt_of_le (hdigits d hd) hbase')

/-- The digits of a number with zeros before them, in either case, are a numeral for it. -/
theorem numeral_zeros_append {base : Nat} (hbase : 1 < base) {written : List Char} {n : Nat}
    (h : written.map Char.toLower = Nat.toDigits base n) (zeros : Nat) :
    Numeral base (List.replicate zeros '0' ++ written) n := by
  obtain ⟨digits, hne, hdigits, hwritten, hvalue⟩ := toDigits_eq_map_digitChar hbase n
  refine ⟨List.replicate zeros 0 ++ digits, by simp [hne], ?_, ?_, ?_⟩
  · intro d hd
    rcases List.mem_append.1 hd with hd | hd
    · rw [List.eq_of_mem_replicate hd]
      omega
    · exact hdigits d hd
  · rw [List.map_append, List.map_append, h, hwritten, List.map_replicate, List.map_replicate]
    rfl
  · rw [List.reverse_append, List.reverse_replicate, Nat.ofDigits_append_replicate_zero, hvalue]

/-- Every way to write a character but the plain one is a complete reference. -/
theorem Escape.plain_or_reference {c : Char} {piece : List Char} (h : Escape c piece) :
    (c ≠ '&' ∧ piece = [c]) ∨ Reference piece c := by
  cases h with
  | plain h => exact .inl ⟨h, rfl⟩
  | decimal zeros =>
    have hlower : (Nat.toDigits 10 c.toNat).map Char.toLower = Nat.toDigits 10 c.toNat :=
      map_toLower_toDigits (by decide) (by decide) c.toNat
    exact .inr (.decimal (numeral_zeros_append (by decide) hlower zeros))
  | hexadecimal zeros h => exact .inr (.hexadecimal (numeral_zeros_append (by decide) h zeros))
  | named h => exact .inr (.named h)

/-- A text whose characters are written in any of their ways is read as the text. -/
theorem decodes_escaped {text : List Char} {pieces : List (List Char)} (h : List.Forall₂ Escape text pieces) :
    Decodes pieces.flatten text := by
  induction h with
  | nil => exact .nil
  | @cons c piece text pieces hpiece _ ih =>
    rw [List.flatten_cons]
    rcases hpiece.plain_or_reference with ⟨hc, rfl⟩ | href
    · refine .copy (fun written d href hstart => hc ?_) ih
      obtain ⟨inner, rfl⟩ := href.exists_eq_cons
      exact (List.cons_prefix_cons.1 hstart).1.symm
    · exact .reference href ih

/-- Decoding undoes every escaping, whatever way is chosen for each character.  So a text that is escaped once more is
decoded to the text that was escaped once. -/
theorem decodeEntities_unescapes (text : String) (pieces : List (List Char))
    (h : List.Forall₂ Escape text.toList pieces) :
    decodeEntities (.ofList pieces.flatten) = text ∧
    ∀ again : List (List Char), List.Forall₂ Escape pieces.flatten again →
      decodeEntities (.ofList again.flatten) = .ofList pieces.flatten := by
  have hundo : ∀ {chars : List Char} {pieces : List (List Char)}, List.Forall₂ Escape chars pieces →
      decodeEntities (.ofList pieces.flatten) = .ofList chars := by
    intro chars pieces hpieces
    rw [decodeEntities, String.toList_ofList, decodeChars_eq_iff.2 (decodes_escaped hpieces)]
  refine ⟨?_, fun again hagain => hundo hagain⟩
  rw [hundo h, String.ofList_toList]

/-- Four characters, each written in another way. -/
theorem decodeEntities_escaped_four_ways :
    List.Forall₂ Escape "a&<#".toList ["a".toList, "&#0038;".toList, "&lt;".toList, "&#x000023;".toList] ∧
      decodeEntities "a&#0038;&lt;&#x000023;" = "a&<#" := by
  have hlt : entityChar? "lt" = some '<' := by decide +kernel
  have hhash : "23".toList.map Char.toLower = Nat.toDigits 16 '#'.toNat := by decide
  have hpieces : List.Forall₂ Escape "a&<#".toList
      ["a".toList, "&#0038;".toList, "&lt;".toList, "&#x000023;".toList] :=
    .cons (.plain (by decide)) (.cons (.decimal 2) (.cons (.named hlt) (.cons (.hexadecimal 4 hhash) .nil)))
  exact ⟨hpieces, (decodeEntities_unescapes "a&<#" _ hpieces).1⟩

end JsxLowering.Text
