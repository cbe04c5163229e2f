import JsxLowering.Proofs.References

/-!
# JSON texts

The values of JSON, and the grammar of their texts.  `Value text v rest` says that the text starts with a writing of the
value `v`, and that `rest` follows it; the same form serves for white space, for the characters of strings and for what
follows the first entry of a list or an object.

A text is written for one value only (`Document.unique`).
-/

namespace JsxLowering

open Text (Numeral)

/-- A JSON value.  A number is kept as it is written. -/
inductive Json where
  | null
  | boolean (value : Bool)
  | number (written : List Char)
  | string (value : String)
  | array (values : List Json)
  | object (entries : List (String × Json))

namespace Json

/-! ### The grammar -/

/-- The white space of JSON. -/
def blanks : List Char := [' ', '\t', '\n', '\r']

/-- White space may stand between what comes before and the rest. -/
inductive Skips : List Char → List Char → Prop
  | none {text : List Char} : Skips text text
  | blank {c : Char} {text rest : List Char} (hc : c ∈ blanks) (h : Skips text rest) :
      Skips (c :: text) rest

/-- The escapes with one letter. -/
def shortEscapes : List (Char × Char) :=
  [('"', '"'), ('\\', '\\'), ('/', '/'), ('b', '\x08'), ('f', '\x0C'), ('n', '\n'), ('r', '\r'), ('t', '\t')]

/-- Four hexadecimal digits. -/
inductive Hex : List Char → Nat → List Char → Prop
  | mk {digits rest : List Char} {n : Nat} (hlength : digits.length = 4) (h : Numeral 16 digits n) :
      Hex (digits ++ rest) n rest

/-- The code point that a pair of surrogates stands for. -/
def pairCode (high low : Nat) : Nat := 0x10000 + (high - 0xD800) * 0x400 + (low - 0xDC00)

/-- One character of a string, written in one of its ways.  Halves of a pair of surrogates stand for nothing alone. -/
inductive Character : List Char → Char → List Char → Prop
  | plain {c : Char} {rest : List Char} (hquote : c ≠ '"') (hescape : c ≠ '\\') (hcode : 0x20 ≤ c.toNat) :
      Character (c :: rest) c rest
  | short {mark c : Char} {rest : List Char} (h : (mark, c) ∈ shortEscapes) :
      Character ('\\' :: mark :: rest) c rest
  | code {text rest : List Char} {c : Char} (h : Hex text c.toNat rest) : Character ('\\' :: 'u' :: text) c rest
  | pair {text more rest : List Char} {high low : Nat} {c : Char} (hhigh : Hex text high ('\\' :: 'u' :: more))
      (hlow : Hex more low rest) (hleading : 0xD800 ≤ high ∧ high < 0xDC00) (htrailing : 0xDC00 ≤ low ∧ low < 0xE000)
      (hc : c.toNat = pairCode high low) : Character ('\\' :: 'u' :: text) c rest

/-- The characters of a string up to and with its closing quote. -/
inductive Characters : List Char → List Char → List Char → Prop
  | close {rest : List Char} : Characters ('"' :: rest) [] rest
  | next {text more rest chars : List Char} {c : Char} (h : Character text c more)
      (hmore : Characters more chars rest) : Characters text (c :: chars) rest

/-- Digits, at least one. -/
def Digits (written : List Char) : Prop := written ≠ [] ∧ ∀ c ∈ written, c.isDigit

/-- A number: a sign, a whole part without needless zeros, a fraction and an exponent. -/
inductive Number : List Char → Prop
  | mk {sign whole fraction exponent : List Char} (hsign : sign = [] ∨ sign = ['-']) (hwhole : Digits whole)
      (hzero : whole.head? = some '0' → whole = ['0'])
      (hfraction : fraction = [] ∨ ∃ digits, Digits digits ∧ fraction = '.' :: digits)
      (hexponent : exponent = [] ∨ ∃ mark sign digits, (mark = 'e' ∨ mark = 'E') ∧
        (sign = [] ∨ sign = ['+'] ∨ sign = ['-']) ∧ Digits digits ∧ exponent = mark :: (sign ++ digits)) :
      Number (sign ++ (whole ++ (fraction ++ exponent)))

/-- The key of an entry and the colon after it. -/
inductive Key : List Char → String → List Char → Prop
  | mk {text inner colon rest : List Char} {key : String} (hquote : Skips text ('"' :: inner))
      (hkey : Characters inner key.toList colon) (hcolon : Skips colon (':' :: rest)) : Key text key rest

mutual

/-- A value. -/
inductive Value : List Char → Json → List Char → Prop
  | null {rest : List Char} : Value ("null".toList ++ rest) .null rest
  | boolean {b : Bool} {rest : List Char} : Value ((if b then "true" else "false").toList ++ rest) (.boolean b) rest
  | number {written rest : List Char} (h : Number written) : Value (written ++ rest) (.number written) rest
  | string {text rest : List Char} {value : String} (h : Characters text value.toList rest) :
      Value ('"' :: text) (.string value) rest
  | emptyArray {text rest : List Char} (h : Skips text (']' :: rest)) : Value ('[' :: text) (.array []) rest
  | array {text start next rest : List Char} {value : Json} {values : List Json} (hstart : Skips text start)
      (h : Value start value next) (hnext : Items next values rest) :
      Value ('[' :: text) (.array (value :: values)) rest
  | emptyObject {text rest : List Char} (h : Skips text ('}' :: rest)) : Value ('{' :: text) (.object []) rest
  | object {text colon start next rest : List Char} {key : String} {value : Json} {entries : List (String × Json)}
      (hkey : Key text key colon) (hstart : Skips colon start) (h : Value start value next)
      (hnext : Members next entries rest) : Value ('{' :: text) (.object ((key, value) :: entries)) rest

/-- The values of a list after one of them, and its closing bracket. -/
inductive Items : List Char → List Json → List Char → Prop
  | close {text rest : List Char} (h : Skips text (']' :: rest)) : Items text [] rest
  | comma {text more start next rest : List Char} {value : Json} {values : List Json}
      (hcomma : Skips text (',' :: more)) (hstart : Skips more start) (h : Value start value next)
      (hnext : Items next values rest) : Items text (value :: values) rest

/-- The entries of an object after one of them, and its closing brace. -/
inductive Members : List Char → List (String × Json) → List Char → Prop
  | close {text rest : List Char} (h : Skips text ('}' :: rest)) : Members text [] rest
  | comma {text more colon start next rest : List Char} {key : String} {value : Json} {entries : List (String × Json)}
      (hcomma : Skips text (',' :: more)) (hkey : Key more key colon) (hstart : Skips colon start)
      (h : Value start value next) (hnext : Members next entries rest) : Members text ((key, value) :: entries) rest

end

/-- A whole text that is a value, with white space around it. -/
inductive Document : List Char → Json → Prop
  | mk {text start stop : List Char} {value : Json} (hstart : Skips text start) (h : Value start value stop)
      (hstop : Skips stop []) : Document text value

/-! ### One way to read a text -/

/-- The text does not start with white space. -/
def Solid (text : List Char) : Prop := ∀ c ∈ text.head?, c ∉ blanks

theorem solid_nil : Solid [] := nofun

theorem solid_cons {c : Char} {text : List Char} : Solid (c :: text) ↔ c ∉ blanks := by simp [Solid]

/-- White space ends in one place. -/
theorem Skips.unique {text rest rest' : List Char} (h : Skips text rest) (h' : Skips text rest') (hrest : Solid rest)
    (hrest' : Solid rest') : rest = rest' := by
  induction h with
  | none =>
    cases h' with
    | none => rfl
    | blank hc _ => exact absurd hc (solid_cons.1 hrest)
  | blank hc _ ih =>
    cases h' with
    | none => exact absurd hc (solid_cons.1 hrest')
    | blank _ h' => exact ih h' hrest

theorem Skips.cons_unique {text rest rest' : List Char} {c d : Char} (h : Skips text (c :: rest))
    (h' : Skips text (d :: rest')) (hc : c ∉ blanks) (hd : d ∉ blanks) : c = d ∧ rest = rest' :=
  List.cons.inj (h.unique h' (solid_cons.2 hc) (solid_cons.2 hd))

theorem Hex.unique {text rest rest' : List Char} {m n : Nat} (h : Hex text m rest) (h' : Hex text n rest') :
    m = n ∧ rest = rest' := by
  obtain @⟨digits, _, _, hlength, hm⟩ := h
  generalize htext : digits ++ rest = text at h'
  obtain @⟨digits', _, _, hlength', hn⟩ := h'
  obtain ⟨rfl, rfl⟩ := List.append_inj htext (hlength.trans hlength'.symm)
  have hvalue := ((Text.numeral_iff (by decide)).1 hm).2.2
  have hvalue' := ((Text.numeral_iff (by decide)).1 hn).2.2
  exact ⟨hvalue.symm.trans hvalue', rfl⟩

/-- Surrogates are not code points of characters. -/
theorem toNat_not_surrogate (c : Char) : ¬ (0xD800 ≤ c.toNat ∧ c.toNat < 0xE000) := by
  rcases c.valid with h | ⟨h, -⟩
  · have : c.toNat < 0xD800 := h
    omega
  · have : 0xDFFF < c.toNat := h
    omega

theorem Character.unique {text rest rest' : List Char} {c c' : Char} (h : Character text c rest)
    (h' : Character text c' rest') : c = c' ∧ rest = rest' := by
  have hshort : ∀ c, ('u', c) ∉ shortEscapes := by simp [shortEscapes]
  cases h with
  | plain hquote hescape hcode =>
    cases h' with
    | plain => exact ⟨rfl, rfl⟩
    | short | code | pair => exact absurd rfl hescape
  | @short mark c rest h =>
    cases h' with
    | plain _ hescape => exact absurd rfl hescape
    | short h' =>
      have hfunction : ∀ e ∈ shortEscapes, ∀ e' ∈ shortEscapes, e.1 = e'.1 → e.2 = e'.2 := by decide
      exact ⟨hfunction _ h _ h' rfl, rfl⟩
    | code | pair => exact absurd h (hshort c)
  | @code text rest c h =>
    cases h' with
    | plain _ hescape => exact absurd rfl hescape
    | short h' => exact absurd h' (hshort c')
    | code h' =>
      obtain ⟨hcode, hrest⟩ := h.unique h'
      exact ⟨Char.toNat_inj.1 hcode, hrest⟩
    | pair hhigh _ hleading =>
      have hcode := (h.unique hhigh).1
      exact absurd ⟨hcode ▸ hleading.1, by omega⟩ (toNat_not_surrogate c)
  | @pair text more rest high low c hhigh hlow hleading htrailing hc =>
    cases h' with
    | plain _ hescape => exact absurd rfl hescape
    | short h' => exact absurd h' (hshort c')
    | code h' =>
      have hcode := (h'.unique hhigh).1
      exact absurd ⟨hcode ▸ hleading.1, by omega⟩ (toNat_not_surrogate c')
    | pair hhigh' hlow' _ _ hc' =>
      obtain ⟨rfl, hmore⟩ := hhigh.unique hhigh'
      obtain rfl : more = _ := by simpa using hmore
      obtain ⟨rfl, rfl⟩ := hlow.unique hlow'
      exact ⟨Char.toNat_inj.1 (hc.trans hc'.symm), rfl⟩

theorem Characters.unique {text chars chars' rest rest' : List Char} (h : Characters text chars rest)
    (h' : Characters text chars' rest') : chars = chars' ∧ rest = rest' := by
  have hquote : ∀ {rest more c}, ¬ Character ('"' :: rest) c more := by
    rintro rest more c ⟨⟩
    contradiction
  induction h generalizing chars' with
  | close =>
    cases h' with
    | close => exact ⟨rfl, rfl⟩
    | next h' _ => exact absurd h' hquote
  | next h _ ih =>
    cases h' with
    | close => exact absurd h hquote
    | next h' hmore' =>
      obtain ⟨rfl, rfl⟩ := h.unique h'
      obtain ⟨rfl, hrest⟩ := ih hmore'
      exact ⟨rfl, hrest⟩

/-- Most characters stand for themselves. -/
theorem Characters.of_plain {word rest : List Char} (h : ∀ c ∈ word, c ≠ '"' ∧ c ≠ '\\' ∧ 0x20 ≤ c.toNat) :
    Characters (word ++ '"' :: rest) word rest := by
  induction word with
  | nil => exact .close
  | cons c word ih =>
    obtain ⟨hc, hword⟩ := List.forall_mem_cons.1 h
    exact .next (.plain hc.1 hc.2.1 hc.2.2) (ih hword)

theorem Key.unique {text rest rest' : List Char} {key key' : String} (h : Key text key rest)
    (h' : Key text key' rest') : key = key' ∧ rest = rest' := by
  obtain ⟨hquote, hkey, hcolon⟩ := h
  obtain ⟨hquote', hkey', hcolon'⟩ := h'
  obtain ⟨-, rfl⟩ := hquote.cons_unique hquote' (by decide) (by decide)
  obtain ⟨hchars, rfl⟩ := hkey.unique hkey'
  obtain ⟨-, rfl⟩ := hcolon.cons_unique hcolon' (by decide) (by decide)
  exact ⟨String.toList_inj.1 hchars, rfl⟩

/-- The key of an entry does not start with a closing brace. -/
theorem Key.not_close {text rest rest' : List Char} {key : String} (h : Key text key rest) :
    ¬ Skips text ('}' :: rest') := by
  obtain ⟨hquote, -, -⟩ := h
  intro hclose
  cases (hquote.cons_unique hclose (by decide) (by decide)).1

/-- The characters of numbers. -/
def isNumeric (c : Char) : Bool := c.isDigit || ['-', '+', '.', 'e', 'E'].contains c

/-- What follows does not go on with a number. -/
def Ends (rest : List Char) : Prop := ∀ c ∈ rest.head?, isNumeric c = false

theorem Number.isNumeric {written : List Char} (h : Number written) : ∀ c ∈ written, isNumeric c := by
  have hdigits : ∀ {digits}, Digits digits → ∀ c ∈ digits, Json.isNumeric c := by
    intro digits h c hc
    simp [Json.isNumeric, h.2 c hc]
  have hmarks : ∀ c ∈ ['-', '+', '.', 'e', 'E'], Json.isNumeric c := List.all_eq_true.1 (by decide)
  obtain ⟨hsign, hwhole, -, hfraction, hexponent⟩ := h
  intro c hc
  simp only [List.mem_append] at hc
  rcases hc with hc | hc | hc | hc
  · rcases hsign with rfl | rfl
    · cases hc
    · exact hmarks c (by simp_all)
  · exact hdigits hwhole c hc
  · rcases hfraction with rfl | ⟨digits, hfraction, rfl⟩
    · cases hc
    · rcases List.mem_cons.1 hc with rfl | hc
      · exact hmarks _ (by decide)
      · exact hdigits hfraction c hc
  · rcases hexponent with rfl | ⟨mark, sign, digits, hmark, hsign, hexponent, rfl⟩
    · cases hc
    · rcases List.mem_cons.1 hc with rfl | hc
      · exact hmarks c (by rcases hmark with rfl | rfl <;> decide)
      · rcases List.mem_append.1 hc with hc | hc
        · exact hmarks c (by rcases hsign with rfl | rfl | rfl <;> simp_all)
        · exact hdigits hexponent c hc

theorem Number.exists_cons {written : List Char} (h : Number written) :
    ∃ c rest, written = c :: rest ∧ (c = '-' ∨ c.isDigit) := by
  obtain @⟨sign, whole, fraction, exponent, hsign, ⟨hne, hdigits⟩, -, -, -⟩ := h
  obtain ⟨d, digits, rfl⟩ := List.exists_cons_of_ne_nil hne
  rcases hsign with rfl | rfl
  · exact ⟨d, _, rfl, .inr (hdigits d (by simp))⟩
  · exact ⟨'-', _, rfl, .inl rfl⟩

theorem Number.append_inj {written written' rest rest' : List Char} (h : Number written) (h' : Number written')
    (hrest : Ends rest) (hrest' : Ends rest') (heq : written ++ rest = written' ++ rest') :
    written = written' ∧ rest = rest' := by
  have htake : ∀ {written rest}, Number written → Ends rest → (written ++ rest).takeWhile Json.isNumeric = written := by
    intro written rest h hrest
    rw [List.takeWhile_append_of_pos h.isNumeric]
    cases rest with
    | nil => simp
    | cons c rest => simp [hrest c rfl]
  obtain rfl : written = written' := by rw [← htake h hrest, heq, htake h' hrest']
  exact ⟨rfl, List.append_cancel_left heq⟩

/-- The character that the texts of a kind of values start with; for numbers one of them. -/
def mark : Json → Char
  | null => 'n'
  | boolean true => 't'
  | boolean false => 'f'
  | number _ => '-'
  | string _ => '"'
  | array _ => '['
  | object _ => '{'

theorem Value.exists_cons {text rest : List Char} {v : Json} (h : Value text v rest) :
    ∃ c more, text = c :: more ∧ (if c.isDigit then '-' else c) = v.mark := by
  cases h with
  | number h =>
    obtain ⟨c, more, rfl, hc⟩ := h.exists_cons
    refine ⟨c, _, rfl, ?_⟩
    rcases hc with rfl | hc
    · rfl
    · rw [if_pos hc]
      rfl
  | @boolean b => cases b <;> exact ⟨_, _, rfl, rfl⟩
  | null | string | emptyArray | array | emptyObject | object => exact ⟨_, _, rfl, rfl⟩

/-- No value starts with white space or a closing bracket. -/
theorem Value.start {c : Char} {text rest : List Char} {v : Json} (h : Value (c :: text) v rest) :
    c ∉ blanks ∧ c ≠ ']' ∧ c ≠ '}' := by
  obtain ⟨d, more, hcons, hmark⟩ := h.exists_cons
  obtain ⟨rfl, rfl⟩ := List.cons.inj hcons
  have hdigit : ∀ d ∈ blanks ++ [']', '}'], d.isDigit = false := by simp [blanks]
  have hmarks : v.mark ∉ blanks ++ [']', '}'] := by
    cases v with
    | boolean b => cases b <;> decide
    | null | number | string | array | object => simp [mark, blanks]
  suffices hc : c ∉ blanks ++ [']', '}'] by simpa [not_or] using hc
  intro hc
  rw [hdigit c hc, if_neg (by decide)] at hmark
  exact hmarks (hmark ▸ hc)

theorem Value.solid {text rest : List Char} {v : Json} (h : Value text v rest) : Solid text := by
  obtain ⟨c, more, rfl, -⟩ := h.exists_cons
  exact solid_cons.2 h.start.1

/-- White space and what stands after a value do not go on with a number. -/
theorem Skips.ends {text rest : List Char} (h : Skips text rest) (hrest : Ends rest) : Ends text := by
  cases h with
  | none => exact hrest
  | blank hc _ =>
    have hblanks : ∀ c ∈ blanks, isNumeric c = false := by simp [blanks, isNumeric]
    rintro d ⟨⟩
    exact hblanks _ hc

theorem ends_cons {c : Char} {text : List Char} : Ends (c :: text) ↔ isNumeric c = false := by simp [Ends]

theorem Items.ends {text rest : List Char} {values : List Json} (h : Items text values rest) : Ends text := by
  cases h with
  | close h => exact h.ends (ends_cons.2 (by decide))
  | comma hcomma => exact hcomma.ends (ends_cons.2 (by decide))

theorem Members.ends {text rest : List Char} {entries : List (String × Json)} (h : Members text entries rest) :
    Ends text := by
  cases h with
  | close h => exact h.ends (ends_cons.2 (by decide))
  | comma hcomma => exact hcomma.ends (ends_cons.2 (by decide))

/-! ### The texts of each kind of values -/

section

variable {text rest : List Char}

theorem value_null_iff : Value text .null rest ↔ text = "null".toList ++ rest := by
  refine ⟨fun h => ?_, fun h => h ▸ .null⟩
  cases h
  rfl

theorem value_boolean_iff {b : Bool} :
    Value text (.boolean b) rest ↔ text = (if b then "true" else "false").toList ++ rest := by
  refine ⟨fun h => ?_, fun h => h ▸ .boolean⟩
  cases h
  rfl

theorem value_number_iff {written : List Char} :
    Value text (.number written) rest ↔ Number written ∧ text = written ++ rest := by
  constructor
  · intro h
    cases h with
    | number h => exact ⟨h, rfl⟩
  · rintro ⟨h, rfl⟩
    exact .number h

theorem value_string_iff {value : String} :
    Value text (.string value) rest ↔ ∃ inner, text = '"' :: inner ∧ Characters inner value.toList rest := by
  constructor
  · intro h
    cases h with
    | string h => exact ⟨_, rfl, h⟩
  · rintro ⟨inner, rfl, h⟩
    exact .string h

theorem value_array_iff {values : List Json} :
    Value text (.array values) rest ↔ ∃ inner, text = '[' :: inner ∧ (values = [] ∧ Skips inner (']' :: rest) ∨
      ∃ value others start next, values = value :: others ∧ Skips inner start ∧ Value start value next ∧
        Items next others rest) := by
  constructor
  · intro h
    cases h with
    | emptyArray h => exact ⟨_, rfl, .inl ⟨rfl, h⟩⟩
    | array hstart h hnext => exact ⟨_, rfl, .inr ⟨_, _, _, _, rfl, hstart, h, hnext⟩⟩
  · rintro ⟨inner, rfl, ⟨rfl, h⟩ | ⟨value, others, start, next, rfl, hstart, h, hnext⟩⟩
    · exact .emptyArray h
    · exact .array hstart h hnext

theorem value_object_iff {entries : List (String × Json)} :
    Value text (.object entries) rest ↔ ∃ inner, text = '{' :: inner ∧ (entries = [] ∧ Skips inner ('}' :: rest) ∨
      ∃ key value others colon start next, entries = (key, value) :: others ∧ Key inner key colon ∧
        Skips colon start ∧ Value start value next ∧ Members next others rest) := by
  constructor
  · intro h
    cases h with
    | emptyObject h => exact ⟨_, rfl, .inl ⟨rfl, h⟩⟩
    | object hkey hstart h hnext => exact ⟨_, rfl, .inr ⟨_, _, _, _, _, _, rfl, hkey, hstart, h, hnext⟩⟩
  · rintro ⟨inner, rfl, ⟨rfl, h⟩ | ⟨key, value, others, colon, start, next, rfl, hkey, hstart, h, hnext⟩⟩
    · exact .emptyObject h
    · exact .object hkey hstart h hnext

end

/-! ### One value for a text -/

/-- The first character tells the kind of a value. -/
theorem kind_of_mark (w : Json) :
    (w.mark = 'n' → w = .null) ∧ (∀ b, w.mark = (boolean b).mark → w = .boolean b) ∧
    (w.mark = '-' → ∃ written, w = .number written) ∧ (w.mark = '"' → ∃ value, w = .string value) ∧
    (w.mark = '[' → ∃ values, w = .array values) ∧ (w.mark = '{' → ∃ entries, w = .object entries) := by
  cases w with
  | boolean b => cases b <;> simp [mark]
  | null | number | string | array | object => simp [mark]

theorem Value.mark_eq {text rest rest' : List Char} {v w : Json} (h : Value text v rest) (h' : Value text w rest') :
    v.mark = w.mark := by
  obtain ⟨c, more, rfl, hv⟩ := h.exists_cons
  obtain ⟨d, more', hcons, hw⟩ := h'.exists_cons
  obtain ⟨rfl, -⟩ := List.cons.inj hcons
  exact hv.symm.trans hw

mutual

/-- A text starts with the writing of one value only, if no number goes on behind it. -/
theorem Value.unique {text rest rest' : List Char} {v w : Json} (h : Value text v rest) (h' : Value text w rest')
    (hrest : Ends rest) (hrest' : Ends rest') : v = w ∧ rest = rest' := by
  have hmark := h'.mark_eq h
  obtain ⟨hnull, hboolean, hnumber, hstring, harray, hobject⟩ := kind_of_mark w
  cases h with
  | null =>
    obtain rfl := hnull hmark
    exact ⟨rfl, List.append_cancel_left (value_null_iff.1 h')⟩
  | boolean =>
    obtain rfl := hboolean _ hmark
    exact ⟨rfl, List.append_cancel_left (value_boolean_iff.1 h')⟩
  | number h =>
    obtain ⟨written, rfl⟩ := hnumber hmark
    obtain ⟨hwritten, heq⟩ := value_number_iff.1 h'
    obtain ⟨rfl, rfl⟩ := h.append_inj hwritten hrest hrest' heq
    exact ⟨rfl, rfl⟩
  | string h =>
    obtain ⟨value, rfl⟩ := hstring hmark
    obtain ⟨inner, heq, hchars⟩ := value_string_iff.1 h'
    obtain ⟨-, rfl⟩ := List.cons.inj heq
    obtain ⟨hvalue, rfl⟩ := h.unique hchars
    exact ⟨congrArg Json.string (String.toList_inj.1 hvalue), rfl⟩
  | emptyArray h =>
    obtain ⟨values, rfl⟩ := harray hmark
    obtain ⟨inner, heq, hvalues⟩ := value_array_iff.1 h'
    obtain ⟨-, rfl⟩ := List.cons.inj heq
    rcases hvalues with ⟨rfl, hclose⟩ | ⟨value, others, start, next, rfl, hstart, hvalue, -⟩
    · obtain ⟨-, rfl⟩ := h.cons_unique hclose (by decide) (by decide)
      exact ⟨rfl, rfl⟩
    · obtain rfl := hstart.unique h hvalue.solid (solid_cons.2 (by decide))
      exact absurd rfl hvalue.start.2.1
  | array hstart h hnext =>
    obtain ⟨values, rfl⟩ := harray hmark
    obtain ⟨inner, heq, hvalues⟩ := value_array_iff.1 h'
    obtain ⟨-, rfl⟩ := List.cons.inj heq
    rcases hvalues with ⟨rfl, hclose⟩ | ⟨value, others, start, next, rfl, hstart', hvalue', hnext'⟩
    · obtain rfl := hstart.unique hclose h.solid (solid_cons.2 (by decide))
      exact absurd rfl h.start.2.1
    · obtain rfl := hstart.unique hstart' h.solid hvalue'.solid
      obtain ⟨rfl, rfl⟩ := h.unique hvalue' hnext.ends hnext'.ends
      obtain ⟨rfl, rfl⟩ := hnext.unique hnext'
      exact ⟨rfl, rfl⟩
  | emptyObject h =>
    obtain ⟨entries, rfl⟩ := hobject hmark
    obtain ⟨inner, heq, hentries⟩ := value_object_iff.1 h'
    obtain ⟨-, rfl⟩ := List.cons.inj heq
    rcases hentries with ⟨rfl, hclose⟩ | ⟨key, value, others, colon, start, next, rfl, hkey, -⟩
    · obtain ⟨-, rfl⟩ := h.cons_unique hclose (by decide) (by decide)
      exact ⟨rfl, rfl⟩
    · exact absurd h hkey.not_close
  | object hkey hstart h hnext =>
    obtain ⟨entries, rfl⟩ := hobject hmark
    obtain ⟨inner, heq, hentries⟩ := value_object_iff.1 h'
    obtain ⟨-, rfl⟩ := List.cons.inj heq
    rcases hentries with ⟨rfl, hclose⟩ | ⟨key, value, others, colon, start, next, rfl, hkey', hstart', hvalue', hnext'⟩
    · exact absurd hclose hkey.not_close
    · obtain ⟨rfl, rfl⟩ := hkey.unique hkey'
      obtain rfl := hstart.unique hstart' h.solid hvalue'.solid
      obtain ⟨rfl, rfl⟩ := h.unique hvalue' hnext.ends hnext'.ends
      obtain ⟨rfl, rfl⟩ := hnext.unique hnext'
      exact ⟨rfl, rfl⟩

theorem Items.unique {text rest rest' : List Char} {values values' : List Json} (h : Items text values rest)
    (h' : Items text values' rest') : values = values' ∧ rest = rest' := by
  cases h with
  | close h =>
    cases h' with
    | close h' =>
      obtain ⟨-, rfl⟩ := h.cons_unique h' (by decide) (by decide)
      exact ⟨rfl, rfl⟩
    | comma hcomma' => cases (h.cons_unique hcomma' (by decide) (by decide)).1
  | comma hcomma hstart h hnext =>
    cases h' with
    | close h' => cases (h'.cons_unique hcomma (by decide) (by decide)).1
    | comma hcomma' hstart' hvalue' hnext' =>
      obtain ⟨-, rfl⟩ := hcomma.cons_unique hcomma' (by decide) (by decide)
      obtain rfl := hstart.unique hstart' h.solid hvalue'.solid
      obtain ⟨rfl, rfl⟩ := h.unique hvalue' hnext.ends hnext'.ends
      obtain ⟨rfl, rfl⟩ := hnext.unique hnext'
      exact ⟨rfl, rfl⟩

theorem Members.unique {text rest rest' : List Char} {entries entries' : List (String × Json)}
    (h : Members text entries rest) (h' : Members text entries' rest') : entries = entries' ∧ rest = rest' := by
  cases h with
  | close h =>
    cases h' with
    | close h' =>
      obtain ⟨-, rfl⟩ := h.cons_unique h' (by decide) (by decide)
      exact ⟨rfl, rfl⟩
    | comma hcomma' => cases (h.cons_unique hcomma' (by decide) (by decide)).1
  | comma hcomma hkey hstart h hnext =>
    cases h' with
    | close h' => cases (h'.cons_unique hcomma (by decide) (by decide)).1
    | comma hcomma' hkey' hstart' hvalue' hnext' =>
      obtain ⟨-, rfl⟩ := hcomma.cons_unique hcomma' (by decide) (by decide)
      obtain ⟨rfl, rfl⟩ := hkey.unique hkey'
      obtain rfl := hstart.unique hstart' h.solid hvalue'.solid
      obtain ⟨rfl, rfl⟩ := h.unique hvalue' hnext.ends hnext'.ends
      obtain ⟨rfl, rfl⟩ := hnext.unique hnext'
      exact ⟨rfl, rfl⟩

end

/-- A text is written for one value only. -/
theorem Document.unique {text : List Char} {v w : Json} (h : Document text v) (h' : Document text w) : v = w := by
  obtain ⟨hstart, h, hstop⟩ := h
  obtain ⟨hstart', h', hstop'⟩ := h'
  obtain rfl := hstart.unique hstart' h.solid h'.solid
  exact (h.unique h' (hstop.ends nofun) (hstop'.ends nofun)).1

end Json

end JsxLowering
