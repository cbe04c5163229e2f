import JsxLowering.Proofs.Equations
import JsxLowering.Proofs.Layout.Program
import JsxLowering.Proofs.References
import JsxLowering.Session

/-!
# Attributes and the keys of properties

An attribute list becomes an object with one property for each attribute, in the same order.  The key of a property is
the name of its attribute as it is written, and the name can be read off it: a name in a namespace has a colon between
its two words, and a word in a tag has none, unless it is taken in by a faulty escape.  Such an escape is noted as a
fault when the word is read, and no fault is forgotten while the rest of the list is.

* `AttributeName.text_eq_iff`: names whose words have no colons have the same text exactly if they have the same words.
* `Grammar.noColons_of_parseAttributes`: the names of a list that is read without a noted fault have no colons in their
  words.
* `forall₂_becomes_lowerAttributes`: the properties of a list, one for each attribute.
-/

namespace JsxLowering

/-! ### Names and their words -/

/-- A name without its span: its namespace, if it has one, and its last word. -/
def AttributeName.words : AttributeName → Option String × String
  | plain _ name => (none, name)
  | namespaced _ space name => (some space, name)

/-- No word of the name has a colon in it. -/
def AttributeName.NoColons (name : AttributeName) : Prop :=
  (∀ space ∈ name.words.1, ':' ∉ space.toList) ∧ ':' ∉ name.words.2.toList

/-- The name of an attribute that is not a spread. -/
def Attribute.named? : Attribute → Option AttributeName
  | named _ name _ => some name
  | spread _ _ => none

theorem Attribute.name?_eq_map (a : Attribute) : a.name? = a.named?.map AttributeName.text := by
  cases a <;> rfl

theorem AttributeName.toList_text_namespaced (span : Span) (space name : String) :
    (namespaced span space name).text.toList = space.toList ++ ':' :: name.toList := by
  simp [text]

theorem AttributeName.isInfix_text {name : AttributeName} {word : String}
    (h : word ∈ name.words.1 ∨ word = name.words.2) : word.toList <:+: name.text.toList := by
  cases name with
  | plain span single =>
    rcases h with h | rfl
    · cases h
    · exact List.infix_rfl
  | namespaced span space single =>
    rw [toList_text_namespaced]
    rcases h with h | rfl
    · obtain rfl := Option.mem_some_iff.1 h
      exact (List.prefix_append _ _).isInfix
    · exact ((List.suffix_cons _ _).trans (List.suffix_append _ _)).isInfix

theorem AttributeName.plain_ne_namespaced {span span' : Span} {name space name' : String} (h : ':' ∉ name.toList) :
    (plain span name).text ≠ (namespaced span' space name').text := by
  intro hsame
  have hcolon : ':' ∈ (namespaced span' space name').text.toList := by simp [toList_text_namespaced]
  rw [← hsame] at hcolon
  exact h hcolon

/-- The words of a name can be read off its text, at the last colon. -/
theorem AttributeName.text_eq_iff {a b : AttributeName} (ha : a.NoColons) (hb : b.NoColons) :
    a.text = b.text ↔ a.words = b.words := by
  cases a with
  | plain span name =>
    cases b with
    | plain span' name' => simp [text, words]
    | namespaced span' space' name' => exact iff_of_false (plain_ne_namespaced ha.2) (by simp [words])
  | namespaced span space name =>
    cases b with
    | plain span' name' => exact iff_of_false (plain_ne_namespaced hb.2).symm (by simp [words])
    | namespaced span' space' name' =>
      constructor
      · intro h
        rw [← String.toList_inj, toList_text_namespaced, toList_text_namespaced] at h
        have hname : name.toList = name'.toList := Text.eq_of_append_cons_eq h ha.2 hb.2
        rw [hname] at h
        have hspace : space.toList = space'.toList := List.append_cancel_right h
        rw [String.toList_inj] at hname hspace
        rw [words, words, hname, hspace]
      · intro h
        cases h
        rfl

/-! ### Names as they are read -/

namespace Grammar

section

variable {α σ : Type} {rules : Rules} {c : Conditions} {r r' : Reader}

/-- In a run from one place to another the parser gave `a`.  If the first place is sound and the rules keep the order,
the parser started at a sound place and the run moved forward from where the parser ended. -/
def GaveWithin (rules : Rules) (p : Parser α) (c : Conditions) (r r' : Reader) (a : α) : Prop :=
  ∃ before after, p c before = .ok (a, after) ∧ (OrderlyRules rules → r.Sound → before.Sound ∧ Forward after r')

/-- What was given within a run that was itself within another was given within that one. -/
theorem GaveWithin.inside {p : Parser α} {a : α} {before after : Reader} (h : GaveWithin rules p c before after a)
    (hwithin : OrderlyRules rules → r.Sound → before.Sound ∧ Forward after r') : GaveWithin rules p c r r' a := by
  obtain ⟨first, last, hrun, hlast⟩ := h
  refine ⟨first, last, hrun, fun hrules hr => ?_⟩
  obtain ⟨hbefore, hafter⟩ := hwithin hrules hr
  obtain ⟨hfirst, hforward⟩ := hlast hrules hbefore
  exact ⟨hfirst, hforward.trans hafter⟩

theorem GaveWithin.forward {p : Parser α} {a : α} {mid : Reader} (h : GaveWithin rules p c r mid a)
    (hforward : OrderlyRules rules → r.Sound → Forward mid r') : GaveWithin rules p c r r' a :=
  h.inside fun hrules hr => ⟨hr, hforward hrules hr⟩

theorem Orderly.forward [HasElements α] {p : Parser α} (h : Orderly [] p) {a : α} (hrun : p c r = .ok (a, r'))
    (hr : r.Sound) : Forward r r' :=
  (h.keeps.run hrun hr).1

/-- What holds of the first state of a loop and is kept by each round holds of the answer. -/
theorem iterate_ok {step : σ → Parser (σ ⊕ α)} {P : σ → Reader → Prop} {Q : α → Reader → Prop}
    (hstep : ∀ s r result r', P s r → step s c r = .ok (result, r') → Sum.elim (P · r') (Q · r') result) {fuel : Nat}
    {s : σ} {a : α} (hs : P s r) (h : iterate step fuel s c r = .ok (a, r')) : Q a r' := by
  induction fuel generalizing s r with
  | zero =>
    obtain ⟨failure, hfailure⟩ := fails_unexpected (α := α) c r
    cases hfailure.symm.trans h
  | succ fuel ih =>
    obtain ⟨result, r₁, hround, hrest⟩ := bind_ok h
    have hresult := hstep s r result r₁ hs hround
    cases result with
    | inl next => exact ih hresult hrest
    | inr b =>
      cases hrest
      exact hresult

theorem gaveWithin_of_many [HasElements α] {done : Parser Bool} {item : Parser α}
    (hdone : OrderlyRules rules → Orderly [] done) (hitem : OrderlyRules rules → Orderly [] item) {items : List α}
    (h : many done item c r = .ok (items, r')) : ∀ a ∈ items, GaveWithin rules item c r r' a := by
  obtain ⟨budget, r₁, hbudget, hloop⟩ := bind_ok h
  cases hbudget
  -- The loop keeps that its place is sound and that every item so far was given within the run up to it.
  refine iterate_ok
    (P := fun items now => (OrderlyRules rules → r.Sound → now.Sound) ∧ ∀ a ∈ items, GaveWithin rules item c r now a)
    (Q := fun items now => ∀ a ∈ items, GaveWithin rules item c r now a) ?_ ⟨fun _ hr => hr, by simp⟩ hloop
  rintro items now result later ⟨hsound, hitems⟩ hround
  obtain ⟨finished, r₁, hfinished, hround⟩ := bind_ok hround
  have hmoved (hrules : OrderlyRules rules) (hr : r.Sound) : Forward now r₁ :=
    (hdone hrules).forward hfinished (hsound hrules hr)
  cases finished with
  | true =>
    cases hround
    intro a ha
    exact (hitems a (List.mem_reverse.1 ha)).forward hmoved
  | false =>
    obtain ⟨next, r₂, hnext, hround⟩ := bind_ok hround
    have hpassed (hrules : OrderlyRules rules) (hr : r.Sound) : Forward r₁ r₂ :=
      (hitem hrules).forward hnext (hmoved hrules hr).sound
    cases hround
    refine ⟨fun hrules hr => (hpassed hrules hr).sound, fun a ha => ?_⟩
    rcases List.mem_cons.1 ha with rfl | ha
    · exact ⟨r₁, _, hnext, fun hrules hr => ⟨(hmoved hrules hr).sound, .refl (hpassed hrules hr).sound⟩⟩
    · exact (hitems a ha).forward fun hrules hr => (hmoved hrules hr).trans (hpassed hrules hr)

end

variable {c : Conditions} {r r' : Reader}

/-- The colon is no hexadecimal digit. -/
theorem colon_not_mem_of_all_digits {digits : List Char}
    (h : (digits.all fun c => (Text.digitValue? 16 c).isSome) = true) : ':' ∉ digits := by
  intro hmem
  exact absurd (List.all_eq_true.1 h ':' hmem) (by decide)

theorem colon_not_mem_codePointEscape {digits : List Char} {n width : Nat}
    (h : codePointEscape? digits = some (n, width)) : ':' ∉ digits.take width := by
  unfold codePointEscape? at h
  split at h
  next rest =>
    dsimp only at h
    split at h
    next => cases h
    next hsound =>
      cases h
      rw [not_or, not_or, Bool.not_eq_true', Bool.not_eq_false] at hsound
      have hrest : (rest.takeWhile (· ≠ '}') ++ rest.dropWhile (· ≠ '}')).take ((rest.takeWhile (· ≠ '}')).length + 1) =
          rest.takeWhile (· ≠ '}') ++ (rest.dropWhile (· ≠ '}')).take 1 := List.take_length_add_append 1
      rw [List.takeWhile_append_dropWhile] at hrest
      have hmark : ':' ∉ (rest.dropWhile (· ≠ '}')).take 1 := by
        have hhead := List.head?_dropWhile_not (· ≠ '}') rest
        cases hdrop : rest.dropWhile (· ≠ '}') with
        | nil => simp
        | cons d more =>
          rw [hdrop] at hhead
          obtain rfl : d = '}' := by simpa using hhead
          simp
      rw [List.take_succ_cons, hrest, List.mem_cons, List.mem_append, not_or, not_or]
      exact ⟨by decide, colon_not_mem_of_all_digits hsound.2.1, hmark⟩
  next =>
    obtain ⟨value, hvalue, hsame⟩ := Option.map_eq_some_iff.1 h
    cases hsame
    unfold hexValue? at hvalue
    dsimp only at hvalue
    split at hvalue
    next hdigits => exact colon_not_mem_of_all_digits hdigits.2
    next => cases hvalue

/-- An escape in a word takes a colon only if that follows the backslash. -/
theorem eq_colon_of_mem_wordEscape {first : Bool} {rest : List Char} (h : ':' ∈ rest.take (wordEscape first rest).2) :
    ∃ more, rest = ':' :: more := by
  unfold wordEscape at h
  split at h
  next digits =>
    exfalso
    split at h
    next n width hescape =>
      have hnone := colon_not_mem_codePointEscape hescape
      split at h
      · simp [hnone] at h
      · simp [hnone] at h
    next hescape =>
      dsimp only at h
      split at h
      next hbrace =>
        cases digits with
        | nil => cases hbrace
        | cons d digits =>
          cases hbrace
          simp at h
      next => simp at h
  next c more hother =>
    obtain rfl : ':' = c := by simpa using h
    exact ⟨more, rfl⟩
  next => simp at h

theorem length_readWord_name {first : Bool} {c : Char} {rest : List Char} (h : Text.continuesIdentifier c = true) :
    (readWord first 0 (c :: rest)).length = (readWord false 0 rest).length + 1 := by
  rw [readWord, if_pos h]

theorem length_readWord_escape (first : Bool) (rest : List Char) :
    (readWord first 0 ('\\' :: rest)).length = (readWord false (wordEscape first rest).2 rest).length + 1 := by
  rw [readWord, if_neg (by decide), if_pos rfl]
  obtain ⟨found, width⟩ := wordEscape first rest
  cases found <;> rfl

theorem faults_readWord_name {first : Bool} {c : Char} {rest : List Char} (h : Text.continuesIdentifier c = true) :
    (readWord first 0 (c :: rest)).faults = (readWord false 0 rest).faults := by
  rw [readWord, if_pos h]

/-- What is wrong after an escape is wrong with the whole word. -/
theorem faults_readWord_escape {first : Bool} {rest : List Char}
    (h : (readWord false (wordEscape first rest).2 rest).faults ≠ []) :
    (readWord first 0 ('\\' :: rest)).faults ≠ [] := by
  rw [readWord, if_neg (by decide), if_pos rfl]
  generalize hescape : wordEscape first rest = escape at h
  obtain ⟨found, width⟩ := escape
  cases found with
  | ok c => exact h
  | error fault => exact List.cons_ne_nil _ _

theorem faults_readWord_escaped_colon (first : Bool) (more : List Char) :
    (readWord first 0 ('\\' :: ':' :: more)).faults ≠ [] := by
  rw [readWord, if_neg (by decide), if_pos rfl]
  exact List.cons_ne_nil _ _

/-- A word has a colon only after a backslash, and that is wrong.  The induction is on the text, some of which an escape
may skip. -/
theorem escaped_colon_of_mem_take {first : Bool} {skip : Nat} {text : List Char}
    (h : ':' ∈ text.take (readWord first skip text).length) :
    ':' ∈ text.take skip ∨ ['\\', ':'] <:+: text.take (readWord first skip text).length ∧
      (readWord first skip text).faults ≠ [] := by
  induction text generalizing first skip with
  | nil => simp at h
  | cons c rest ih =>
    cases skip with
    | succ skip =>
      rw [readWord] at h ⊢
      rw [List.take_succ_cons] at h ⊢
      rcases List.mem_cons.1 h with rfl | hrest
      · exact .inl List.mem_cons_self
      · rcases ih hrest with hskipped | ⟨hescaped, hfaults⟩
        · exact .inl (List.mem_cons_of_mem c hskipped)
        · exact .inr ⟨hescaped.trans (List.suffix_cons c _).isInfix, hfaults⟩
    | zero =>
      refine .inr ?_
      by_cases hname : Text.continuesIdentifier c = true
      · rw [length_readWord_name hname, List.take_succ_cons] at h ⊢
        rw [faults_readWord_name hname]
        rcases List.mem_cons.1 h with rfl | hrest
        · exact absurd hname (by decide)
        · rcases ih hrest with hskipped | ⟨hescaped, hfaults⟩
          · simp at hskipped
          · exact ⟨hescaped.trans (List.suffix_cons c _).isInfix, hfaults⟩
      · by_cases hescape : c = '\\'
        · subst hescape
          rw [length_readWord_escape, List.take_succ_cons] at h ⊢
          have hrest : ':' ∈ rest.take (readWord false (wordEscape first rest).2 rest).length := by simpa using h
          rcases ih hrest with hskipped | ⟨hescaped, hfaults⟩
          · obtain ⟨more, rfl⟩ := eq_colon_of_mem_wordEscape hskipped
            refine ⟨?_, faults_readWord_escaped_colon first more⟩
            obtain ⟨n, hn⟩ : ∃ n, (readWord false (wordEscape first (':' :: more)).2 (':' :: more)).length = n + 1 := by
              refine Nat.exists_eq_succ_of_ne_zero fun hzero => ?_
              rw [hzero] at hrest
              simp at hrest
            rw [hn, List.take_succ_cons]
            exact ⟨[], _, rfl⟩
          · exact ⟨hescaped.trans (List.suffix_cons _ _).isInfix, faults_readWord_escape hfaults⟩
        · rw [readWord, if_neg hname, if_neg hescape] at h
          simp at h

/-- A word in a tag is a word of the source, and what follows it if that starts with a hyphen. -/
theorem tagWord_ok {span : Span} {raw : String} (h : tagWord c r = .ok ((span, raw), r')) :
    r.token.kind.isAnyWord = true ∧ ∃ tail : List Char, ':' ∉ tail ∧
      tail <+: r.here.drop (readWord true 0 r.here).length ∧
      raw.toList = r.here.take ((readWord true 0 r.here).length + tail.length) := by
  unfold tagWord at h
  obtain ⟨k, r₁, hkind, h⟩ := bind_ok h
  cases hkind
  split at h
  next hword =>
    obtain ⟨_, r₂, hok, h⟩ := bind_ok h
    cases hok
    obtain ⟨r₃, r₄, hget, h⟩ := bind_ok h
    cases hget
    obtain ⟨_, r₅, hscan, h⟩ := bind_ok h
    obtain ⟨start, r₆, hstart, h⟩ := bind_ok h
    cases h
    refine ⟨hword, _, ?_, ?_, String.toList_ofList⟩
    · split
      · intro hcolon
        exact absurd (List.all_eq_true.1 List.all_takeWhile ':' hcolon) (by decide)
      · simp
    · split
      next hdrop =>
        rw [hdrop]
        exact List.takeWhile_prefix _
      · exact List.nil_prefix
  · obtain ⟨_, _, hfail, -⟩ := bind_ok h
    obtain ⟨failure, hfailure⟩ := fails_unexpected (α := PUnit) c r
    cases hfailure.symm.trans hfail

/-- A colon in a word in a tag stands after a backslash, and has been noted as a fault where the place is sound. -/
theorem colon_in_tagWord {span : Span} {raw : String} (h : tagWord c r = .ok ((span, raw), r'))
    (hcolon : ':' ∈ raw.toList) : ['\\', ':'] <:+: raw.toList ∧ (r.Sound → r.tokenFaults ≠ []) := by
  obtain ⟨hword, tail, htail, ⟨rest, hrest⟩, hraw⟩ := tagWord_ok h
  have hdivided : raw.toList = r.here.take (readWord true 0 r.here).length ++ tail := by
    rw [hraw, List.take_add, ← hrest, List.take_left]
  rw [hdivided] at hcolon ⊢
  rcases List.mem_append.1 hcolon with hinside | hmore
  · rcases escaped_colon_of_mem_take hinside with hskipped | ⟨hescaped, hfaults⟩
    · simp at hskipped
    · exact ⟨hescaped.trans (List.prefix_append _ _).isInfix, fun hr hnone => hfaults (hr.word hword hnone)⟩
  · exact absurd hmore htail

variable {rules : Rules}

/-- Each word of a name is read as a word in a tag. -/
theorem gaveWithin_of_attributeName {name : AttributeName} (h : attributeName c r = .ok (name, r')) {word : String}
    (hword : word ∈ name.words.1 ∨ word = name.words.2) : ∃ span, GaveWithin rules tagWord c r r' (span, word) := by
  unfold attributeName at h
  obtain ⟨start, r₁, hstart, h⟩ := bind_ok h
  cases hstart
  obtain ⟨⟨span, first⟩, r₂, hfirst, h⟩ := bind_ok h
  obtain ⟨colon, r₃, hcolon, h⟩ := bind_ok h
  have hmoved (hr : r.Sound) : Forward r r₂ := Orderly.forward inferInstance hfirst hr
  have hpassed (hr : r.Sound) : Forward r₂ r₃ :=
    Orderly.forward inferInstance hcolon (hmoved hr).sound
  cases colon with
  | true =>
    obtain ⟨⟨span', second⟩, r₄, hsecond, h⟩ := bind_ok h
    cases h
    have hmoved' (hr : r.Sound) : Forward r₃ r' :=
      Orderly.forward inferInstance hsecond (hpassed hr).sound
    rcases hword with hword | rfl
    · obtain rfl := Option.mem_some_iff.1 hword
      exact ⟨span, r, r₂, hfirst, fun _ hr => ⟨hr, (hpassed hr).trans (hmoved' hr)⟩⟩
    · exact ⟨span', r₃, r', hsecond, fun _ hr => ⟨(hpassed hr).sound, .refl (hmoved' hr).sound⟩⟩
  | false =>
    cases h
    rcases hword with hword | rfl
    · cases hword
    · exact ⟨span, r, r₂, hfirst, fun _ hr => ⟨hr, hpassed hr⟩⟩

theorem gaveWithin_of_parseAttribute {span : Span} {name : AttributeName} {value : AttributeValue}
    (h : parseAttribute rules c r = .ok (.named span name value, r')) :
    GaveWithin rules attributeName c r r' name := by
  unfold parseAttribute at h
  obtain ⟨start, r₁, hstart, h⟩ := bind_ok h
  cases hstart
  obtain ⟨brace, r₂, hbrace, h⟩ := bind_ok h
  have hmoved (hr : r.Sound) : Forward r r₂ := Orderly.forward inferInstance hbrace hr
  cases brace with
  | true =>
    obtain ⟨_, r₃, hdots, h⟩ := bind_ok h
    obtain ⟨argument, r₄, hargument, h⟩ := bind_ok h
    obtain ⟨_, r₅, hclose, h⟩ := bind_ok h
    cases h
  | false =>
    obtain ⟨read, r₃, hread, h⟩ := bind_ok h
    have hnamed (hr : r.Sound) : Forward r₂ r₃ :=
      Orderly.forward inferInstance hread (hmoved hr).sound
    obtain ⟨equals, r₄, hequals, h⟩ := bind_ok h
    have hasked (hr : r.Sound) : Forward r₃ r₄ := Orderly.forward inferInstance hequals (hnamed hr).sound
    cases equals with
    | true =>
      obtain ⟨_, r₅, hpassed, h⟩ := bind_ok h
      obtain ⟨value, r₆, hvalue, h⟩ := bind_ok h
      cases h
      refine ⟨r₂, r₃, hread, fun hrules hr => ⟨(hmoved hr).sound, (hasked hr).trans ?_⟩⟩
      have hreached : Forward r₄ r₅ := Orderly.forward inferInstance hpassed (hasked hr).sound
      exact hreached.trans (Orderly.forward inferInstance hvalue hreached.sound)
    | false =>
      obtain ⟨value, r₅, hvalue, h⟩ := bind_ok h
      cases h
      cases hvalue
      exact ⟨r₂, r₃, hread, fun _ hr => ⟨(hmoved hr).sound, hasked hr⟩⟩

/-- Each word of a name in a list is read as a word in a tag. -/
theorem gaveWithin_of_parseAttributes {attributes : List Attribute}
    (h : parseAttributes rules c r = .ok (attributes, r')) {a : Attribute} (ha : a ∈ attributes) {name : AttributeName}
    (hname : a.named? = some name) {word : String} (hword : word ∈ name.words.1 ∨ word = name.words.2) :
    ∃ span, GaveWithin rules tagWord c r r' (span, word) := by
  have hitem : GaveWithin rules (parseAttribute rules) c r r' a :=
    gaveWithin_of_many (fun _ => inferInstance) (fun _ => inferInstance) h a ha
  cases a with
  | named span name' value =>
    cases hname
    obtain ⟨before, after, hrun, hwithin⟩ := hitem
    obtain ⟨first, last, hread, hwithin'⟩ := (gaveWithin_of_parseAttribute hrun).inside hwithin
    obtain ⟨wordSpan, hgave⟩ := gaveWithin_of_attributeName hread hword
    exact ⟨wordSpan, hgave.inside hwithin'⟩
  | spread span argument => cases hname

/-- What is between the two places is read by rules that keep the order, from a sound place on, and nothing was wrong
with any token so far. -/
structure ReadsCleanly (rules : Rules) (r r' : Reader) : Prop where
  rules : OrderlyRules rules
  sound : r.Sound
  tokenFaults : r'.tokenFaults = []

/-- The names of the attributes that are read have no colons in their words, unless a fault is noted. -/
theorem noColons_of_parseAttributes {attributes : List Attribute}
    (h : parseAttributes rules c r = .ok (attributes, r')) {a : Attribute} (ha : a ∈ attributes) {name : AttributeName}
    (hname : a.named? = some name) (hclean : ReadsCleanly rules r r' ∨ ¬ ['\\', ':'] <:+: name.text.toList) :
    name.NoColons := by
  have hwords (word : String) (hword : word ∈ name.words.1 ∨ word = name.words.2) : ':' ∉ word.toList := by
    intro hcolon
    obtain ⟨span, before, after, hrun, hwithin⟩ := gaveWithin_of_parseAttributes h ha hname hword
    obtain ⟨hescaped, hfaults⟩ := colon_in_tagWord hrun hcolon
    rcases hclean with hclean | hescape
    · obtain ⟨hbefore, hafter⟩ := hwithin hclean.rules hclean.sound
      have hmoved : Forward before after := Orderly.forward inferInstance hrun hbefore
      exact hfaults hbefore (hmoved.tokenFaults (hafter.tokenFaults hclean.tokenFaults))
    · exact hescape (hescaped.trans (AttributeName.isInfix_text hword))
  exact ⟨fun space hspace => hwords space (.inl hspace), hwords _ (.inr rfl)⟩

end Grammar

/-! ### Properties and their keys -/

/-- The property that an attribute becomes: its key is bare if the name may stand for a binding, and else a string. -/
inductive Attribute.Becomes (names : MethodNames) (bound : Bool) : Attribute → Tree → Prop
  | bare (span : Span) (name : AttributeName) (value : AttributeValue) (h : Text.isValidIdentifier name.text = true) :
    Becomes names bound (.named span name value)
      (.property span (.node (.key name.text) name.span []) (value.lower names bound span).value)
  | quoted (span : Span) (name : AttributeName) (value : AttributeValue)
      (h : Text.isValidIdentifier name.text = false) :
    Becomes names bound (.named span name value)
      (.property span (.string name.span name.text) (value.lower names bound span).value)
  | spread (span : Span) (argument : Tree) : Becomes names bound (.spread span argument) (.spread span argument)

/-- The text of the key of a property, if the key is not computed. -/
def Tree.keyText? : Tree → Option String
  | .node (.property _ false) _ (key :: _) => Grammar.keyText? key
  | _ => none

section

variable {names : MethodNames} {bound : Bool}

theorem Attribute.Becomes.keyText?_eq {a : Attribute} {property : Tree} (h : a.Becomes names bound property) :
    property.keyText? = a.name? := by
  cases h <;> rfl

theorem Attribute.becomes_lower (a : Attribute) : a.Becomes names bound (a.lower names bound).value := by
  cases a with
  | named span name value =>
    rw [Attribute.lower, Logged.value_bind, Logged.value_pure, AttributeName.key]
    split
    next hvalid => exact .bare span name value hvalid
    next hinvalid => exact .quoted span name value (Bool.eq_false_iff.2 hinvalid)
  | spread span argument =>
    rw [Attribute.lower]
    exact .spread span argument

variable (names bound) in
theorem forall₂_becomes_lowerAttributes (attributes : List Attribute) :
    List.Forall₂ (Attribute.Becomes names bound) attributes (lowerAttributes names bound attributes).value := by
  induction attributes with
  | nil =>
    rw [lowerAttributes]
    exact .nil
  | cons head rest ih =>
    rw [lowerAttributes]
    exact .cons head.becomes_lower ih

theorem map_keyText?_of_becomes {attributes : List Attribute} {properties : List Tree}
    (h : List.Forall₂ (Attribute.Becomes names bound) attributes properties) :
    properties.map Tree.keyText? = attributes.map Attribute.name? := by
  induction h with
  | nil => rfl
  | cons hhead _ ih => rw [List.map_cons, List.map_cons, hhead.keyText?_eq, ih]

theorem attributeObject?_eq_none_iff {attributes : List Attribute} {properties : List Tree} :
    attributeObject? attributes properties = none ↔ attributes = [] := by
  cases attributes with
  | nil => simp [attributeObject?]
  | cons head rest => simp [attributeObject?]

end

/-- The object of the attributes that are read in a tag.  There is none exactly if there are no attributes, and else it
has one property for each attribute, in the same order: a spread for a spread, and for a name a property whose key is
that name, bare exactly if the name may stand for a binding.  Names have the same text exactly if they have the same
words, so two keys are the same exactly if the two attributes have the same name, and every one of them is kept.  That
holds of all names in a list that is read without a noted fault, and in any list of the names without a backslash before
a colon. -/
theorem attributeObject?_one_to_one (names : MethodNames) (bound : Bool) {rules : Grammar.Rules}
    {c : Grammar.Conditions} {r r' : Reader} {attributes : List Attribute}
    (h : Grammar.parseAttributes rules c r = .ok (attributes, r')) :
    (attributeObject? attributes (lowerAttributes names bound attributes).value = none ↔ attributes = []) ∧
    (attributes ≠ [] → ∃ properties,
      attributeObject? attributes (lowerAttributes names bound attributes).value =
        some (.object (attributesSpan attributes) properties) ∧
      List.Forall₂ (Attribute.Becomes names bound) attributes properties ∧
      properties.map Tree.keyText? = attributes.map Attribute.name? ∧
      ∀ (i j : Nat) (name name' : AttributeName), attributes[i]?.bind Attribute.named? = some name →
        attributes[j]?.bind Attribute.named? = some name' →
        Grammar.ReadsCleanly rules r r' ∨
          ¬ ['\\', ':'] <:+: name.text.toList ∧ ¬ ['\\', ':'] <:+: name'.text.toList →
        ((properties.map Tree.keyText?)[i]? = (properties.map Tree.keyText?)[j]? ↔ name.words = name'.words)) ∧
    ∀ a b : AttributeName, a.NoColons → b.NoColons → (a.text = b.text ↔ a.words = b.words) := by
  refine ⟨attributeObject?_eq_none_iff, ?_, fun a b ha hb => AttributeName.text_eq_iff ha hb⟩
  intro hsome
  have hbecomes := forall₂_becomes_lowerAttributes names bound attributes
  have hkeys := map_keyText?_of_becomes hbecomes
  refine ⟨_, if_neg (by simpa using hsome), hbecomes, hkeys, ?_⟩
  intro i j name name' hi hj hclean
  obtain ⟨a, ha, hname⟩ := Option.bind_eq_some_iff.1 hi
  obtain ⟨b, hb, hname'⟩ := Option.bind_eq_some_iff.1 hj
  have hwords := Grammar.noColons_of_parseAttributes h (List.mem_of_getElem? ha) hname (hclean.imp_right And.left)
  have hwords' := Grammar.noColons_of_parseAttributes h (List.mem_of_getElem? hb) hname' (hclean.imp_right And.right)
  rw [← AttributeName.text_eq_iff hwords hwords', hkeys, List.getElem?_map, List.getElem?_map, ha, hb]
  simp [Attribute.name?_eq_map, hname, hname']

/-- In the tag of `<x b="1" a-b xlink:href {...p} class \u0062 b='3'/>` the name `b` comes twice, and so does the key;
the escaped name is another one. -/
theorem attributeObject?_of_read : ∃ attributes r' properties,
    Grammar.parseAttributes (Grammar.rulesWithin 40) (.initial .standard false 60)
        (.start false 3 "b=\"1\" a-b xlink:href {...p} class \\u0062 b='3'/>".toList) = .ok (attributes, r') ∧
      attributeObject? attributes (lowerAttributes .standard false attributes).value =
        some (.object ⟨3, 49⟩ properties) ∧
      properties.map Tree.keyText? =
        [some "b", some "a-b", some "xlink:href", none, some "class", some "\\u0062", some "b"] ∧
      (properties.map Tree.keyText?)[0]? = (properties.map Tree.keyText?)[6]? ∧
      (properties.map Tree.keyText?)[0]? ≠ (properties.map Tree.keyText?)[5]? := by
  have hread : (Grammar.parseAttributes (Grammar.rulesWithin 40) (.initial .standard false 60)
      (.start false 3 "b=\"1\" a-b xlink:href {...p} class \\u0062 b='3'/>".toList)).toOption.map
        (fun result => (result.1.map Attribute.name?, result.1[0]?.bind Attribute.named?,
          result.1[5]?.bind Attribute.named?, result.1[6]?.bind Attribute.named?, attributesSpan result.1)) =
      some ([some "b", some "a-b", some "xlink:href", none, some "class", some "\\u0062", some "b"],
        some (.plain ⟨3, 4⟩ "b"), some (.plain ⟨37, 43⟩ "\\u0062"), some (.plain ⟨44, 45⟩ "b"), ⟨3, 49⟩) := by
    decide +kernel
  have hfaults : (Grammar.parseAttributes (Grammar.rulesWithin 40) (.initial .standard false 60)
      (.start false 3 "b=\"1\" a-b xlink:href {...p} class \\u0062 b='3'/>".toList)).toOption.any
        (·.2.tokenFaults.isEmpty) = true := by
    decide +kernel
  obtain ⟨⟨attributes, r'⟩, hok, hfacts⟩ := ok_of_toOption hread
  rw [Prod.mk.injEq, Prod.mk.injEq, Prod.mk.injEq, Prod.mk.injEq] at hfacts
  obtain ⟨hnames, hfirst, hescaped, hlast, hspan⟩ := hfacts
  have hsome : attributes ≠ [] := by
    rintro rfl
    cases hfirst
  have hclean : Grammar.ReadsCleanly (Grammar.rulesWithin 40)
      (.start false 3 "b=\"1\" a-b xlink:href {...p} class \\u0062 b='3'/>".toList) r' := by
    rw [hok] at hfaults
    exact ⟨inferInstance, Reader.sound_start _ _ _, List.isEmpty_iff.1 hfaults⟩
  obtain ⟨properties, hobject, -, hkeys, hsame⟩ := (attributeObject?_one_to_one .standard false hok).2.1 hsome
  refine ⟨attributes, r', properties, hok, ?_, hkeys.trans hnames, ?_, ?_⟩
  · rw [hobject, hspan]
  · exact (hsame 0 6 _ _ hfirst hlast (.inl hclean)).2 rfl
  · exact fun h => absurd ((hsame 0 5 _ _ hfirst hescaped (.inl hclean)).1 h) (by decide)

end JsxLowering
