import JsxLowering.Proofs.Acceptance
import Mathlib.Data.List.Nodup

/-!
# The format of configurations

The loops over the entries of an object and of a list are described one entry at a time, and then by induction on the
fields that are left.  Together with the grammar of JSON this says which texts are configurations, and which
configurations they are (`ofJson_eq_ok_iff`).
-/

namespace JsxLowering.Config

open Json (Skips Characters Key Value Items Members Document)

/-! ### Fields -/

/-- The name of a field. -/
def Field.name : Field → String
  | object => "namespace"
  | component => "componentMethod"
  | literal => "literalMethod"
  | filename => "filename"
  | sourceMap => "sourceMap"

/-- The value of a field: a string in the first four, a truth value in the last, and null if it is missing. -/
def value (config : Config) : Field → Json
  | .object => optional .string config.object
  | .component => optional .string config.component
  | .literal => optional .string config.literal
  | .filename => optional .string config.filename
  | .sourceMap => optional .boolean config.sourceMap

theorem field?_eq_some_iff {name : String} {field : Field} : field? name = some field ↔ name = field.name := by
  unfold field?
  split <;> cases field <;> simp_all [Field.name]

theorem Field.name_injective : Function.Injective Field.name := by
  intro field other h
  have hfield := field?_eq_some_iff.2 (rfl : field.name = field.name)
  rw [h, field?_eq_some_iff.2 rfl] at hfield
  exact (Option.some.inj hfield).symm

theorem Field.mem_all (field : Field) : field ∈ Field.all := by cases field <;> decide

theorem optional_injective {α : Type} (wrap : α → Json) (hwrap : Function.Injective wrap) (hne : ∀ a, wrap a ≠ .null) :
    Function.Injective (optional wrap) := by
  rintro (_ | a) (_ | b) h
  · rfl
  · exact absurd h.symm (hne b)
  · exact absurd h (hne a)
  · exact congrArg some (hwrap h)

/-- A configuration is given by the values of its fields. -/
theorem value_injective : Function.Injective value := by
  have hstring := optional_injective Json.string (fun _ _ h => by cases h; rfl) nofun
  have hboolean := optional_injective Json.boolean (fun _ _ h => by cases h; rfl) nofun
  rintro ⟨object, component, literal, filename, sourceMap⟩ ⟨object', component', literal', filename', sourceMap'⟩ h
  obtain rfl := hstring (congrFun h .object)
  obtain rfl := hstring (congrFun h .component)
  obtain rfl := hstring (congrFun h .literal)
  obtain rfl := hstring (congrFun h .filename)
  obtain rfl := hboolean (congrFun h .sourceMap)
  rfl

/-- A configuration with one field of another. -/
def withField (config source : Config) : Field → Config
  | .object => { config with object := source.object }
  | .component => { config with component := source.component }
  | .literal => { config with literal := source.literal }
  | .filename => { config with filename := source.filename }
  | .sourceMap => { config with sourceMap := source.sourceMap }

theorem value_withField (config source : Config) (field : Field) :
    (config.withField source field).value = Function.update config.value field (source.value field) := by
  funext other
  cases field <;> cases other <;> rfl

/-- The value that comes next, after white space, is put into a field. -/
def Sets (config : Config) (field : Field) (text : List Char) (config' : Config) (rest : List Char) : Prop :=
  ∃ start value, Skips text start ∧ Value start value rest ∧ config'.value = Function.update config.value field value

/-- A field is read by reading its value and putting that in its place. -/
theorem accepts_fieldValue {α : Type} {read : Reading (Option α)} {wrap : α → Json} {config : Config} {field : Field}
    (take : Config → Option α) (put : Option α → Config)
    (htake : ∀ config, config.value field = optional wrap (take config))
    (hput : ∀ a, (put a).value = Function.update config.value field (optional wrap a))
    (h : Accepts read fun text a rest => ∃ start, Skips text start ∧ Value start (optional wrap a) rest) :
    Accepts (do return put (← read)) (Sets config field) := by
  refine (h.bind fun a => accepts_pure (put a)).congr fun text config' rest => ?_
  constructor
  · rintro ⟨a, _, ⟨start, hskip, hvalue⟩, rfl, rfl⟩
    exact ⟨start, _, hskip, hvalue, hput a⟩
  · rintro ⟨start, value, hskip, hvalue, hconfig⟩
    have hfield : optional wrap (take config') = value := by rw [← htake, hconfig, Function.update_self]
    refine ⟨take config', rest, ⟨start, hskip, hfield ▸ hvalue⟩, value_injective ?_, rfl⟩
    rw [hput, hconfig, hfield]

theorem accepts_readField (config : Config) (field : Field) : Accepts (readField config field) (Sets config field) := by
  have hstring := accepts_orNull Json.string (fun _ => by simp [Json.mark]) accepts_stringValue
  have hboolean := accepts_orNull Json.boolean (fun b => by cases b <;> decide) accepts_booleanValue
  cases field with
  | object =>
    exact accepts_fieldValue object _ (fun _ => rfl) (fun a => value_withField config { object := a } .object) hstring
  | component =>
    exact accepts_fieldValue component _ (fun _ => rfl)
      (fun a => value_withField config { component := a } .component) hstring
  | literal =>
    exact accepts_fieldValue literal _ (fun _ => rfl)
      (fun a => value_withField config { literal := a } .literal) hstring
  | filename =>
    exact accepts_fieldValue filename _ (fun _ => rfl)
      (fun a => value_withField config { filename := a } .filename) hstring
  | sourceMap =>
    exact accepts_fieldValue sourceMap _ (fun _ => rfl)
      (fun a => value_withField config { sourceMap := a } .sourceMap) hboolean

/-! ### Objects -/

/-- What comes before an entry: nothing before the first, a comma before the others. -/
def Opens (first : Bool) (text more : List Char) : Prop := if first then more = text else Skips text (',' :: more)

/-- A key comes next, at its quote, or the closing brace does. -/
theorem accepts_hasKey (first : Bool) :
    Accepts (hasKey first) fun text b rest =>
      b = true ∧ (∃ more inner, Opens first text more ∧ Skips more ('"' :: inner) ∧ rest = '"' :: inner) ∨
        b = false ∧ ∃ more, Skips text ('}' :: more) ∧ rest = '}' :: more := by
  refine (accepts_token (T := fun c text b rest =>
    c = '"' ∧ first = true ∧ b = true ∧ rest = text ∨
    c = ',' ∧ first = false ∧ b = true ∧ (∃ inner, Skips text.tail ('"' :: inner) ∧ rest = '"' :: inner) ∨
    c = '}' ∧ b = false ∧ rest = text) (refuses_refuseNext _) fun c => ?_).congr ?_
  · split
    · next h => cases h
    · next h =>
      cases h
      exact (accepts_pure _).congr (by simp)
    · next c' hc h =>
      cases h
      cases first with
      | true =>
        by_cases hquote : c = '"'
        · simp only [hquote, ↓reduceIte]
          exact (accepts_pure _).congr (by simp)
        · simp only [hquote, ↓reduceIte]
          exact (refuses_refuseNext _).accepts.congr (by simp_all)
      | false =>
        by_cases hcomma : c = ','
        · simp only [hcomma, ↓reduceIte, Bool.false_eq_true]
          refine (accepts_pass.bind fun _ => accepts_token (T := fun c text b rest => c = '"' ∧ b = true ∧ rest = text)
            (refuses_refuseNext _) fun c => ?_).congr ?_
          · split
            · exact (accepts_pure _).congr (by simp_all)
            · exact (refuses_refuseNext _).accepts.congr (by simp_all)
            · exact (refuses_refuseNext _).accepts.congr (by simp_all)
            · exact (refuses_refuseNext _).accepts.congr (by simp_all)
          · simp [Json.blanks]
        · simp only [hcomma, ↓reduceIte, Bool.false_eq_true]
          exact (refuses_refuseNext _).accepts.congr (by simp_all)
  · intro text b rest
    constructor
    · rintro ⟨c, more, -, hskip, ⟨rfl, rfl, rfl, rfl⟩ | ⟨rfl, rfl, rfl, inner, hinner, rfl⟩ | ⟨rfl, rfl, rfl⟩⟩
      · exact .inl ⟨rfl, text, more, rfl, hskip, rfl⟩
      · exact .inl ⟨rfl, more, inner, hskip, hinner, rfl⟩
      · exact .inr ⟨rfl, more, hskip, rfl⟩
    · rintro (⟨rfl, more, inner, hopens, hquote, rfl⟩ | ⟨rfl, more, hclose, rfl⟩)
      · cases first with
        | true =>
          obtain rfl : more = text := hopens
          exact ⟨'"', inner, by decide, hquote, .inl ⟨rfl, rfl, rfl, rfl⟩⟩
        | false => exact ⟨',', more, by decide, hopens, .inr (.inl ⟨rfl, rfl, rfl, inner, hquote, rfl⟩)⟩
      · exact ⟨'}', more, by decide, hclose, .inr (.inr ⟨rfl, rfl, rfl⟩)⟩

/-- A reader that passes one character, and refuses all others. -/
theorem accepts_expected {f : Option Char → Reading Unit} {expected : Char} (hblank : expected ∉ Json.blanks)
    (hpass : f (some expected) = pass) (hnone : Refuses (f none)) (hsome : ∀ c ≠ expected, Refuses (f (some c))) :
    Accepts (peekToken >>= f) fun text _ rest => Skips text (expected :: rest) := by
  refine (accepts_token (T := fun c text _ rest => c = expected ∧ rest = text.tail) hnone fun c => ?_).congr ?_
  · by_cases hc : c = expected
    · rw [hc, hpass]
      exact accepts_pass.congr (by simp)
    · exact (hsome c hc).accepts.congr (by simp [hc])
  · intro text _ rest
    constructor
    · rintro ⟨_, more, -, hskip, rfl, rfl⟩
      exact hskip
    · intro hskip
      exact ⟨expected, rest, hblank, hskip, rfl, rfl⟩

theorem accepts_passColon : Accepts passColon fun text _ rest => Skips text (':' :: rest) := by
  refine accepts_expected (by decide) rfl (refuses_refuseNext _) fun c hc => ?_
  split
  · simp_all
  · exact refuses_refuseNext _
  · exact refuses_refuseNext _

theorem accepts_closeObject : Accepts closeObject fun text _ rest => Skips text ('}' :: rest) := by
  refine accepts_expected (by decide) rfl (refuses_refuseNext _) fun c hc => ?_
  split
  · simp_all
  · exact refuses_refuseNext _
  · exact refuses_refuseNext _
  · exact refuses_refuseNext _

theorem accepts_closeList : Accepts closeList fun text _ rest => Skips text (']' :: rest) := by
  refine accepts_expected (by decide) rfl (refuses_refuseNext _) fun c hc => ?_
  split
  · simp_all
  · refine Refuses.bind fun _ => Refuses.bind fun c => ?_
    split
    · exact refuses_refuseNext _
    · exact refuses_refuseNext _
  · exact refuses_refuseNext _
  · exact refuses_refuseNext _

theorem accepts_finish_ok {close : Reading Unit} {closing : Char} {Q : List Char → List Char → Prop}
    (h : Accepts close fun text _ rest => Q text rest) (config : Config) :
    Accepts (finish closing close (.ok config)) fun text config' rest => config' = config ∧ Q text rest :=
  (h.bind fun _ => accepts_pure config).congr fun text config' rest => by
    constructor
    · rintro ⟨_, _, h, rfl, rfl⟩
      exact ⟨rfl, h⟩
    · rintro ⟨rfl, h⟩
      exact ⟨(), _, h, rfl, rfl⟩

theorem refuses_finish_error (closing : Char) (close : Reading Unit) (cause : Cause) :
    Refuses (finish closing close (.error cause)) := by
  unfold finish
  refine Refuses.bind fun c => ?_
  by_cases hc : c = some closing
  · simp only [hc, ↓reduceIte]
    exact Refuses.bind fun _ => refuses_refuse _
  · simp only [hc, ↓reduceIte]
    exact refuses_refuse _

/-- One entry of an object is read, or its closing brace. -/
theorem accepts_readFields_step (first : Bool) (remaining : List Field) (config : Config)
    {R : Field → Config → List Char → Config → List Char → Prop}
    (hnext : ∀ field ∈ remaining, ∀ mid,
      Accepts (readFields false (remaining.erase field) mid >>= finish '}' closeObject) (R field mid)) :
    Accepts (readFields first remaining config >>= finish '}' closeObject) fun text config' rest =>
      config' = config ∧ Skips text ('}' :: rest) ∨
      ∃ field ∈ remaining, ∃ more colon mid next, Opens first text more ∧ Key more field.name colon ∧
        Sets config field colon mid next ∧ R field mid next config' rest := by
  rw [readFields, bind_assoc]
  refine ((accepts_hasKey first).bind (T := fun b text config' rest =>
    b = false ∧ config' = config ∧ Skips text ('}' :: rest) ∨
    b = true ∧ ∃ field ∈ remaining, ∃ stop colon mid next, Characters text.tail field.name.toList stop ∧
      Skips stop (':' :: colon) ∧ Sets config field colon mid next ∧
      R field mid next config' rest) fun b => ?_).congr ?_
  · cases b with
    | false =>
      simp only [Bool.false_eq_true, ↓reduceIte, pure_bind]
      exact (accepts_finish_ok accepts_closeObject config).congr (by simp)
    | true =>
      simp only [↓reduceIte, bind_assoc]
      refine (accepts_readString.bind (T := fun name text config' rest => ∃ field ∈ remaining, name = field.name ∧
        ∃ colon mid next, Skips text (':' :: colon) ∧ Sets config field colon mid next ∧
          R field mid next config' rest) fun name => ?_).congr ?_
      · cases hfield : field? name with
        | none =>
          simp only [pure_bind]
          refine (refuses_finish_error _ _ _).accepts.congr fun text config' rest => ⟨False.elim, ?_⟩
          rintro ⟨field, -, hname, -⟩
          cases hfield.symm.trans (field?_eq_some_iff.2 hname)
        | some field =>
          have hunique : ∀ {other : Field}, name = other.name → other = field := fun h =>
            Option.some.inj ((field?_eq_some_iff.2 h).symm.trans hfield)
          by_cases hmem : field ∈ remaining
          · simp only [hmem, ↓reduceDIte, bind_assoc]
            refine (accepts_passColon.bind fun _ => (accepts_readField config field).bind fun mid =>
              hnext field hmem mid).congr fun text config' rest => ?_
            constructor
            · rintro ⟨_, colon, hcolon, mid, next, hsets, hrest⟩
              exact ⟨field, hmem, field?_eq_some_iff.1 hfield, colon, mid, next, hcolon, hsets, hrest⟩
            · rintro ⟨_, -, hname, colon, mid, next, hcolon, hsets, hrest⟩
              obtain rfl := hunique hname
              exact ⟨(), colon, hcolon, mid, next, hsets, hrest⟩
          · simp only [hmem, ↓reduceDIte, pure_bind]
            refine (refuses_finish_error _ _ _).accepts.congr fun text config' rest => ⟨False.elim, ?_⟩
            rintro ⟨other, hother, hname, -⟩
            exact hmem (hunique hname ▸ hother)
      · intro text config' rest
        constructor
        · rintro ⟨_, stop, hname, field, hmem, rfl, colon, mid, next, h⟩
          exact .inr ⟨trivial, field, hmem, stop, colon, mid, next, hname, h⟩
        · rintro (⟨⟨⟩, -⟩ | ⟨-, field, hmem, stop, colon, mid, next, hname, h⟩)
          exact ⟨_, stop, hname, field, hmem, rfl, colon, mid, next, h⟩
  · intro text config' rest
    constructor
    · rintro ⟨b, mid, ⟨rfl, more, inner, hopens, hquote, rfl⟩ | ⟨rfl, more, hclose, rfl⟩, h⟩
      · obtain ⟨⟨⟩, -⟩ | ⟨-, field, hmem, stop, colon, mid, next, hname, hcolon, h⟩ := h
        exact .inr ⟨field, hmem, more, colon, mid, next, hopens, .mk hquote hname hcolon, h⟩
      · obtain ⟨-, rfl, hclose'⟩ | ⟨⟨⟩, -⟩ := h
        obtain ⟨-, rfl⟩ := Json.Skips.none.cons_unique hclose' (by decide) (by decide)
        exact .inl ⟨rfl, hclose⟩
    · rintro (⟨rfl, hclose⟩ | ⟨field, hmem, more, colon, mid, next, hopens, hkey, h⟩)
      · exact ⟨false, _, .inr ⟨rfl, rest, hclose, rfl⟩, .inl ⟨rfl, rfl, .none⟩⟩
      · obtain ⟨hquote, hname, hcolon⟩ := hkey
        exact ⟨true, _, .inl ⟨rfl, more, _, hopens, hquote, rfl⟩,
          .inr ⟨rfl, field, hmem, _, colon, mid, next, hname, hcolon, h⟩⟩

/-- Entries under different names of the fields, that make one configuration of another. -/
structure Fills (remaining : List Field) (config : Config) (entries : List (String × Json)) (config' : Config) :
    Prop where
  nodup : (entries.map Prod.fst).Nodup
  known : ∀ entry ∈ entries, ∃ field ∈ remaining, entry.1 = field.name
  value_eq : ∀ field, config'.value field = (entries.lookup field.name).getD (config.value field)

theorem fills_nil {remaining : List Field} {config config' : Config} :
    Fills remaining config [] config' ↔ config' = config := by
  constructor
  · intro h
    exact value_injective (funext h.value_eq)
  · rintro rfl
    exact ⟨.nil, by simp, fun _ => rfl⟩

theorem lookup_eq_none {key : String} {entries : List (String × Json)} (hkey : key ∉ entries.map Prod.fst) :
    entries.lookup key = none := by
  refine List.lookup_eq_none_iff.2 fun entry hentry => ?_
  simpa using fun h => hkey (List.mem_map.2 ⟨entry, hentry, h.symm⟩)

/-- An entry for a field, and then others, is the entry put in place first. -/
theorem lookup_cons_getD {field : Field} {value : Json} {entries : List (String × Json)} {values : Field → Json}
    (hkey : field.name ∉ entries.map Prod.fst) (other : Field) :
    (((field.name, value) :: entries).lookup other.name).getD (values other) =
      (entries.lookup other.name).getD (Function.update values field value other) := by
  by_cases hother : other = field
  · simp [hother, lookup_eq_none hkey]
  · have hname : (other.name == field.name) = false := by simpa using Field.name_injective.ne hother
    simp [List.lookup_cons, hname, hother]

theorem fills_cons {remaining : List Field} (hremaining : remaining.Nodup) {config config' : Config} {key : String}
    {value : Json} {entries : List (String × Json)} :
    Fills remaining config ((key, value) :: entries) config' ↔ ∃ field ∈ remaining, key = field.name ∧
      ∃ mid : Config, mid.value = Function.update config.value field value ∧
        Fills (remaining.erase field) mid entries config' := by
  constructor
  · rintro ⟨hnodup, hknown, hvalue⟩
    obtain ⟨field, hmem, rfl⟩ : ∃ field ∈ remaining, key = field.name := hknown _ (List.mem_cons_self ..)
    rw [List.map_cons, List.nodup_cons] at hnodup
    have hfield : config'.value field = value := by simp [hvalue]
    have hmid := value_withField config config' field
    rw [hfield] at hmid
    refine ⟨field, hmem, rfl, config.withField config' field, hmid, hnodup.2, fun entry hentry => ?_, fun other => ?_⟩
    · obtain ⟨other, hother, hname⟩ := hknown entry (List.mem_cons_of_mem _ hentry)
      refine ⟨other, (List.mem_erase_of_ne ?_).2 hother, hname⟩
      rintro rfl
      exact hnodup.1 (List.mem_map.2 ⟨entry, hentry, hname⟩)
    · rw [hvalue, hmid]
      exact lookup_cons_getD hnodup.1 other
  · rintro ⟨field, hmem, rfl, mid, hmid, hnodup, hknown, hvalue⟩
    have hkey : field.name ∉ entries.map Prod.fst := by
      intro h
      obtain ⟨entry, hentry, hname⟩ := List.mem_map.1 h
      obtain ⟨other, hother, hname'⟩ := hknown entry hentry
      obtain rfl := Field.name_injective (hname.symm.trans hname')
      exact hremaining.not_mem_erase hother
    refine ⟨List.nodup_cons.2 ⟨hkey, hnodup⟩, fun entry hentry => ?_, fun other => ?_⟩
    · rcases List.mem_cons.1 hentry with rfl | hentry
      · exact ⟨field, hmem, rfl⟩
      · obtain ⟨other, hother, hname⟩ := hknown entry hentry
        exact ⟨other, List.mem_of_mem_erase hother, hname⟩
    · rw [hvalue, hmid]
      exact (lookup_cons_getD hkey other).symm

theorem accepts_members {remaining : List Field} (hremaining : remaining.Nodup) (config : Config) :
    Accepts (readFields false remaining config >>= finish '}' closeObject) fun text config' rest =>
      ∃ entries, Members text entries rest ∧ Fills remaining config entries config' := by
  induction hlength : remaining.length using Nat.strong_induction_on generalizing remaining config with
  | _ n ih =>
    refine (accepts_readFields_step false remaining config fun field hmem mid =>
      ih _ ?_ (hremaining.erase field) mid rfl).congr fun text config' rest => ?_
    · rw [List.length_erase_of_mem hmem]
      have := List.length_pos_of_mem hmem
      omega
    · constructor
      · rintro (⟨rfl, hclose⟩ | ⟨field, hmem, more, colon, mid, next, hopens, hkey, hsets, entries, hentries, hfills⟩)
        · exact ⟨[], .close hclose, fills_nil.2 rfl⟩
        · obtain ⟨start, value, hskip, hvalue, hmid⟩ := hsets
          have hfills := (fills_cons hremaining).2 ⟨field, hmem, rfl, mid, hmid, hfills⟩
          exact ⟨_, .comma hopens hkey hskip hvalue hentries, hfills⟩
      · rintro ⟨entries, hentries, hfills⟩
        cases hentries with
        | close h => exact .inl ⟨fills_nil.1 hfills, h⟩
        | comma hcomma hkey hstart hvalue hnext =>
          obtain ⟨field, hmem, rfl, mid, hmid, hfills⟩ := (fills_cons hremaining).1 hfills
          exact .inr ⟨field, hmem, _, _, mid, _, hcomma, hkey, ⟨_, _, hstart, hvalue, hmid⟩, _, hnext, hfills⟩

/-- An object, its opening brace passed. -/
theorem accepts_object : Accepts (readFields true Field.all {} >>= finish '}' closeObject) fun text config rest =>
    ∃ entries, Value ('{' :: text) (.object entries) rest ∧ Fills Field.all {} entries config := by
  have hall : Field.all.Nodup := by decide
  refine (accepts_readFields_step true Field.all {} fun field _ mid =>
    accepts_members (hall.erase field) mid).congr fun text config rest => ?_
  constructor
  · rintro (⟨rfl, hclose⟩ | ⟨field, hmem, more, colon, mid, next, hopens, hkey, hsets, entries, hentries, hfills⟩)
    · exact ⟨[], .emptyObject hclose, fills_nil.2 rfl⟩
    · obtain rfl : more = text := hopens
      obtain ⟨start, value, hskip, hvalue, hmid⟩ := hsets
      exact ⟨_, .object hkey hskip hvalue hentries, (fills_cons hall).2 ⟨field, hmem, rfl, mid, hmid, hfills⟩⟩
  · rintro ⟨entries, hobject, hfills⟩
    obtain ⟨_, ⟨⟩, ⟨rfl, hclose⟩ | ⟨key, value, others, colon, start, next, rfl, hkey, hstart, hvalue, hnext⟩⟩ :=
      Json.value_object_iff.1 hobject
    · exact .inl ⟨fills_nil.1 hfills, hclose⟩
    · obtain ⟨field, hmem, rfl, mid, hmid, hfills⟩ := (fills_cons hall).1 hfills
      exact .inr ⟨field, hmem, text, colon, mid, next, rfl, hkey, ⟨start, value, hstart, hvalue, hmid⟩, others, hnext,
        hfills⟩

/-! ### Lists -/

/-- An element comes next, at its first character, or the closing bracket does. -/
theorem accepts_hasElement (first : Bool) :
    Accepts (hasElement first) fun text b rest =>
      b = true ∧ (∃ more c inner, Opens first text more ∧ Skips more (c :: inner) ∧ c ∉ Json.blanks ∧ c ≠ ']' ∧
        rest = c :: inner) ∨
      b = false ∧ ∃ more, Skips text (']' :: more) ∧ rest = ']' :: more := by
  refine (accepts_token (T := fun c text b rest =>
    c = ']' ∧ b = false ∧ rest = text ∨
    c ≠ ']' ∧ first = true ∧ b = true ∧ rest = text ∨
    c = ',' ∧ first = false ∧ b = true ∧ ∃ d inner, d ∉ Json.blanks ∧ Skips text.tail (d :: inner) ∧ d ≠ ']' ∧
      rest = d :: inner) (refuses_refuseNext _) fun c => ?_).congr fun text b rest => ?_
  · split
    · next h => cases h
    · next h =>
      cases h
      exact (accepts_pure _).congr (by simp)
    · next c' hc h =>
      cases h
      have hne : c ≠ ']' := fun h => hc h
      cases first with
      | true => exact (accepts_pure _).congr (by simp [hne])
      | false =>
        by_cases hcomma : c = ','
        · simp only [hcomma, ↓reduceIte, Bool.false_eq_true]
          refine (accepts_pass.bind fun _ => accepts_token (T := fun d text b rest => d ≠ ']' ∧ b = true ∧ rest = text)
            (refuses_refuseNext _) fun d => ?_).congr ?_
          · split
            · exact (refuses_refuseNext _).accepts.congr (by simp_all)
            · exact (accepts_pure _).congr (by simp_all)
            · exact (refuses_refuseNext _).accepts.congr (by simp_all)
          · intro text b rest
            simp only [exists_const, exists_eq_left]
            grind
        · simp only [hcomma, ↓reduceIte, Bool.false_eq_true]
          exact (refuses_refuseNext _).accepts.congr (by simp [hne])
  · constructor
    · rintro ⟨c, more, hc, hskip,
        ⟨rfl, rfl, rfl⟩ | ⟨hne, rfl, rfl, rfl⟩ | ⟨rfl, rfl, rfl, d, inner, hd, hinner, hne, rfl⟩⟩
      · exact .inr ⟨rfl, more, hskip, rfl⟩
      · exact .inl ⟨rfl, text, c, more, rfl, hskip, hc, hne, rfl⟩
      · exact .inl ⟨rfl, more, d, inner, hskip, hinner, hd, hne, rfl⟩
    · rintro (⟨rfl, more, c, inner, hopens, hskip, hc, hne, rfl⟩ | ⟨rfl, more, hclose, rfl⟩)
      · cases first with
        | true =>
          obtain rfl : more = text := hopens
          exact ⟨c, inner, hc, hskip, .inr (.inl ⟨hne, rfl, rfl, rfl⟩)⟩
        | false => exact ⟨',', more, by decide, hopens, .inr (.inr ⟨rfl, rfl, rfl, c, inner, hc, hskip, hne, rfl⟩)⟩
      · exact ⟨']', more, by decide, hclose, .inl ⟨rfl, rfl, rfl⟩⟩

/-- One element of a list is read. -/
theorem accepts_readElements_step (index : Nat) (field : Field) (fields : List Field) (config : Config)
    {R : Config → List Char → Config → List Char → Prop}
    (hnext : ∀ mid, Accepts (readElements (index + 1) fields mid >>= finish ']' closeList) (R mid)) :
    Accepts (readElements index (field :: fields) config >>= finish ']' closeList) fun text config' rest =>
      ∃ more mid next, Opens (index == 0) text more ∧ Sets config field more mid next ∧ R mid next config' rest := by
  rw [readElements, bind_assoc]
  refine ((accepts_hasElement (index == 0)).bind (T := fun b text config' rest =>
    b = true ∧ ∃ mid next, Sets config field text mid next ∧ R mid next config' rest) fun b => ?_).congr
      fun text config' rest => ?_
  · cases b with
    | false =>
      simp only [Bool.false_eq_true, ↓reduceIte, pure_bind]
      exact (refuses_finish_error _ _ _).accepts.congr (by simp)
    | true =>
      simp only [↓reduceIte, bind_assoc]
      exact ((accepts_readField config field).bind hnext).congr (by simp)
  · constructor
    · rintro ⟨b, _, ⟨rfl, more, c, inner, hopens, hskip, hc, -, rfl⟩ | ⟨rfl, -⟩, h⟩
      · obtain ⟨-, mid, next, ⟨start, value, hstart, hvalue, hmid⟩, h⟩ := h
        obtain rfl := Json.Skips.none.unique hstart (Json.solid_cons.2 hc) hvalue.solid
        exact ⟨more, mid, next, hopens, ⟨_, value, hskip, hvalue, hmid⟩, h⟩
      · cases h.1
    · rintro ⟨more, mid, next, hopens, ⟨start, value, hskip, hvalue, hmid⟩, h⟩
      obtain ⟨c, inner, rfl, -⟩ := hvalue.exists_cons
      refine ⟨true, c :: inner, .inl ⟨rfl, more, c, inner, hopens, hskip, hvalue.start.1, hvalue.start.2.1, rfl⟩, rfl,
        mid, next, ⟨_, value, .none, hvalue, hmid⟩, h⟩

/-- What follows in a list fills fields in order, and leaves the others as they are. -/
def FillsInOrder (fields : List Field) (config : Config) (text : List Char) (config' : Config) (rest : List Char) :
    Prop :=
  Items text (fields.map config'.value) rest ∧ ∀ field ∉ fields, config'.value field = config.value field

theorem accepts_readElements_cons (index : Nat) {field : Field} {fields : List Field} (hfield : field ∉ fields)
    (config : Config) (hnext : ∀ mid,
      Accepts (readElements (index + 1) fields mid >>= finish ']' closeList) (FillsInOrder fields mid)) :
    Accepts (readElements index (field :: fields) config >>= finish ']' closeList) fun text config' rest =>
      (∃ more start next, Opens (index == 0) text more ∧ Skips more start ∧ Value start (config'.value field) next ∧
        Items next (fields.map config'.value) rest) ∧
      ∀ other ∉ field :: fields, config'.value other = config.value other := by
  refine (accepts_readElements_step index field fields config hnext).congr fun text config' rest => ?_
  constructor
  · rintro ⟨more, mid, next, hopens, ⟨start, value, hskip, hvalue, hmid⟩, hitems, hothers⟩
    have hfieldValue : config'.value field = value := by rw [hothers field hfield, hmid, Function.update_self]
    refine ⟨⟨more, start, next, hopens, hskip, hfieldValue.symm ▸ hvalue, hitems⟩, fun other hother => ?_⟩
    rw [List.mem_cons, not_or] at hother
    rw [hothers other hother.2, hmid, Function.update_of_ne hother.1]
  · rintro ⟨⟨more, start, next, hopens, hskip, hvalue, hitems⟩, hothers⟩
    refine ⟨more, config.withField config' field, next, hopens, ⟨start, _, hskip, hvalue, value_withField ..⟩, hitems,
      fun other hother => ?_⟩
    rw [value_withField]
    by_cases hne : other = field
    · rw [hne, Function.update_self]
    · rw [Function.update_of_ne hne]
      exact hothers other (by simp [hne, hother])

theorem accepts_items {fields : List Field} (hfields : fields.Nodup) (index : Nat) (config : Config) :
    Accepts (readElements (index + 1) fields config >>= finish ']' closeList) (FillsInOrder fields config) := by
  induction fields generalizing index config with
  | nil =>
    rw [readElements, pure_bind]
    refine (accepts_finish_ok accepts_closeList config).congr fun text config' rest => ?_
    constructor
    · rintro ⟨rfl, hclose⟩
      exact ⟨.close hclose, fun _ _ => rfl⟩
    · rintro ⟨hitems, hvalue⟩
      cases hitems with
      | close hclose => exact ⟨value_injective (funext fun field => hvalue field List.not_mem_nil), hclose⟩
  | cons field fields ih =>
    obtain ⟨hfield, hfields⟩ := List.nodup_cons.1 hfields
    refine (accepts_readElements_cons (index + 1) hfield config fun mid =>
      ih hfields (index + 1) mid).congr fun text config' rest => and_congr_left fun _ => ?_
    constructor
    · rintro ⟨more, start, next, hopens, hskip, hvalue, hitems⟩
      exact .comma hopens hskip hvalue hitems
    · intro hitems
      cases hitems with
      | comma hcomma hstart hvalue hnext => exact ⟨_, _, _, hcomma, hstart, hvalue, hnext⟩

/-- A list, its opening bracket passed. -/
theorem accepts_list : Accepts (readElements 0 Field.all {} >>= finish ']' closeList) fun text config rest =>
    Value ('[' :: text) (.array (Field.all.map config.value)) rest := by
  have hall : Field.all.Nodup := by decide
  obtain ⟨hfirst, hothers⟩ := List.nodup_cons.1 hall
  refine (accepts_readElements_cons 0 hfirst {} (accepts_items hothers 0)).congr fun text config rest => ?_
  constructor
  · rintro ⟨⟨_, start, next, rfl, hstart, hvalue, hitems⟩, -⟩
    exact .array hstart hvalue hitems
  · intro harray
    obtain ⟨_, ⟨⟩, ⟨⟨⟩, -⟩ | ⟨value, others, start, next, hvalues, hstart, hvalue, hitems⟩⟩ :=
      Json.value_array_iff.1 harray
    obtain ⟨rfl, rfl⟩ := List.cons.inj hvalues
    exact ⟨⟨_, start, next, rfl, hstart, hvalue, hitems⟩, fun other hother => absurd other.mem_all hother⟩

/-! ### Whole texts -/

/-- The value describes the configuration: an object has different keys, all of them names of fields, and gives the
values of some of the fields; an array gives the values of all fields in order. -/
def Describes : Json → Config → Prop
  | .object entries, config =>
    (entries.map Prod.fst).Nodup ∧ (∀ entry ∈ entries, entry.1 ∈ fieldNames) ∧
      ∀ field : Field, config.value field = (entries.lookup field.name).getD .null
  | .array values, config => values = Field.all.map config.value
  | _, _ => False

theorem mem_fieldNames_iff {name : String} : name ∈ fieldNames ↔ ∃ field ∈ Field.all, name = field.name := by
  have hnames : fieldNames = Field.all.map Field.name := rfl
  rw [hnames, List.mem_map]
  grind

theorem describes_object_iff {entries : List (String × Json)} {config : Config} :
    Describes (.object entries) config ↔ Fills Field.all {} entries config := by
  have hempty : ∀ field, ({} : Config).value field = .null := by
    intro field
    cases field <;> rfl
  simp only [Describes, mem_fieldNames_iff]
  constructor
  · rintro ⟨hnodup, hknown, hvalue⟩
    exact ⟨hnodup, hknown, fun field => by rw [hvalue, hempty]⟩
  · rintro ⟨hnodup, hknown, hvalue⟩
    exact ⟨hnodup, hknown, fun field => by rw [hvalue, hempty]⟩

theorem accepts_readConfig : Accepts readConfig fun text config rest =>
    ∃ start value, Skips text start ∧ Value start value rest ∧ Describes value config := by
  refine (accepts_token (T := fun c text config rest =>
    c = '[' ∧ Value ('[' :: text.tail) (.array (Field.all.map config.value)) rest ∨
    c = '{' ∧ ∃ entries, Value ('{' :: text.tail) (.object entries) rest ∧ Fills Field.all {} entries config)
      (refuses_refuseNext _) fun c => ?_).congr fun text config rest => ?_
  · split
    · exact (refuses_refuseNext _).accepts.congr (by simp_all)
    · next h =>
      cases h
      exact (accepts_pass.bind fun _ => accepts_list).congr (by simp)
    · next h =>
      cases h
      exact (accepts_pass.bind fun _ => accepts_object).congr (by simp)
    · exact (refuses_refuseType _).accepts.congr (by simp_all)
  · constructor
    · rintro ⟨c, more, -, hskip, ⟨rfl, hvalue⟩ | ⟨rfl, entries, hvalue, hfills⟩⟩
      · exact ⟨_, _, hskip, hvalue, rfl⟩
      · exact ⟨_, _, hskip, hvalue, describes_object_iff.2 hfills⟩
    · rintro ⟨start, value, hskip, hvalue, hdescribes⟩
      cases value with
      | array values =>
        obtain rfl : values = Field.all.map config.value := hdescribes
        obtain ⟨inner, rfl, -⟩ := Json.value_array_iff.1 hvalue
        exact ⟨'[', inner, by decide, hskip, .inl ⟨rfl, hvalue⟩⟩
      | object entries =>
        obtain ⟨inner, rfl, -⟩ := Json.value_object_iff.1 hvalue
        exact ⟨'{', inner, by decide, hskip, .inr ⟨rfl, entries, hvalue, describes_object_iff.1 hdescribes⟩⟩
      | null | boolean | number | string => exact hdescribes.elim

theorem accepts_readText : Accepts readText fun text config rest =>
    rest = [] ∧ ∃ value, Document text value ∧ Describes value config := by
  refine (accepts_readConfig.bind (T := fun config text config' rest => config' = config ∧ rest = [] ∧ Skips text [])
    fun config => ?_).congr fun text config rest => ?_
  · refine (accepts_peekToken.bind (T := fun c text config' rest => c = none ∧ config' = config ∧ rest = text)
      fun c => ?_).congr fun text config' rest => ?_
    · split
      · exact (accepts_pure _).congr (by simp)
      · exact (refuses_refuseNext _).accepts.congr (by simp)
    · constructor
      · rintro ⟨_, rest, ⟨hskip, -, rfl⟩, hnone, rfl, rfl⟩
        obtain rfl := List.head?_eq_none_iff.1 hnone
        exact ⟨rfl, rfl, hskip⟩
      · rintro ⟨rfl, rfl, hskip⟩
        exact ⟨none, [], ⟨hskip, Json.solid_nil, rfl⟩, rfl, rfl, rfl⟩
  · constructor
    · rintro ⟨_, stop, ⟨start, value, hskip, hvalue, hdescribes⟩, rfl, rfl, hstop⟩
      exact ⟨rfl, value, .mk hskip hvalue hstop, hdescribes⟩
    · rintro ⟨rfl, value, ⟨hskip, hvalue, hstop⟩, hdescribes⟩
      exact ⟨config, _, ⟨_, value, hskip, hvalue, hdescribes⟩, rfl, rfl, hstop⟩

/-- A text is read as a configuration exactly if it is the text of a value that describes the configuration. -/
theorem ofJson_eq_ok_iff {text : String} {config : Config} :
    ofJson text = .ok config ↔ ∃ value, Document text.toList value ∧ Describes value config := by
  have hread : ofJson text = .ok config ↔ ∃ rest stop, readText ⟨text.toList, 0⟩ = .ok (config, ⟨rest, stop⟩) := by
    unfold ofJson
    cases h : readText ⟨text.toList, 0⟩ with
    | error error => simp
    | ok result =>
      obtain ⟨found, rest, stop⟩ := result
      simp
  rw [hread]
  simp only [accepts_readText _ _ _ _, exists_eq_left]

/-- The values that may stand in a field: null, a string in the first four, a truth value in the last. -/
def Field.Admits : Field → Json → Prop
  | sourceMap, value => ∃ b : Option Bool, value = optional .boolean b
  | _, value => ∃ s : Option String, value = optional .string s

/-- The values that configurations are written as. -/
def Fits : Json → Prop
  | .object entries =>
    (entries.map Prod.fst).Nodup ∧ ∀ entry ∈ entries, ∃ field : Field, entry.1 = field.name ∧ field.Admits entry.2
  | .array values => List.Forall₂ Field.Admits Field.all values
  | _ => False

theorem admits_null (field : Field) : field.Admits .null := by cases field <;> exact ⟨none, rfl⟩

theorem admits_value (config : Config) (field : Field) : field.Admits (config.value field) := by
  cases field <;> exact ⟨_, rfl⟩

/-- Admitted values for all fields are a configuration. -/
theorem exists_value_eq {values : Field → Json} (h : ∀ field, Field.Admits field (values field)) :
    ∃ config : Config, config.value = values := by
  obtain ⟨object, hobject⟩ := h .object
  obtain ⟨component, hcomponent⟩ := h .component
  obtain ⟨literal, hliteral⟩ := h .literal
  obtain ⟨filename, hfilename⟩ := h .filename
  obtain ⟨sourceMap, hsourceMap⟩ := h .sourceMap
  refine ⟨⟨object, component, literal, filename, sourceMap⟩, funext fun field => ?_⟩
  cases field with
  | object => exact hobject.symm
  | component => exact hcomponent.symm
  | literal => exact hliteral.symm
  | filename => exact hfilename.symm
  | sourceMap => exact hsourceMap.symm

theorem lookup_eq_some_of_mem {entries : List (String × Json)} (hnodup : (entries.map Prod.fst).Nodup)
    {entry : String × Json} (h : entry ∈ entries) : entries.lookup entry.1 = some entry.2 := by
  obtain ⟨before, after, rfl⟩ := List.append_of_mem h
  refine List.lookup_eq_some_iff.2 ⟨before, after, rfl, fun other hother => ?_⟩
  rw [List.map_append, List.map_cons] at hnodup
  have hne := (List.nodup_append.1 hnodup).2.2 other.1 (List.mem_map_of_mem hother) entry.1 List.mem_cons_self
  simpa using hne.symm

theorem exists_describes_iff {value : Json} : (∃ config, Describes value config) ↔ Fits value := by
  cases value with
  | null | boolean | number | string => simp [Describes, Fits]
  | array values =>
    constructor
    · rintro ⟨config, rfl⟩
      exact List.forall₂_map_right_iff.2 (List.forall₂_same.2 fun field _ => admits_value config field)
    · intro h
      obtain _ | ⟨⟨object, rfl⟩, _ | ⟨⟨component, rfl⟩, _ | ⟨⟨literal, rfl⟩, _ | ⟨⟨filename, rfl⟩,
        _ | ⟨⟨sourceMap, rfl⟩, _ | _⟩⟩⟩⟩⟩ := h
      exact ⟨⟨object, component, literal, filename, sourceMap⟩, rfl⟩
  | object entries =>
    constructor
    · rintro ⟨config, hnodup, hknown, hvalue⟩
      refine ⟨hnodup, fun entry hentry => ?_⟩
      obtain ⟨field, -, hname⟩ := mem_fieldNames_iff.1 (hknown entry hentry)
      refine ⟨field, hname, ?_⟩
      have hadmits := admits_value config field
      rwa [hvalue, ← hname, lookup_eq_some_of_mem hnodup hentry] at hadmits
    · rintro ⟨hnodup, hknown⟩
      obtain ⟨config, hconfig⟩ : ∃ config : Config,
          config.value = fun field => (entries.lookup field.name).getD .null := by
        refine exists_value_eq fun field => ?_
        cases hlookup : entries.lookup field.name with
        | none => exact admits_null field
        | some value =>
          obtain ⟨before, after, rfl, -⟩ := List.lookup_eq_some_iff.1 hlookup
          obtain ⟨other, hname, hadmits⟩ := hknown (field.name, value) (by simp)
          exact Field.name_injective hname ▸ hadmits
      refine ⟨config, hnodup, fun entry hentry => ?_, congrFun hconfig⟩
      obtain ⟨field, hname, -⟩ := hknown entry hentry
      exact mem_fieldNames_iff.2 ⟨field, field.mem_all, hname⟩

/-- Any order of fields that has all that are not null describes the configuration. -/
theorem describes_fields {config : Config} {fields : List Field} (hnodup : fields.Nodup)
    (hfields : ∀ field, config.value field ≠ .null → field ∈ fields) :
    Describes (.object (fields.map fun field => (field.name, config.value field))) config := by
  have hkeys : ((fields.map fun field => (field.name, config.value field)).map Prod.fst).Nodup := by
    rw [List.map_map]
    exact List.Nodup.map Field.name_injective hnodup
  refine ⟨hkeys, ?_, fun field => ?_⟩
  · simp only [List.mem_map]
    rintro _ ⟨field, -, rfl⟩
    exact mem_fieldNames_iff.2 ⟨field, field.mem_all, rfl⟩
  · by_cases hfield : field ∈ fields
    · have hlookup := lookup_eq_some_of_mem hkeys (List.mem_map_of_mem hfield)
      simp only at hlookup
      rw [hlookup]
      rfl
    · have hname : field.name ∉ (fields.map fun field => (field.name, config.value field)).map Prod.fst := by
        rw [List.map_map]
        exact mt (List.mem_map_of_injective Field.name_injective).1 hfield
      rw [lookup_eq_none hname]
      exact by_contra fun h => hfield (hfields field h)

/-- The format of configurations.  A text is read exactly if it is a JSON text of a value that fits, and gives the
configuration that the value describes.  So all orders of the fields, with or without those that are null, all ways to
write their strings and all white space give the same configuration; and a key that is unknown or comes twice is
refused. -/
theorem ofJson_reads_format (text : String) :
    ((∃ config, ofJson text = .ok config) ↔ ∃ value, Document text.toList value ∧ Fits value) ∧
    (∀ config, ofJson text = .ok config ↔ ∃ value, Document text.toList value ∧ Describes value config) ∧
    (∀ (config : Config) (fields : List Field), fields.Nodup →
      (∀ field, config.value field ≠ .null → field ∈ fields) →
      Document text.toList (.object (fields.map fun field => (field.name, config.value field))) →
      ofJson text = .ok config) ∧
    ∀ entries, Document text.toList (.object entries) →
      (¬ (entries.map Prod.fst).Nodup ∨ ∃ entry ∈ entries, entry.1 ∉ fieldNames) →
      ∃ error, ofJson text = .error error := by
  refine ⟨?_, fun _ => ofJson_eq_ok_iff, fun config fields hnodup hfields hdocument => ?_,
    fun entries hdocument hkeys => ?_⟩
  · simp only [ofJson_eq_ok_iff, ← exists_describes_iff]
    grind
  · exact ofJson_eq_ok_iff.2 ⟨_, hdocument, describes_fields hnodup hfields⟩
  · cases h : ofJson text with
    | error error => exact ⟨error, rfl⟩
    | ok config =>
      obtain ⟨value, hvalue, hdescribes⟩ := ofJson_eq_ok_iff.1 h
      obtain rfl := hvalue.unique hdocument
      obtain ⟨hnodup, hknown, -⟩ := hdescribes
      rcases hkeys with hkeys | ⟨entry, hentry, hunknown⟩
      · exact absurd hnodup hkeys
      · exact absurd (hknown entry hentry) hunknown

theorem ofJson_shuffled_and_repeated :
    ofJson " \x7b\"sourceMap\" :true,\n\"namespace\":\"\\u0048\",\"filename\":null\x7d" =
      .ok { object := some "H", sourceMap := some true } ∧
    ∃ error, ofJson "\x7b\"filename\":null,\"filename\":null\x7d" = .error error := by
  have hplain : ∀ field : Field, ∀ c ∈ field.name.toList, c ≠ '"' ∧ c ≠ '\\' ∧ 0x20 ≤ c.toNat := by
    intro field
    cases field <;> simp [Field.name]
  have hkey : ∀ (field : Field) (rest : List Char),
      Key ('"' :: (field.name.toList ++ '"' :: ':' :: rest)) field.name rest := fun field rest =>
    .mk .none (.of_plain (hplain field)) .none
  constructor
  · have hfields : ∀ field, ({ object := some "H", sourceMap := some true } : Config).value field ≠ .null →
        field ∈ [Field.sourceMap, .object, .filename] := by
      intro field h
      cases field <;> simp_all [value, optional]
    have hletter : ∀ rest, Characters ('\\' :: 'u' :: (['0', '0', '4', '8'] ++ '"' :: rest)) "H".toList rest := by
      intro rest
      have hnumeral : Text.Numeral 16 ['0', '0', '4', '8'] 'H'.toNat :=
        (Text.numeral_iff (by decide)).2 ⟨by decide, List.all_eq_true.1 (by decide), by decide⟩
      exact .next (.code (.mk rfl hnumeral)) .close
    refine (ofJson_reads_format _).2.2.1 _ [.sourceMap, .object, .filename] (by decide) hfields ?_
    have hsourceMap : ∀ rest,
        Key ('"' :: (Field.sourceMap.name.toList ++ '"' :: ' ' :: ':' :: rest)) "sourceMap" rest := fun rest =>
      .mk .none (.of_plain (hplain .sourceMap)) (.blank (by decide) .none)
    exact .mk (.blank (by decide) .none) (.object (hsourceMap _) .none (.boolean (b := true))
      (.comma .none (.mk (.blank (by decide) .none) (.of_plain (hplain .object)) .none) .none (.string (hletter _))
        (.comma .none (hkey .filename _) .none .null (.close .none)))) .none
  · refine (ofJson_reads_format _).2.2.2 [("filename", .null), ("filename", .null)] ?_ (.inl (by decide))
    exact .mk .none (.object (hkey .filename _) .none .null
      (.comma .none (hkey .filename _) .none .null (.close .none))) .none

end JsxLowering.Config
