import JsxLowering.Grammar.Basic
import JsxLowering.Proofs.Layout.Tokens
import JsxLowering.Proofs.Pieces

/-!
# Parsers that keep elements in order

A parser reads forward, and what it answers with is put together from what it has read.  It keeps elements in order if the
elements in its answer come in the order in which they were read.  That is followed through a parser step by step: what has
been read so far is a stack of chunks, the elements of each value that was read, the latest on top; a step takes chunks
from the stack for its answer and leaves the rest (`Reads`), and a whole parser leaves none (`Orderly`).  Both are classes,
so that what a parser does follows from what its steps do.

* `KeepsOrder` says what that means for a run.  Only runs without a noted fault count, since some faults are noted where
  parts come in the wrong order.
* `KeepsOrder.bind` is the step lemma and `KeepsOrder.loop` the one for loops.
-/

namespace JsxLowering.Grammar

/-! ### Elements in order -/

/-- Elements, each with whether children of it remain. -/
abbrev Elements := List (Span × Bool)

/-- The elements end one after the other, and at `stop` at the latest. -/
structure Laid (stop : Nat) (elements : Elements) : Prop where
  order : elements.Pairwise fun a b => a.1.stop < b.1.stop
  bound : ∀ e ∈ elements, e.1.stop ≤ stop

namespace Laid

variable {stop later : Nat} {first rest : Elements}

theorem sublist (h : Laid stop rest) (hsub : first.Sublist rest) : Laid stop first :=
  ⟨h.order.sublist hsub, fun e he => h.bound e (hsub.subset he)⟩

theorem mono (h : Laid stop first) (hle : stop ≤ later) : Laid later first :=
  ⟨h.order, fun e he => Nat.le_trans (h.bound e he) hle⟩

/-- An element that ends later than all others comes after them. -/
theorem concat (h : Laid stop first) {span : Span} (hlt : stop < span.stop) (filled : Bool) :
    Laid span.stop (first ++ [(span, filled)]) := by
  refine ⟨List.pairwise_append.2 ⟨h.order, List.pairwise_singleton _ _, ?_⟩, ?_⟩
  · intro e he last hlast
    obtain rfl := List.mem_singleton.1 hlast
    exact Nat.lt_of_le_of_lt (h.bound e he) hlt
  · intro e he
    rcases List.mem_append.1 he with he | he
    · exact Nat.le_of_lt (Nat.lt_of_le_of_lt (h.bound e he) hlt)
    · obtain rfl := List.mem_singleton.1 he
      exact Nat.le_refl _

end Laid

/-- Values that hold elements, or may. -/
class HasElements (α : Type) where
  /-- The elements in a value, in source post-order. -/
  elements : α → Elements

export HasElements (elements)

section

variable {α β : Type}

instance (priority := low) : HasElements α := ⟨fun _ => []⟩
instance : HasElements Tree := ⟨Tree.elements⟩
instance : HasElements Markup := ⟨Markup.elements⟩
instance : HasElements Attribute := ⟨Attribute.elements⟩
instance : HasElements AttributeValue := ⟨AttributeValue.elements⟩
instance : HasElements Child := ⟨Child.elements⟩
instance [HasElements α] : HasElements (List α) := ⟨List.flatMap elements⟩
instance [HasElements α] : HasElements (Option α) := ⟨fun a => elements a.toList⟩
instance [HasElements α] [HasElements β] : HasElements (α × β) := ⟨fun x => elements x.1 ++ elements x.2⟩
instance [HasElements α] [HasElements β] : HasElements (α ⊕ β) := ⟨Sum.elim elements elements⟩

@[simp] theorem elements_other {γ : Type} (c : γ) : elements c = [] := rfl

@[simp] theorem elements_nil [HasElements α] : elements ([] : List α) = [] := rfl

@[simp] theorem elements_cons [HasElements α] (a : α) (items : List α) :
    elements (a :: items) = elements a ++ elements items := rfl

@[simp] theorem elements_append [HasElements α] (first last : List α) :
    elements (first ++ last) = elements first ++ elements last :=
  List.flatMap_append

@[simp] theorem elements_singleton [HasElements α] (a : α) : elements [a] = elements a := List.append_nil _

@[simp] theorem elements_none [HasElements α] : elements (none : Option α) = [] := rfl

@[simp] theorem elements_some [HasElements α] (a : α) : elements (some a) = elements a :=
  List.append_nil _

@[simp] theorem elements_prod [HasElements α] [HasElements β] (a : α) (b : β) :
    elements (a, b) = elements a ++ elements b := rfl

end

/-- What a stack of chunks holds. -/
def gathered (acc : List Elements) : Elements := acc.reverse.flatten

@[simp] theorem gathered_nil : gathered [] = [] := rfl

@[simp] theorem gathered_cons (chunk : Elements) (acc : List Elements) :
    gathered (chunk :: acc) = gathered acc ++ chunk := by
  simp [gathered]

/-! ### Runs that keep the order -/

/-- A reader moved on from one place to another, where all faults that had been noted still are. -/
structure Forward (r r' : Reader) : Prop where
  sound : r'.Sound
  stop : r.lastStop ≤ r'.lastStop
  faults : r'.faults = [] → r.faults = []
  tokenFaults : r'.tokenFaults = [] → r.tokenFaults = []

theorem Forward.refl {r : Reader} (h : r.Sound) : Forward r r := ⟨h, Nat.le_refl _, id, id⟩

theorem Forward.trans {r r' r'' : Reader} (h : Forward r r') (h' : Forward r' r'') : Forward r r'' :=
  ⟨h'.sound, Nat.le_trans h.stop h'.stop, fun hfaults => h.faults (h'.faults hfaults),
    fun hfaults => h.tokenFaults (h'.tokenFaults hfaults)⟩

section

variable {α β σ : Type}

/-- Every run of the parser moves forward.  If what the chunks hold was laid out before, then what is left of them and the
answer are laid out after, behind anything that stands before. -/
structure KeepsOrder (hold : α → Elements) (acc : List Elements) (p : Parser α) (rest : List Elements) : Prop where
  run : ∀ {c : Conditions} {r : Reader} {a : α} {r' : Reader}, p c r = .ok (a, r') → r.Sound →
    Forward r r' ∧ (r'.faults = [] → ∀ before : Elements, Laid r.lastStop (before ++ gathered acc) →
      Laid r'.lastStop (before ++ (gathered rest ++ hold a)))

theorem bind_ok {p : Parser α} {f : α → Parser β} {c : Conditions} {r r'' : Reader} {b : β}
    (h : (p >>= f) c r = .ok (b, r'')) : ∃ a r', p c r = .ok (a, r') ∧ f a c r' = .ok (b, r'') := by
  simp only [bind, ReaderT.bind, StateT.bind, Except.bind] at h
  cases hp : p c r with
  | error failure => simp [hp] at h
  | ok result => exact ⟨result.1, result.2, rfl, by simpa [hp] using h⟩

theorem fails_fail (fault : Fault) (c : Conditions) (r : Reader) :
    ∃ failure, (fail fault : Parser α) c r = .error failure :=
  ⟨_, rfl⟩

theorem fails_unexpected (c : Conditions) (r : Reader) : ∃ failure, (unexpected : Parser α) c r = .error failure := by
  rw [unexpected]
  split <;> exact fails_fail _ _ _

namespace KeepsOrder

variable {hold : α → Elements} {hold' : β → Elements} {acc mid rest : List Elements}

theorem bind {p : Parser α} {f : α → Parser β} (hp : KeepsOrder hold acc p mid)
    (hf : ∀ a, KeepsOrder hold' (hold a :: mid) (f a) rest) : KeepsOrder hold' acc (p >>= f) rest := by
  refine ⟨fun {c r b r''} hrun hr => ?_⟩
  obtain ⟨a, r', hrun₁, hrun₂⟩ := bind_ok hrun
  obtain ⟨hforward₁, hlaid₁⟩ := hp.run hrun₁ hr
  obtain ⟨hforward₂, hlaid₂⟩ := (hf a).run hrun₂ hforward₁.sound
  refine ⟨hforward₁.trans hforward₂, fun hfaults before hbefore => hlaid₂ hfaults before ?_⟩
  rw [gathered_cons]
  exact hlaid₁ (hforward₂.faults hfaults) before hbefore

theorem pure {a : α} (h : (gathered rest ++ hold a).Sublist (gathered acc)) :
    KeepsOrder hold acc (pure a : Parser α) rest := by
  refine ⟨?_⟩
  rintro c r a' r' ⟨⟩ hr
  exact ⟨.refl hr, fun _ before hbefore => hbefore.sublist (h.append_left before)⟩

/-- A parser that always fails. -/
theorem of_fails {p : Parser α} (h : ∀ c r, ∃ failure, p c r = .error failure) : KeepsOrder hold acc p rest := by
  refine ⟨fun {c r a r'} hrun => ?_⟩
  obtain ⟨failure, hfailure⟩ := h c r
  simp [hfailure] at hrun

theorem under {p : Parser α} (h : KeepsOrder hold acc p rest) (change : Conditions → Conditions) :
    KeepsOrder hold acc (under change p) rest :=
  ⟨fun hrun hr => h.run hrun hr⟩

/-- What takes the chunks of one stack also takes them where they stand in another. -/
theorem within {taken : List Elements} {p : Parser α} (h : KeepsOrder hold taken p [])
    (hsub : (gathered rest ++ gathered taken).Sublist (gathered acc)) : KeepsOrder hold acc p rest := by
  refine ⟨fun {c r a r'} hrun hr => ?_⟩
  obtain ⟨hforward, hlaid⟩ := h.run hrun hr
  refine ⟨hforward, fun hfaults before hbefore => ?_⟩
  have hrest : Laid r.lastStop ((before ++ gathered rest) ++ gathered taken) := by
    rw [List.append_assoc]
    exact hbefore.sublist (hsub.append_left before)
  simpa using hlaid hfaults _ hrest

/-- A change of the reader that moves it forward. -/
theorem modify {change : Reader → Reader} (h : ∀ r, r.Sound → Forward r (change r)) :
    KeepsOrder (fun _ => []) acc (modify change : Parser Unit) acc := by
  refine ⟨?_⟩
  rintro c r a r' ⟨⟩ hr
  have hforward := h r hr
  refine ⟨hforward, fun _ before hbefore => ?_⟩
  simpa using hbefore.mono hforward.stop

/-- A loop keeps the order if each round does, for what its state holds. -/
theorem loop {state : σ → Elements} {step : σ → Parser (σ ⊕ α)}
    (h : ∀ s, KeepsOrder (Sum.elim state hold) [state s] (step s) []) (s : σ) :
    KeepsOrder hold [state s] (loop step s) [] := by
  have hrounds : ∀ fuel s, KeepsOrder hold [state s] (iterate step fuel s) [] := by
    intro fuel
    induction fuel with
    | zero => exact fun s => .of_fails fails_unexpected
    | succ fuel ih =>
      intro s
      rw [iterate]
      refine (h s).bind fun result => ?_
      cases result with
      | inl next => exact ih next
      | inr a => exact .pure (by simp)
  exact ⟨fun hrun hr => (hrounds _ s).run hrun hr⟩

end KeepsOrder

end

/-! ### Taking chunks -/

/-- A chunk is on the stack, and `rest` is what is below it. -/
class Takes (chunk : Elements) (acc : List Elements) (rest : outParam (List Elements)) : Prop where
  sublist : (gathered rest ++ chunk).Sublist (gathered acc)

section

variable {α β : Type} [HasElements α] [HasElements β] {acc mid rest : List Elements} {chunk : Elements}

theorem Takes.append {first last : Elements} (hlast : Takes last acc mid) (hfirst : Takes first mid rest) :
    Takes (first ++ last) acc rest :=
  ⟨by simpa using (hfirst.sublist.append_right last).trans hlast.sublist⟩

instance : Takes chunk (chunk :: acc) acc := ⟨by simp⟩

instance (priority := low) {other : Elements} [h : Takes chunk acc rest] : Takes chunk (other :: acc) rest :=
  ⟨by simpa using h.sublist.trans (List.sublist_append_left _ other)⟩

theorem Takes.of_sublist {part : Elements} (h : Takes chunk acc rest) (hpart : part.Sublist chunk) :
    Takes part acc rest :=
  ⟨(hpart.append_left _).trans h.sublist⟩

theorem Takes.none (h : chunk = []) : Takes chunk acc acc := ⟨by simp [h]⟩

instance {γ : Type} {a : γ} : Takes (elements a) acc acc := .none rfl

instance : Takes (elements ([] : List α)) acc acc := .none rfl

instance {a : α} {items : List α} [hitems : Takes (elements items) acc mid] [ha : Takes (elements a) mid rest] :
    Takes (elements (a :: items)) acc rest :=
  hitems.append ha

instance {first last : List α} [hlast : Takes (elements last) acc mid] [hfirst : Takes (elements first) mid rest] :
    Takes (elements (first ++ last)) acc rest := by
  rw [elements_append]
  exact hlast.append hfirst

instance {words : List String} : Takes (elements words) acc acc := .none (by
  induction words with
  | nil => rfl
  | cons word words ih => simpa using ih)

instance : Takes (elements (none : Option α)) acc acc := .none rfl

instance {a : α} [h : Takes (elements a) acc rest] : Takes (elements (some a)) acc rest := by
  rwa [elements_some]

instance {a : α} {b : β} [hb : Takes (elements b) acc mid] [ha : Takes (elements a) mid rest] :
    Takes (elements (a, b)) acc rest :=
  hb.append ha

instance {a : α} [h : Takes (elements a) acc rest] : Takes (elements (.inl a : α ⊕ β)) acc rest := h

instance {b : β} [h : Takes (elements b) acc rest] : Takes (elements (.inr b : α ⊕ β)) acc rest := h

instance {condition : Prop} [Decidable condition] {a b : α} [ha : Takes (elements a) acc rest]
    [hb : Takes (elements b) acc rest] : Takes (elements (if condition then a else b)) acc rest := by
  split
  · exact ha
  · exact hb

@[simp] theorem elements_node (form : Form) (span : Span) (parts : List Tree) :
    elements (Tree.node form span parts) = elements parts :=
  partsElements_eq_flatMap parts

@[simp] theorem elements_absent : elements Tree.absent = [] := elements_node _ _ _

instance {form : Form} {span : Span} {parts : List Tree} [h : Takes (elements parts) acc rest] :
    Takes (elements (Tree.node form span parts)) acc rest := by
  rwa [elements_node]

instance : Takes (elements Tree.absent) acc acc := .none elements_absent

instance {found : Option Tree} [h : Takes (elements found) acc rest] :
    Takes (elements (found.getD Tree.absent)) acc rest := by
  cases found with
  | none => exact ⟨by simpa using h.sublist⟩
  | some tree => exact ⟨by simpa using h.sublist⟩

instance {m : Markup} [h : Takes (elements m) acc rest] : Takes (elements (Tree.markup m)) acc rest := h

end

/-! ### Orderly parsers -/

section

variable {α β γ σ : Type} [HasElements α] [HasElements β] [HasElements γ] {acc mid rest : List Elements}

/-- The parser keeps elements in order, those of the given chunks and those that it reads. -/
class Orderly (acc : List Elements) (p : Parser α) : Prop where
  keeps : KeepsOrder elements acc p []

/-- The parser keeps elements in order and leaves `rest` of the given chunks. -/
class Reads (acc : List Elements) (p : Parser α) (rest : outParam (List Elements)) : Prop where
  keeps : KeepsOrder elements acc p rest

/-- A parser that is orderly on its own is so after anything. -/
theorem Reads.alone {p : Parser α} (h : Orderly [] p) : Reads acc p acc :=
  ⟨h.keeps.within (by simp)⟩

/-- A parser that is orderly after a value is so wherever that value can be taken. -/
theorem Reads.after (a : β) {p : Parser α} (h : Orderly [elements a] p) [ha : Takes (elements a) acc rest] :
    Reads acc p rest :=
  ⟨h.keeps.within (by simpa using ha.sublist)⟩

/-- The same for two values, of which `b` was read last. -/
theorem Reads.after₂ (a : β) (b : γ) {p : Parser α} (h : Orderly [elements b, elements a] p)
    [hb : Takes (elements b) acc mid] [ha : Takes (elements a) mid rest] : Reads acc p rest :=
  ⟨h.keeps.within (by simpa using (hb.append ha).sublist)⟩

theorem Orderly.drop {p : Parser α} (h : Orderly acc p) {chunk : Elements} : Orderly (chunk :: acc) p :=
  ⟨h.keeps.within (by simp)⟩

instance (priority := low) {p : Parser α} [h : Reads acc p rest] : Orderly acc p := by
  refine ⟨⟨fun hrun hr => ?_⟩⟩
  obtain ⟨hforward, hlaid⟩ := h.keeps.run hrun hr
  refine ⟨hforward, fun hfaults before hbefore => (hlaid hfaults before hbefore).sublist ?_⟩
  simp

theorem Orderly.bind {p : Parser α} {f : α → Parser β} [hp : Reads acc p mid]
    (hf : ∀ a, Orderly (elements a :: mid) (f a)) : Orderly acc (p >>= f) :=
  ⟨hp.keeps.bind fun a => (hf a).keeps⟩

instance {p : Parser α} {f : α → Parser β} [Reads acc p mid] [hf : ∀ a, Orderly (elements a :: mid) (f a)] :
    Orderly acc (p >>= f) :=
  .bind hf

/-- The elements of a pair were read one part after the other. -/
theorem Orderly.pair {a : α} {b : β} {p : Parser γ} (h : Orderly (elements b :: elements a :: acc) p) :
    Orderly (elements (a, b) :: acc) p :=
  ⟨h.keeps.within (by simp)⟩

theorem Orderly.bindPair {p : Parser (α × β)} {f : α × β → Parser γ} [Reads acc p mid]
    (hf : ∀ a b, Orderly (elements b :: elements a :: mid) (f (a, b))) : Orderly acc (p >>= f) :=
  .bind fun (a, b) => .pair (hf a b)

theorem Orderly.bindOption {p : Parser (Option α)} {f : Option α → Parser β} [Reads acc p mid]
    (hnone : Orderly mid (f none)) (hsome : ∀ a, Orderly (elements a :: mid) (f (some a))) : Orderly acc (p >>= f) := by
  refine .bind fun found => ?_
  cases found with
  | none => exact hnone.drop
  | some a => exact ⟨(hsome a).keeps.within (by simp)⟩

instance {p : Parser (α × β)} {f : α × β → Parser γ} [Reads acc p mid]
    [hf : ∀ a b, Orderly (elements b :: elements a :: mid) (f (a, b))] : Orderly acc (p >>= f) :=
  .bindPair hf

instance {a : α} [h : Takes (elements a) acc rest] : Reads acc (pure a : Parser α) rest := ⟨.pure h.sublist⟩

instance {condition : Prop} [Decidable condition] {p q : Parser α} [hp : Orderly acc p] [hq : Orderly acc q] :
    Orderly acc (if condition then p else q) := by
  split
  · exact hp
  · exact hq

end

end JsxLowering.Grammar
