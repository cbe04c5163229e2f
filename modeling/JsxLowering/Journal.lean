import JsxLowering.Tree

/-!
# Journal

A pass over a program reports what it does: the spans of the component calls that have children, as hints for a
formatter, and a record of each step. `Reports` is what a computation needs to report. `Logged` is a value with what was
reported while it was computed.
-/

namespace JsxLowering

/-- A step of a pass. -/
inductive Record where
  /-- A source was parsed and is now transformed. -/
  | transforming (filename : String) (bytes : Nat)
  /-- An element is about to be lowered. -/
  | element (name : ElementName) (span : Span) (bound : Bool)
  /-- A fragment is about to be lowered. -/
  | fragment (span : Span)
  /-- Text with nothing in it was dropped. -/
  | droppedText (span : Span)
  /-- Markup was replaced by an expression. -/
  | replaced (result : Tree)

/-- Computations that report hints and steps. -/
class Reports (m : Type → Type) where
  /-- Reports a hint. -/
  hint : Span → m Unit
  /-- Reports a step. -/
  note : Record → m Unit

/-- A value, with the hints and records that its computation reported. -/
structure Logged (α : Type) where
  value : α
  hints : List Span
  records : List Record

namespace Logged

variable {α β : Type}

instance : Monad Logged where
  pure a := ⟨a, [], []⟩
  bind x f :=
    let y := f x.value
    ⟨y.value, x.hints ++ y.hints, x.records ++ y.records⟩

@[simp] theorem value_pure (a : α) : (pure a : Logged α).value = a := rfl

@[simp] theorem hints_pure (a : α) : (pure a : Logged α).hints = [] := rfl

@[simp] theorem records_pure (a : α) : (pure a : Logged α).records = [] := rfl

@[simp] theorem value_bind (x : Logged α) (f : α → Logged β) : (x >>= f).value = (f x.value).value := rfl

@[simp] theorem hints_bind (x : Logged α) (f : α → Logged β) :
    (x >>= f).hints = x.hints ++ (f x.value).hints := rfl

@[simp] theorem records_bind (x : Logged α) (f : α → Logged β) :
    (x >>= f).records = x.records ++ (f x.value).records := rfl

instance : Reports Logged where
  hint span := ⟨(), [span], []⟩
  note record := ⟨(), [], [record]⟩

@[simp] theorem hints_hint (span : Span) : (Reports.hint span : Logged Unit).hints = [span] := rfl

@[simp] theorem hints_note (record : Record) : (Reports.note record : Logged Unit).hints = [] := rfl

@[simp] theorem records_note (record : Record) : (Reports.note record : Logged Unit).records = [record] := rfl

end Logged

end JsxLowering
