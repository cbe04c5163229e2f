/-!
# Spans

A span is a stretch of source text, from the byte offset where it starts to the one just after its end.
-/

namespace JsxLowering

/-- A stretch of source text, as UTF-8 byte offsets. -/
structure Span where
  start : Nat
  stop : Nat
  deriving DecidableEq, Repr, Inhabited

namespace Span

/-- Whether the span covers no text. -/
def isEmpty (s : Span) : Bool := s.stop ≤ s.start

/-- The span from the start of one span to the end of another. -/
def through (a b : Span) : Span := ⟨a.start, b.stop⟩

/-- `s` lies inside `t`. -/
def Inside (s t : Span) : Prop := t.start ≤ s.start ∧ s.stop ≤ t.stop

instance (s t : Span) : Decidable (s.Inside t) := by unfold Inside; infer_instance

theorem Inside.refl (s : Span) : s.Inside s := ⟨Nat.le_refl _, Nat.le_refl _⟩

theorem Inside.trans {s t u : Span} (h : s.Inside t) (k : t.Inside u) : s.Inside u :=
  ⟨Nat.le_trans k.1 h.1, Nat.le_trans h.2 k.2⟩

/-- How messages show a span. -/
def describe (s : Span) : String :=
  "Span \x7b start: " ++ toString s.start ++ ", end: " ++ toString s.stop ++ " \x7d"

end Span

end JsxLowering
