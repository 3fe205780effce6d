/-!
# Spans

A span is a half-open stretch of byte offsets into a source text.
-/

namespace ConfigScope

structure Span where
  start : Nat
  stop : Nat
  start_le_stop : start ≤ stop := by omega
  deriving DecidableEq

namespace Span

/-- The span between two offsets, if they come in order. -/
def between? (start stop : Nat) : Option Span :=
  if h : start ≤ stop then some ⟨start, stop, h⟩ else none

instance : Inhabited Span where
  default := ⟨0, 0, Nat.le_refl 0⟩

end Span

end ConfigScope
