/-!
# Values held once

A value that is used in many places is held once in memory. `sharedEq` is
equality, settled at once for two uses of one value.
-/

namespace ConfigScope

@[inline] def sharedEq {α : Type} [DecidableEq α] (a b : α) : Bool :=
  withPtrEq a b (fun _ => a == b) fun h => beq_iff_eq.mpr h

@[simp] theorem sharedEq_eq_beq {α : Type} [DecidableEq α] (a b : α) :
    sharedEq a b = (a == b) := rfl

end ConfigScope
