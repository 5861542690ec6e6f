/-
  This file defines spans of code points, the form in which
  the character classes of this library are tabled.

  Key definitions include:
    * `Span`
    * `Span.Has`
    * `Span.anyHas`
-/

------------------------------------------------------------
-- Spans
------------------------------------------------------------

namespace TraceMining

/- The code points from `first` to `last`, both included. -/
structure Span where
  first : Nat
  last : Nat
  deriving DecidableEq, Repr

namespace Span

/- A character lies in a span when its code point does. -/
def Has
    (s : Span)
    (c : Char) : Prop :=
  s.first ≤ c.toNat ∧ c.toNat ≤ s.last

instance
    (s : Span)
    (c : Char) :
    Decidable (s.Has c) := by
  unfold Has
  infer_instance

/- Membership in a class given by its spans. -/
def anyHas
    (table : List Span)
    (c : Char) : Bool :=
  table.any fun s => decide (s.Has c)

/-
  A character is in the class exactly when some span of the
  table has it.
-/
theorem anyHas_iff
    (table : List Span)
    (c : Char) :
    anyHas table c = true ↔
      ∃ s ∈ table, s.Has c := by
  simp [anyHas]

end Span

end TraceMining
