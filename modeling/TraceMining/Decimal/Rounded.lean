import TraceMining.Decimal.Binary

/-
  This file defines rounding to a number of decimal places.
  The exact value is rounded, a half going to the even
  neighbour, and the result is the nearest binary number to
  the decimal so obtained.

  Key definitions include:
    * `Decimal.nearest`
    * `Decimal.rounded`
-/

------------------------------------------------------------
-- Nearest Integer
------------------------------------------------------------

namespace TraceMining

namespace Decimal

/- The nearest integer to a quotient, ties to even. -/
def nearest
    (num : Nat)
    (den : Nat) : Nat :=
  let q := num / den
  let r := num % den
  if 2 * r < den then q
  else if den < 2 * r then q + 1
  else q + q % 2

end Decimal

end TraceMining

------------------------------------------------------------
-- Rounding
------------------------------------------------------------

namespace TraceMining

namespace Decimal

/- A number rounded to decimal places; the sign stays. -/
def rounded
    (places : Nat)
    (x : Float) : Float :=
  match Binary.ofFloat x with
  | .finite negative m e =>
      let (num, den) := Binary.ratio m e
      let n := nearest (num * Binary.tenTo places) den
      let y := Float.ofScientific n true places
      if negative then -y else y
  | _ => x

end Decimal

end TraceMining
