/-
  This file defines the exact value of a binary number: its
  sign, an integer, and the power of two that scales it.
  Everything that reads or writes decimals starts from here,
  so that it is exact arithmetic on naturals.

  Key definitions include:
    * `Binary`
    * `Binary.FitsWord`
    * `Binary.overflow`
    * `Binary.ofFloat`
    * `Binary.ratio`
    * `Binary.toInt?`
    * `Binary.ceil?`
-/

------------------------------------------------------------
-- Powers
------------------------------------------------------------

namespace TraceMining

namespace Binary

/- A power of two. -/
def twoTo
    (k : Nat) : Nat :=
  Nat.pow 2 k

/- A power of ten. -/
def tenTo
    (k : Nat) : Nat :=
  Nat.pow 10 k

/- The mantissas of normal numbers start here. -/
def hiddenBit : Nat :=
  twoTo 52

/- An integer fits into a signed word of 64 bits. -/
def FitsWord
    (n : Int) : Prop :=
  -Int.ofNat (twoTo 63) ≤ n ∧ n < Int.ofNat (twoTo 63)

instance
    (n : Int) :
    Decidable (FitsWord n) := by
  unfold FitsWord
  infer_instance

/- Magnitudes from here on round beyond all finite numbers. -/
def overflow : Nat :=
  twoTo 1024 - twoTo 970

end Binary

end TraceMining

------------------------------------------------------------
-- Decoding
------------------------------------------------------------

namespace TraceMining

/-
  What a binary number of 64 bits stands for.  A finite one
  is `mantissa * 2 ^ exponent`, negated if `negative`.
-/
inductive Binary where
  | finite
      (negative : Bool)
      (mantissa : Nat)
      (exponent : Int)
  | infinite
      (negative : Bool)
  | undefined
  deriving DecidableEq, Repr

namespace Binary

/- The least exponent, that of the subnormal numbers. -/
def leastExponent : Int := -1074

/- Take the bits of a number apart. -/
def ofFloat
    (x : Float) : Binary :=
  let bits := x.toBits.toNat
  let negative := decide (twoTo 63 ≤ bits)
  let exponent := bits / hiddenBit % twoTo 11
  let fraction := bits % hiddenBit
  if exponent = 2047 then
    if fraction = 0 then .infinite negative else .undefined
  else if exponent = 0 then
    .finite negative fraction leastExponent
  else
    .finite negative (fraction + hiddenBit)
      (Int.ofNat exponent - 1075)

end Binary

end TraceMining

------------------------------------------------------------
-- Exact Values
------------------------------------------------------------

namespace TraceMining

namespace Binary

/- `n * 2 ^ e` as a quotient of naturals. -/
def ratio
    (n : Nat)
    (e : Int) : Nat × Nat :=
  (n * twoTo e.toNat, twoTo (-e).toNat)

/- The integer that a number equals, if it equals one. -/
def toInt? :
    Binary → Option Int
  | .finite negative m e =>
      let (num, den) := ratio m e
      if num % den = 0 then
        let n := Int.ofNat (num / den)
        some (if negative then -n else n)
      else none
  | _ => none

/- The least integer that is not below a finite number. -/
def ceil? :
    Binary → Option Int
  | .finite negative m e =>
      let (num, den) := ratio m e
      some
        (if negative then -Int.ofNat (num / den)
         else Int.ofNat ((num + den - 1) / den))
  | _ => none

end Binary

end TraceMining
