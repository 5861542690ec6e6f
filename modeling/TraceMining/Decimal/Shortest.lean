import TraceMining.Decimal.Binary

/-
  This file defines the shortest decimal that reads back as a
  binary number.  The numbers that round to it form an
  interval; grids of one digit, two digits, and so on are
  tried until one has a point in the interval, and of two
  points the nearer is taken, on a tie the even one.

  Key definitions include:
    * `Decimal.Interval`
    * `Decimal.magnitude`
    * `Decimal.onGrid`
    * `Decimal.shortest`
-/

------------------------------------------------------------
-- Rounding Interval
------------------------------------------------------------

namespace TraceMining

namespace Decimal

/-
  The numbers that read back as one binary number, all over
  one denominator; `closed` says whether the ends belong.
-/
structure Interval where
  low : Nat
  mid : Nat
  high : Nat
  den : Nat
  closed : Bool

/-
  The interval around `m * 2 ^ e`, in quarters of a unit of
  `m`.  Below a power of two the neighbour is nearer by half.
-/
def Interval.around
    (m : Nat)
    (e : Int) : Interval :=
  let below :=
    if m = Binary.hiddenBit ∧ Binary.leastExponent < e then 1
    else 2
  let (scale, den) := Binary.ratio 1 (e - 2)
  { low := (4 * m - below) * scale
    mid := 4 * m * scale
    high := (4 * m + 2) * scale
    den := den
    closed := m % 2 == 0 }

/- The point `num / den` lies in the interval. -/
def Interval.has
    (i : Interval)
    (num : Nat)
    (den : Nat) : Bool :=
  if i.closed then
    i.low * den ≤ num * i.den && num * i.den ≤ i.high * den
  else
    i.low * den < num * i.den && num * i.den < i.high * den

end Decimal

end TraceMining

------------------------------------------------------------
-- Grids
------------------------------------------------------------

namespace TraceMining

namespace Decimal

/- The least `p` such that `num / den` is below `10 ^ p`. -/
def magnitude
    (num : Nat)
    (den : Nat) : Int :=
  if den ≤ num then
    Int.ofNat (Nat.toDigits 10 (num / den)).length
  else
    1 - Int.ofNat (Nat.toDigits 10 ((den - 1) / num)).length

/-
  The multiple of `10 ^ k` that stands for the interval, if
  one of the two around its middle lies in it.
-/
def onGrid
    (i : Interval)
    (k : Int) : Option Nat :=
  let up := Binary.tenTo (-k).toNat
  let down := Binary.tenTo k.toNat
  let num := i.mid * up
  let den := i.den * down
  let d := num / den
  match i.has (d * down) up, i.has ((d + 1) * down) up with
  | false, false => none
  | true, false => some d
  | false, true => some (d + 1)
  | true, true =>
      let twice := 2 * num
      let middle := (2 * d + 1) * den
      if twice < middle then some d
      else if middle < twice then some (d + 1)
      else some (d + d % 2)

/-
  Digits and the place of the point before them: the value is
  the digits read as a fraction, times ten to `point`.
-/
structure Digits where
  digits : List Char
  point : Int
  deriving DecidableEq, Repr

/- Write `d * 10 ^ k` without trailing zeros. -/
def Digits.ofMultiple
    (d : Nat)
    (k : Int) : Digits :=
  let ds := Nat.toDigits 10 d
  { digits := (ds.reverse.dropWhile (· == '0')).reverse
    point := Int.ofNat ds.length + k }

/- The shortest digits for `m * 2 ^ e`, where `m` is not 0. -/
def shortest
    (m : Nat)
    (e : Int) : Digits :=
  let i := Interval.around m e
  let p := magnitude i.mid i.den
  let found := (List.range 17).findSome? fun n =>
    let k := p - Int.ofNat (n + 1)
    (onGrid i k).map fun d => Digits.ofMultiple d k
  found.getD (Digits.ofMultiple (i.mid / i.den) 0)

end Decimal

end TraceMining
