import TraceMining.Decimal.Shortest

/-
  This file defines how decimals are laid out as text: which
  magnitudes are written positionally, what an exponent looks
  like, and the texts of the numbers that have no digits.

  Key definitions include:
    * `Decimal.Layout`
    * `Decimal.Layout.write`
    * `Decimal.number`
-/

------------------------------------------------------------
-- Layout
------------------------------------------------------------

namespace TraceMining

namespace Decimal

/-
  Leading digits between ten to `least` and ten to `most` are
  written positionally, all others with an exponent of at
  least `width` digits.
-/
structure Layout where
  least : Int
  most : Int
  width : Nat
  infinity : String
  undefined : String

namespace Layout

/- Digits with the point at its place. -/
def positional
    (d : Digits) : List Char :=
  let n := d.point.toNat
  if d.point ≤ 0 then
    '0' :: '.' ::
      (List.replicate (-d.point).toNat '0' ++ d.digits)
  else if d.digits.length ≤ n then
    d.digits ++ List.replicate (n - d.digits.length) '0' ++
      ['.', '0']
  else
    d.digits.take n ++ '.' :: d.digits.drop n

/- Digits with an exponent. -/
def scientific
    (l : Layout)
    (d : Digits) : List Char :=
  let e := d.point - 1
  let size := Nat.toDigits 10 e.natAbs
  let fill := List.replicate (l.width - size.length) '0'
  let sign := if e < 0 then '-' else '+'
  let lead :=
    match d.digits with
    | [] => ['0']
    | [c] => [c]
    | c :: cs => c :: '.' :: cs
  lead ++ 'e' :: sign :: (fill ++ size)

/- Digits of a number that is not zero. -/
def digits
    (l : Layout)
    (d : Digits) : List Char :=
  let e := d.point - 1
  if l.least ≤ e ∧ e ≤ l.most then positional d
  else l.scientific d

/- A number as text. -/
def write
    (l : Layout)
    (x : Float) : String :=
  let signed (negative : Bool) (s : String) : String :=
    if negative then "-" ++ s else s
  match Binary.ofFloat x with
  | .finite negative m e =>
      signed negative
        (if m = 0 then "0.0"
         else String.ofList (l.digits (shortest m e)))
  | .infinite negative => signed negative l.infinity
  | .undefined => l.undefined

end Layout

end Decimal

end TraceMining

------------------------------------------------------------
-- Layouts In Use
------------------------------------------------------------

namespace TraceMining

namespace Decimal

/-
  Numbers in messages and answers: positional from 0.0001 up
  to sixteen whole digits, and never without a point.
-/
def number : Layout :=
  { least := -4
    most := 15
    width := 2
    infinity := "inf"
    undefined := "nan" }

/- The same in documents, which spell infinity out. -/
def documented : Layout :=
  { number with
    infinity := "Infinity"
    undefined := "NaN" }

end Decimal

end TraceMining
