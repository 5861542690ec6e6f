import TraceMining.Text.Blank
import TraceMining.Text.Search

/-
  This file defines numerals: the reading of decimal text.
  A numeral is taken apart into sign, whole digits, fraction
  and exponent; what each format allows is a condition on the
  parts.

  Key definitions include:
    * `Decimal.Numeral`
    * `Decimal.Numeral.scan`
    * `Decimal.Numeral.toFloat`
    * `Decimal.Numeral.front?`
    * `Decimal.ungrouped?`
    * `Decimal.readFloat`
-/

------------------------------------------------------------
-- Digits
------------------------------------------------------------

namespace TraceMining

namespace Decimal

/- The natural number that digits spell. -/
def ofDigits
    (cs : List Char) : Nat :=
  cs.foldl (fun n c => 10 * n + (c.toNat - 48)) 0

/- At least one character, all of them plain digits. -/
def isDigits
    (cs : List Char) : Bool :=
  !cs.isEmpty && cs.all Char.isDigit

/- Split a sign off; `true` stands for minus. -/
def signed :
    List Char → Option Bool × List Char
  | '-' :: cs => (some true, cs)
  | '+' :: cs => (some false, cs)
  | cs => (none, cs)

/-
  The number `n * 10 ^ e`, rounded to the nearest binary one.
  Magnitudes far outside the range of binary numbers need no
  power of ten to be computed.
-/
def scaled
    (n : Nat)
    (e : Int) : Float :=
  let point := Int.ofNat (Nat.toDigits 10 n).length + e
  if n = 0 ∨ point < -400 then 0
  else if 400 < point then 1 / 0
  else if e < 0 then Float.ofScientific n true (-e).toNat
  else Float.ofScientific n false e.toNat

end Decimal

end TraceMining

------------------------------------------------------------
-- Numerals
------------------------------------------------------------

namespace TraceMining

namespace Decimal

/- The parts of a numeral. -/
structure Numeral where
  sign : Option Bool
  whole : List Char
  fraction : Option (List Char)
  exponent : Option (Option Bool × List Char)

namespace Numeral

/- Take text apart; it has to be used up. -/
def scan
    (cs : List Char) : Option Numeral :=
  let (sign, cs) := signed cs
  let (whole, cs) := cs.span Char.isDigit
  let (fraction, cs) :=
    match cs with
    | '.' :: rest =>
        let (f, rest) := rest.span Char.isDigit
        (some f, rest)
    | _ => (none, cs)
  match cs with
  | [] => some ⟨sign, whole, fraction, none⟩
  | c :: rest =>
      let (esign, digits) := signed rest
      if (c = 'e' ∨ c = 'E') ∧ isDigits digits then
        some ⟨sign, whole, fraction, some (esign, digits)⟩
      else none

/- Digits stand on at least one side of the point. -/
def HasDigits
    (n : Numeral) : Prop :=
  n.whole ≠ [] ∨ n.fraction.getD [] ≠ []

instance
    (n : Numeral) :
    Decidable n.HasDigits := by
  unfold HasDigits
  infer_instance

/- Neither a point nor an exponent. -/
def isWhole
    (n : Numeral) : Bool :=
  n.fraction.isNone && n.exponent.isNone

/- The integer that the whole digits spell. -/
def toInt
    (n : Numeral) : Int :=
  let k := Int.ofNat (ofDigits n.whole)
  if n.sign = some true then -k else k

/- The nearest binary number. -/
def toFloat
    (n : Numeral) : Float :=
  let fraction := n.fraction.getD []
  let e : Int :=
    match n.exponent with
    | none => 0
    | some (sign, ds) =>
        let k := Int.ofNat (ofDigits ds)
        if sign = some true then -k else k
  let x :=
    scaled (ofDigits (n.whole ++ fraction))
      (e - Int.ofNat fraction.length)
  if n.sign = some true then -x else x

end Numeral

end Decimal

end TraceMining

------------------------------------------------------------
-- Numerals In Documents
------------------------------------------------------------

namespace TraceMining

namespace Decimal

namespace Numeral

/- A point and digits at the front of text, and the rest. -/
def fractionPart
    (cs : List Char) : Option (List Char) × List Char :=
  match cs with
  | '.' :: tail =>
      let (digits, rest) := tail.span Char.isDigit
      if digits.isEmpty then (none, cs) else (some digits, rest)
  | _ => (none, cs)

/- An exponent at the front of text, and the rest. -/
def exponentPart
    (cs : List Char) :
    Option (Option Bool × List Char) × List Char :=
  match cs with
  | [] => (none, [])
  | c :: tail =>
      let (sign, tail) := signed tail
      let (digits, rest) := tail.span Char.isDigit
      if (c = 'e' ∨ c = 'E') ∧ digits ≠ [] then
        (some (sign, digits), rest)
      else (none, cs)

/-
  The longest numeral at the front of text in the form that
  documents demand: no plus in front, no needless zero, and
  digits on both sides of a point.
-/
def front?
    (cs : List Char) : Option (Numeral × List Char) :=
  let (sign, body) :=
    match cs with
    | '-' :: tail => (some true, tail)
    | _ => (none, cs)
  let (whole, rest) :=
    match body with
    | '0' :: tail => (['0'], tail)
    | _ => body.span Char.isDigit
  if whole.isEmpty then none
  else
    let (fraction, rest) := fractionPart rest
    let (exponent, rest) := exponentPart rest
    some (⟨sign, whole, fraction, exponent⟩, rest)

end Numeral

end Decimal

end TraceMining

------------------------------------------------------------
-- Numbers In Text Fields
------------------------------------------------------------

namespace TraceMining

namespace Decimal

/- The names of the numbers without digits. -/
def named
    (cs : List Char) : Option Float :=
  let (sign, cs) := signed cs
  let x : Option Float :=
    match String.ofList (cs.map Char.toLower) with
    | "inf" | "infinity" => some (1 / 0)
    | "nan" => some (0 / 0)
    | _ => none
  x.map fun y => if sign = some true then -y else y

/- A number in text without underscores. -/
def readPlain
    (cs : List Char) : Option Float :=
  match Numeral.scan cs with
  | some n => if n.HasDigits then some n.toFloat else none
  | none => named cs

/-
  Text without its underscores, each of which stands between
  two other characters.
-/
def ungrouped?
    (cs : List Char) : Option (List Char) :=
  let groups := Text.pieces '_' cs
  if groups.all fun g => !g.isEmpty then some groups.flatten
  else none

/-
  A number in text.  White space around it or underscores
  inside it are passed over, but not both.
-/
def readFloat
    (cs : List Char) : Option Float :=
  match readPlain (Text.trim Text.isWhite cs) with
  | some x => some x
  | none => (ungrouped? cs).bind readPlain

end Decimal

end TraceMining
