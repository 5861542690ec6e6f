import TraceMining.Decimal.Numeral

/-
  This file defines the reading of integers from text fields.
  Text in plain form is read as it stands.  Other text is
  first brought into that form: white space, a plus, zeros in
  front, a fraction of zeros and single underscores go.

  Key definitions include:
    * `Decimal.Unread`
    * `Decimal.readPlainInt`
    * `Decimal.withoutZeros`
    * `Decimal.plainForm?`
    * `Decimal.readInt`
-/

------------------------------------------------------------
-- Plain Form
------------------------------------------------------------

namespace TraceMining

namespace Decimal

/- Why text is not read as an integer. -/
inductive Unread where
  | malformed
  | tooLong
  deriving DecidableEq, Repr

/- The most digits that an integer may have. -/
def mostDigits : Nat := 4300

/- A natural number without a needless zero in front. -/
def readPlainNat
    (cs : List Char) : Except Unread Nat :=
  match cs with
  | [] => .error .malformed
  | ['0'] => .ok 0
  | '0' :: _ => .error .malformed
  | _ =>
      let (digits, rest) := cs.span Char.isDigit
      if mostDigits < digits.length then .error .tooLong
      else if rest.isEmpty then .ok (ofDigits digits)
      else .error .malformed

/- An integer in plain form: at most a minus, then digits. -/
def readPlainInt
    (cs : List Char) : Except Unread Int :=
  match cs with
  | '-' :: tail => (readPlainNat tail).map fun n => -Int.ofNat n
  | _ => (readPlainNat cs).map Int.ofNat

end Decimal

end TraceMining

------------------------------------------------------------
-- Other Forms
------------------------------------------------------------

namespace TraceMining

namespace Decimal

/-
  What follows zeros, which underscores may group.  The last
  zero stays before a point and at the end.
-/
def pastZeros
    (last : Char) :
    List Char → Option (List Char)
  | [] => some [last]
  | c :: cs =>
      if c = '0' ∨ c = '_' then pastZeros c cs
      else if c.isDigit ∨ c = '-' then some (c :: cs)
      else if c = '.' then some (last :: c :: cs)
      else none

/- Text without needless zeros; it starts like a number. -/
def withoutZeros
    (cs : List Char) : Option (List Char) :=
  match cs with
  | [] => none
  | c :: tail =>
      if c = '0' then pastZeros c tail
      else if c.isDigit ∨ c = '-' then some cs
      else none

/- Text without a fraction of nothing but zeros. -/
def withoutFraction
    (cs : List Char) : List Char :=
  let (whole, fraction) := cs.span (· ≠ '.')
  match fraction with
  | _ :: zeros =>
      if !zeros.isEmpty && zeros.all (· == '0') then whole
      else cs
  | [] => cs

/- The plain form of text without a sign. -/
def unsignedForm?
    (cs : List Char) : Option (List Char) :=
  (withoutZeros cs).map fun ds =>
    let ds := withoutFraction ds
    (ungrouped? ds).getD ds

/- The plain form of text, if it can be brought into one. -/
def plainForm?
    (cs : List Char) : Option (List Char) :=
  match Text.trim Text.isWhite cs with
  | '+' :: tail =>
      if tail.head? = some '-' then none
      else unsignedForm? tail
  | '-' :: tail => (unsignedForm? tail).map ('-' :: ·)
  | ds => unsignedForm? ds

/-
  An integer in text.  Only text that is in plain form as it
  stands can be too long.
-/
def readInt
    (cs : List Char) : Except Unread Int :=
  match readPlainInt cs with
  | .ok n => .ok n
  | .error .tooLong => .error .tooLong
  | .error .malformed =>
      match plainForm? cs with
      | none => .error .malformed
      | some ds =>
          match readPlainInt ds with
          | .ok n => .ok n
          | .error _ => .error .malformed

end Decimal

end TraceMining
