import TraceMining.Value.Basic
import TraceMining.Decimal.Binary

/-
  This file defines when two values are the same.  Numbers
  are compared by exact value, whatever their kind, and a
  truth value counts as the number one or zero; the order of
  an object's entries does not matter.  A constraint is
  stricter at its top: a truth value agrees only with a truth
  value.

  Key definitions include:
    * `Value.number?`
    * `Value.same`
    * `Value.agrees`
-/

------------------------------------------------------------
-- Numbers
------------------------------------------------------------

namespace TraceMining

/- A number of either kind. -/
inductive Number where
  | int (n : Int)
  | float (x : Float)

namespace Number

/- Exact equality of numbers. -/
def same :
    Number → Number → Bool
  | .int a, .int b => a == b
  | .int a, .float y => (Binary.ofFloat y).toInt? == some a
  | .float x, .int b => (Binary.ofFloat x).toInt? == some b
  | .float x, .float y => x == y

end Number

/- The number that a value is or counts as. -/
def Value.number? :
    Value → Option Number
  | .bool b => some (.int (if b then 1 else 0))
  | .int n => some (.int n)
  | .float x => some (.float x)
  | _ => none

end TraceMining

------------------------------------------------------------
-- Sameness
------------------------------------------------------------

namespace TraceMining

namespace Value

mutual

/- Two values are the same. -/
def same :
    Value → Value → Bool
  | .null, w =>
      match w with
      | .null => true
      | _ => false
  | .text a, w =>
      match w with
      | .text b => a == b
      | _ => false
  | .list xs, w =>
      match w with
      | .list ys => sameItems xs ys
      | _ => false
  | .object fs, w =>
      match w with
      | .object gs =>
          fs.length == gs.length && sameEntries fs gs
      | _ => false
  | v, w =>
      match v.number?, w.number? with
      | some a, some b => a.same b
      | _, _ => false

/- Two lists hold the same values in the same order. -/
def sameItems :
    List Value → List Value → Bool
  | [], ys => ys.isEmpty
  | x :: xs, ys =>
      match ys with
      | [] => false
      | y :: ys => same x y && sameItems xs ys

/- Every entry has its like under the same key. -/
def sameEntries :
    List (String × Value) → Fields → Bool
  | [], _ => true
  | (k, v) :: fs, gs =>
      (match gs.get? k with
        | some w => same v w
        | none => false) &&
        sameEntries fs gs

end

/- The expected and the actual value of a constraint agree. -/
def agrees
    (expected : Value)
    (actual : Value) : Bool :=
  expected.isBool == actual.isBool && expected.same actual

end Value

end TraceMining
