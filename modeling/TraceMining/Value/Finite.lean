import TraceMining.Value.Basic
import TraceMining.Decimal.Binary

/-
  This file defines which values consist of finite numbers
  only.  A document has no other numbers, so that writing a
  value makes them null.

  Key definitions include:
    * `Value.isFinite`
    * `Value.finite`

  Key theorems include:
    * `Value.isFinite_finite`
-/

------------------------------------------------------------
-- Finite Numbers
------------------------------------------------------------

namespace TraceMining

namespace Binary

/- Neither infinite nor undefined. -/
def isFinite :
    Binary → Bool
  | .finite _ _ _ => true
  | _ => false

end Binary

end TraceMining

------------------------------------------------------------
-- Finite Values
------------------------------------------------------------

namespace TraceMining

namespace Value

mutual

/- Every number inside a value is finite. -/
def isFinite :
    Value → Bool
  | .float x => (Binary.ofFloat x).isFinite
  | .list vs => allFinite vs
  | .object fs => entriesFinite fs
  | _ => true

/- Every number inside the items of a list is finite. -/
def allFinite :
    List Value → Bool
  | [] => true
  | v :: vs => isFinite v && allFinite vs

/- Every number inside the entries of an object is finite. -/
def entriesFinite :
    List (String × Value) → Bool
  | [] => true
  | (_, v) :: fs => isFinite v && entriesFinite fs

end

mutual

/- A value with null for every number that is not finite. -/
def finite :
    Value → Value
  | .float x =>
      if (Binary.ofFloat x).isFinite then .float x else .null
  | .list vs => .list (finiteItems vs)
  | .object fs => .object (finiteEntries fs)
  | v => v

/- Each item of a list. -/
def finiteItems :
    List Value → List Value
  | [] => []
  | v :: vs => finite v :: finiteItems vs

/- Each entry of an object. -/
def finiteEntries :
    List (String × Value) → List (String × Value)
  | [] => []
  | (k, v) :: fs => (k, finite v) :: finiteEntries fs

end

end Value

end TraceMining

------------------------------------------------------------
-- Result
------------------------------------------------------------

namespace TraceMining

namespace Value

mutual

/- What is left are finite numbers. -/
theorem isFinite_finite
    (v : Value) :
    v.finite.isFinite = true := by
  match v with
  | .null => rfl
  | .bool _ => rfl
  | .int _ => rfl
  | .text _ => rfl
  | .float x =>
      by_cases h : (Binary.ofFloat x).isFinite = true
      · simp [finite, h, isFinite]
      · simp [finite, h, isFinite]
  | .list vs =>
      simpa [finite, isFinite] using allFinite_finiteItems vs
  | .object fs =>
      simpa [finite, isFinite] using
        entriesFinite_finiteEntries fs

/- What is left in a list are finite numbers. -/
theorem allFinite_finiteItems
    (vs : List Value) :
    allFinite (finiteItems vs) = true := by
  match vs with
  | [] => rfl
  | v :: vs =>
      simp [finiteItems, allFinite, isFinite_finite v,
        allFinite_finiteItems vs]

/- What is left in an object are finite numbers. -/
theorem entriesFinite_finiteEntries
    (fs : List (String × Value)) :
    entriesFinite (finiteEntries fs) = true := by
  match fs with
  | [] => rfl
  | (_, v) :: fs =>
      simp [finiteEntries, entriesFinite, isFinite_finite v,
        entriesFinite_finiteEntries fs]

end

end Value

end TraceMining
