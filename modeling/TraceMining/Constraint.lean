import TraceMining.Value.Equality
import TraceMining.Value.PlainText
import TraceMining.Glob
import TraceMining.Misuse

/-
  This file defines when a payload meets a constraint.  A
  constraint that is an object with a `pattern` matches the
  text of a scalar against that glob; any other object asks
  for an object that meets each of its entries; everything
  else asks for an equal value.  A payload of the wrong shape
  does not meet the constraint.

  Constraints and payloads are followed to any depth.  What
  is read and what is answered has a greatest depth, which is
  `Value.Reader.mostLevels` and `Rendition.mostLevels`; that
  calls may be nested only so deep at run time is left out of
  matching and of the check of definitions.

  Key definitions include:
    * `Constraint.globbed`
    * `Constraint.holds`
    * `Constraint.allHold`
    * `Constraint.misuse?`

  Key theorems include:
    * `Constraint.allHold_iff`
-/

------------------------------------------------------------
-- Globs
------------------------------------------------------------

namespace TraceMining

namespace Constraint

/- The key that makes an object a glob constraint. -/
def patternKey : String := "pattern"

/- A value's text is accepted by a glob. -/
def globbed
    (glob : Value)
    (actual : Value) : Bool :=
  match glob with
  | .text g => actual.isScalar && Glob.accepts g actual.globText
  | _ => false

end Constraint

end TraceMining

------------------------------------------------------------
-- Satisfaction
------------------------------------------------------------

namespace TraceMining

namespace Constraint

mutual

/- The value under a key, if any, meets a constraint. -/
def holds :
    Value → Option Value → Bool
  | .object es, actual =>
      match actual with
      | none => false
      | some .null => false
      | some v =>
          match Entries.get? es patternKey with
          | some glob => globbed glob v
          | none =>
              match v with
              | .object fs => allHold es fs
              | _ => false
  | expected, actual =>
      match actual with
      | none => false
      | some v => expected.agrees v

/- A payload meets every entry of an object of constraints. -/
def allHold :
    List (String × Value) → Fields → Bool
  | [], _ => true
  | (key, expected) :: es, fs =>
      holds expected (fs.get? key) && allHold es fs

end

/- Meeting all entries is meeting each. -/
theorem allHold_iff
    (es : List (String × Value))
    (fs : Fields) :
    allHold es fs = true ↔
      ∀ e ∈ es, holds e.2 (fs.get? e.1) = true := by
  induction es with
  | nil => simp [allHold]
  | cons e es ih =>
      obtain ⟨key, expected⟩ := e
      simp [allHold, ih]

end Constraint

end TraceMining

------------------------------------------------------------
-- Misuse
------------------------------------------------------------

namespace TraceMining

namespace Constraint

mutual

/- The misuse that shows when a value meets a constraint. -/
def misuse? :
    Value → Option Value → Option Misuse
  | .object es, actual =>
      match actual with
      | none => none
      | some .null => none
      | some v =>
          match Entries.get? es patternKey with
          | some glob =>
              if v.isScalar then Misuse.ofGlob? glob else none
          | none =>
              match v with
              | .object fs => firstMisuse? es fs
              | _ => none
  | _, _ => none

/- The first misuse before an entry that does not hold. -/
def firstMisuse? :
    List (String × Value) → Fields → Option Misuse
  | [], _ => none
  | (key, expected) :: es, fs =>
      match misuse? expected (fs.get? key) with
      | some what => some what
      | none =>
          if holds expected (fs.get? key) then
            firstMisuse? es fs
          else none

end

end Constraint

end TraceMining
