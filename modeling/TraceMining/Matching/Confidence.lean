import TraceMining.Event
import TraceMining.Failure
import TraceMining.Decimal.Rounded

/-
  This file defines the confidence of a match: a base, a bonus
  for as many events as there are steps, and a bonus for
  events that follow each other closely.  The mean interval is
  compared exactly; one that no binary number can hold is a
  failure.

  Key definitions include:
    * `Matching.elapsed`
    * `Matching.IsUnbounded`
    * `Matching.paceBonus`
    * `Matching.confidence`
-/

------------------------------------------------------------
-- Pace
------------------------------------------------------------

namespace TraceMining

namespace Matching

/- Milliseconds from the first event to the last. -/
def elapsed
    (es : List Event) : Int :=
  match es.head?, es.getLast? with
  | some a, some b => b.timestamp - a.timestamp
  | _, _ => 0

/-
  The mean of `gaps` intervals is, once rounded, beyond the
  greatest binary number.
-/
def IsUnbounded
    (duration : Int)
    (gaps : Nat) : Prop :=
  Binary.overflow * gaps ≤ duration.natAbs

instance
    (duration : Int)
    (gaps : Nat) :
    Decidable (IsUnbounded duration gaps) := by
  unfold IsUnbounded
  infer_instance

/- Mean intervals below this are tight. -/
def tightInterval : Int := 5000

/- Mean intervals below this are loose. -/
def looseInterval : Int := 30000

/- What the mean of `gaps` intervals adds to a score. -/
def paceBonus
    (duration : Int)
    (gaps : Nat) : Float :=
  if duration < tightInterval * gaps then 0.1
  else if duration < looseInterval * gaps then 0.05
  else 0

end Matching

end TraceMining

------------------------------------------------------------
-- Confidence
------------------------------------------------------------

namespace TraceMining

namespace Matching

/- The score of any match. -/
def baseConfidence : Float := 0.7

/- The score of a match of some number of steps. -/
def confidence
    (es : List Event)
    (steps : Nat) : Except Failure Float :=
  let gaps := es.length - 1
  let duration := elapsed es
  let c :=
    if es.length = steps then baseConfidence + 0.1
    else baseConfidence
  if gaps = 0 then .ok (Decimal.rounded 4 (min c 1))
  else if IsUnbounded duration gaps then
    .error .unboundedMean
  else
    .ok (Decimal.rounded 4
      (min (c + paceBonus duration gaps) 1))

end Matching

end TraceMining
