import TraceMining.Matching.Attempt

/-
  This file defines the scan for all matches of a sequence of
  steps.  Attempts start at each event in turn; after a match
  they go on behind its last event, so that no event is used
  twice.

  Key definitions include:
    * `scan`
    * `scanMisuse?`

  Key theorems include:
    * `scan_eq_scan_drop`
-/

------------------------------------------------------------
-- Scan
------------------------------------------------------------

namespace TraceMining

namespace Matching

/-
  All matches, left to right; `skip` events in front belong
  to the match before.
-/
def scan
    (steps : List Rule)
    (timeout : Int) :
    Nat → List Event → List Match
  | _, [] => []
  | skip + 1, _ :: es => scan steps timeout skip es
  | 0, e :: es =>
      match attempt steps timeout (e :: es) with
      | none => scan steps timeout 0 es
      | some m =>
          m :: scan steps timeout
            (es.length - m.rest.length) es

/-
  The first misuse of a scan, and how many matches come
  before it.
-/
def scanMisuse?
    (steps : List Rule)
    (timeout : Int) :
    Nat → List Event → Option (Nat × Misuse)
  | _, [] => none
  | skip + 1, _ :: es => scanMisuse? steps timeout skip es
  | 0, e :: es =>
      match attemptMisuse? steps timeout (e :: es) with
      | some what => some (0, what)
      | none =>
          match attempt steps timeout (e :: es) with
          | none => scanMisuse? steps timeout 0 es
          | some m =>
              (scanMisuse? steps timeout
                (es.length - m.rest.length) es).map
                fun found => (found.1 + 1, found.2)

end Matching

end TraceMining

------------------------------------------------------------
-- Skipping
------------------------------------------------------------

namespace TraceMining

namespace Matching

/- Skipping events is scanning without them. -/
theorem scan_eq_scan_drop
    (steps : List Rule)
    (timeout : Int)
    (skip : Nat)
    (es : List Event) :
    scan steps timeout skip es =
      scan steps timeout 0 (es.drop skip) := by
  induction es generalizing skip with
  | nil => simp [scan]
  | cons e es ih =>
      cases skip with
      | zero => rfl
      | succ n => simpa [scan] using ih n

end Matching

end TraceMining
