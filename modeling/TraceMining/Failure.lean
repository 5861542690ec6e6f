import TraceMining.Misuse
import TraceMining.Text.Quoted

/-
  This file defines the ways in which an operation of the
  library can fail, and the wording of each.

  Key definitions include:
    * `Failure`
    * `Failure.message`
-/

------------------------------------------------------------
-- Failures
------------------------------------------------------------

namespace TraceMining

/-
  Why an operation failed.  The first five concern the mining
  of patterns; of the others, `storage` is the refusal of a
  store to write, which `persistence` reports, and the last
  three are documents that cannot leave.
-/
inductive Failure where
  | noEvents (sessionId : String)
  | noPatterns (sessionId : String)
  | invalidDefinition (id : String) (reason : String)
  | persistence (what : String) (cause : String)
  | malformedData (text : String)
  | storage (cause : String)
  | unknownKey (key : String)
  | emptyMean
  | unboundedMean
  | misuse (what : Misuse)
  | noSuchPlace
  | placeTooLarge
  | tooDeep
  | unwritable (cause : String)
  | notFinite
  deriving DecidableEq, Repr

namespace Failure

/- The wording of a failure. -/
def message :
    Failure → String
  | .noEvents s => "No events recorded for session " ++ s
  | .noPatterns s =>
      "No patterns found for session " ++ s ++
        "; run analysis first"
  | .invalidDefinition id reason =>
      "Invalid pattern definition " ++ Text.quoted id ++
        ": " ++ reason
  | .persistence what cause =>
      "Failed to persist " ++ what ++ ": " ++ cause
  | .malformedData text => text
  | .storage cause => cause
  | .unknownKey key => Text.quoted key
  | .emptyMean => "division by zero"
  | .unboundedMean =>
      "integer division result too large for a float"
  | .misuse what => what.message
  | .noSuchPlace => "list index out of range"
  | .placeTooLarge =>
      "cannot fit 'int' into an index-sized integer"
  | .tooDeep => "Maximum serialization depth exceeded"
  | .unwritable cause =>
      "Error serializing to JSON: ValueError: " ++ cause
  | .notFinite =>
      "Out of range float values are not JSON compliant"

end Failure

end TraceMining
