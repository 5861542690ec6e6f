import TraceMining.Definition.Basic
import TraceMining.Failure

/-
  This file defines the checking of definitions before they
  take part in an analysis.  A draft is a definition whose
  steps may still be any values; the first fault found, in
  the order of the steps and of their entries, is reported.

  Key definitions include:
    * `Fault`
    * `Constraint.fault?`
    * `Draft.check`
    * `Definition.check`
-/

------------------------------------------------------------
-- Faults
------------------------------------------------------------

namespace TraceMining

/- What is wrong with a definition. -/
inductive Fault where
  | emptySequence
  | negativeTimeout
  | stepNotMapping (step : Nat)
  | typeNotText (step : Nat)
  | badOccurrences (step : Nat)
  | globNotText (path : String)
  | unknownShape (path : String)
  deriving DecidableEq, Repr

/- The wording of a fault. -/
def Fault.message :
    Fault → String
  | .emptySequence => "sequence is empty"
  | .negativeTimeout => "timeout must be >= 0"
  | .stepNotMapping i =>
      "step " ++ toString i ++ " is not a mapping"
  | .typeNotText i =>
      "step " ++ toString i ++ " type must be a string"
  | .badOccurrences i =>
      "step " ++ toString i ++
        " minOccurrences must be an integer >= 1"
  | .globNotText path =>
      "glob at " ++ Text.quoted path ++ " must be a string"
  | .unknownShape path =>
      "unrecognized constraint shape at " ++
        Text.quoted path ++ ": list"

end TraceMining

------------------------------------------------------------
-- Constraints
------------------------------------------------------------

namespace TraceMining

namespace Constraint

mutual

/- The first fault of a constraint that stands at a path. -/
def fault? :
    Value → String → Option Fault
  | .object es, path =>
      match Entries.get? es patternKey with
      | some (.text _) => none
      | some _ => some (.globNotText path)
      | none => firstFault? es path
  | .list _, path => some (.unknownShape path)
  | _, _ => none

/- The first fault among the entries of an object. -/
def firstFault? :
    List (String × Value) → String → Option Fault
  | [], _ => none
  | (key, v) :: es, path =>
      match fault? v (path ++ "." ++ key) with
      | some fault => some fault
      | none => firstFault? es path

end

end Constraint

end TraceMining

------------------------------------------------------------
-- Steps
------------------------------------------------------------

namespace TraceMining

namespace Rule

/- The kind of event has to be text, if it is given. -/
def typeFault?
    (r : Rule)
    (i : Nat) : Option Fault :=
  match r.fields.getD "type" with
  | .null => none
  | .text _ => none
  | _ => some (.typeNotText i)

/- The count has to be a positive integer, if it is given. -/
def occurrencesFault?
    (r : Rule)
    (i : Nat) : Option Fault :=
  match r.fields.getD "minOccurrences" with
  | .null => none
  | .int n => if n < 1 then some (.badOccurrences i) else none
  | _ => some (.badOccurrences i)

/- The first fault among the constraints of a step. -/
def constraintFault?
    (r : Rule)
    (i : Nat) : Option Fault :=
  r.constraints.findSome? fun e =>
    Constraint.fault? e.2
      ("sequence[" ++ toString i ++ "]." ++ e.1)

/- The first fault of a step. -/
def fault?
    (r : Rule)
    (i : Nat) : Option Fault :=
  (r.typeFault? i).or
    ((r.occurrencesFault? i).or (r.constraintFault? i))

end Rule

/- The first fault of a step that may be any value. -/
def Value.stepFault?
    (v : Value)
    (i : Nat) : Option Fault :=
  match v with
  | .object fs => Rule.fault? ⟨fs⟩ i
  | _ => some (.stepNotMapping i)

end TraceMining

------------------------------------------------------------
-- Checking
------------------------------------------------------------

namespace TraceMining

/- A definition whose steps are unchecked values. -/
structure Draft where
  id : String
  sequence : List Value
  timeout : Int

namespace Draft

/- The first fault of a draft. -/
def fault?
    (d : Draft) : Option Fault :=
  if d.sequence.isEmpty then some .emptySequence
  else if d.timeout < 0 then some .negativeTimeout
  else
    d.sequence.zipIdx.findSome? fun s => s.1.stepFault? s.2

/- Accept a draft or name its first fault. -/
def check
    (d : Draft) : Except Failure Unit :=
  match d.fault? with
  | none => .ok ()
  | some fault => .error (.invalidDefinition d.id fault.message)

end Draft

namespace Definition

/- What of a definition is checked. -/
def draft
    (d : Definition) : Draft :=
  { id := d.id
    sequence := d.rules.sequence.map Rule.toValue
    timeout := d.rules.timeout }

/- Accept a definition or name its first fault. -/
def check
    (d : Definition) : Except Failure Unit :=
  d.draft.check

/- The definition can be matched. -/
def isValid
    (d : Definition) : Bool :=
  d.draft.fault?.isNone

end Definition

end TraceMining
