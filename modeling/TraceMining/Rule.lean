import TraceMining.Event
import TraceMining.Constraint
import TraceMining.Failure

/-
  This file defines step rules: open objects in which `type`
  names the kind of event, `minOccurrences` says how many
  events the step takes, and every other entry constrains the
  payload.  A verdict takes constraints of any depth; it has
  no failure for one that is too deep.

  Key definitions include:
    * `Rule`
    * `Rule.constraints`
    * `Rule.accepts`
    * `Rule.verdict`
    * `Rule.occurrences`
    * `Rule.minOccurrences`
    * `Rule.repetitions`
-/

------------------------------------------------------------
-- Rules
------------------------------------------------------------

namespace TraceMining

/- What one step of a definition asks of an event. -/
structure Rule where
  fields : Fields

namespace Rule

/- The entries that are not constraints. -/
def reserved : List String :=
  ["type", "minOccurrences"]

/- The entries that constrain the payload. -/
def constraints
    (r : Rule) : Fields :=
  r.fields.filter fun e => !reserved.contains e.1

/- A rule as a document. -/
def toValue
    (r : Rule) : Value :=
  .object r.fields

end Rule

end TraceMining

------------------------------------------------------------
-- Acceptance
------------------------------------------------------------

namespace TraceMining

namespace Rule

/- The event is of the kind asked for, if one is. -/
def acceptsType
    (r : Rule)
    (e : Event) : Bool :=
  let expected := r.fields.getD "type"
  match expected with
  | .text t => t.isEmpty || t == e.type
  | v => !v.isTruthy

/- The event satisfies the rule. -/
def accepts
    (r : Rule)
    (e : Event) : Bool :=
  r.acceptsType e && Constraint.allHold r.constraints e.data

/- The misuse that shows when an event is held against it. -/
def misuse?
    (r : Rule)
    (e : Event) : Option Misuse :=
  if r.acceptsType e then
    Constraint.firstMisuse? r.constraints e.data
  else none

/- Whether the event satisfies the rule, if that can be told. -/
def verdict
    (r : Rule)
    (e : Event) : Except Failure Bool :=
  match r.misuse? e with
  | some what => .error (.misuse what)
  | none => .ok (r.accepts e)

end Rule

end TraceMining

------------------------------------------------------------
-- Repetition
------------------------------------------------------------

namespace TraceMining

namespace Rule

/- What stands for the number of events; one by default. -/
def occurrences
    (r : Rule) : Value :=
  let v := r.fields.getD "minOccurrences"
  if v.isTruthy then v else .int 1

/-
  How many events the step asks for.  A fraction asks for
  one more event; infinitely many are more than there are.
-/
def minOccurrences
    (r : Rule) : Int :=
  match r.occurrences with
  | .int n => n
  | .float x =>
      match Binary.ofFloat x with
      | .infinite false => Int.ofNat Binary.overflow
      | b => b.ceil?.getD 1
  | _ => 1

/- How many events the step takes: at least one. -/
def repetitions
    (r : Rule) : Nat :=
  max 1 r.minOccurrences.toNat

/- The misuse that shows when events are counted. -/
def countMisuse?
    (r : Rule) : Option Misuse :=
  Misuse.ofCount? r.occurrences

/- A step takes some event. -/
theorem repetitions_pos
    (r : Rule) :
    0 < r.repetitions := by
  unfold repetitions
  omega

end Rule

end TraceMining
