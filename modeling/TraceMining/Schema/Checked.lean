import TraceMining.Value.Basic

/-
  This file defines the outcome of reading a document into a
  type: the result, or every violation that was found, in the
  order of the fields, each with the place where it stands.

  Key definitions include:
    * `Schema.Place`
    * `Schema.Code`
    * `Schema.Violation`
    * `Schema.Checked`
    * `Schema.each`
-/

------------------------------------------------------------
-- Violations
------------------------------------------------------------

namespace TraceMining

namespace Schema

/- A step on the way to a place in a document. -/
inductive Place where
  | field (name : String)
  | item (index : Nat)
  deriving DecidableEq, Repr

/- What a document may violate. -/
inductive Code where
  | missing
  | stringType
  | intType
  | intParsing
  | intParsingSize
  | intFromFloat
  | finiteNumber
  | floatType
  | floatParsing
  | boolType
  | boolParsing
  | listType
  | dictType
  | modelType
  | modelAttributesType
  | tooSmall
  | tooLarge
  | invalidDocument
  deriving DecidableEq, Repr

/- The name of what is violated. -/
def Code.name :
    Code → String
  | .missing => "missing"
  | .stringType => "string_type"
  | .intType => "int_type"
  | .intParsing => "int_parsing"
  | .intParsingSize => "int_parsing_size"
  | .intFromFloat => "int_from_float"
  | .finiteNumber => "finite_number"
  | .floatType => "float_type"
  | .floatParsing => "float_parsing"
  | .boolType => "bool_type"
  | .boolParsing => "bool_parsing"
  | .listType => "list_type"
  | .dictType => "dict_type"
  | .modelType => "model_type"
  | .modelAttributesType => "model_attributes_type"
  | .tooSmall => "greater_than_equal"
  | .tooLarge => "less_than_equal"
  | .invalidDocument => "json_invalid"

/-
  A violation, where it stands, and the value that was given
  there; for what is missing, the value that lacks it.
-/
structure Violation where
  places : List Place
  code : Code
  given : Value

/- The same violation, seen from further out. -/
def Violation.within
    (p : Place)
    (v : Violation) : Violation :=
  { v with places := p :: v.places }

/- A place as a document. -/
def Place.toValue :
    Place → Value
  | .field name => .text name
  | .item i => .int i

/- A violation as a document; what was given is left out. -/
def Violation.toValue
    (v : Violation) : Value :=
  .object
    [ ("loc", .list (v.places.map Place.toValue))
    , ("type", .text v.code.name) ]

end Schema

end TraceMining

------------------------------------------------------------
-- Outcomes
------------------------------------------------------------

namespace TraceMining

namespace Schema

/- A result, or all violations. -/
inductive Checked (α : Type) where
  | valid (a : α)
  | invalid (vs : List Violation)

namespace Checked

variable {α β : Type}

/- Change the result. -/
def map
    (f : α → β) :
    Checked α → Checked β
  | .valid a => .valid (f a)
  | .invalid vs => .invalid vs

/- Two outcomes together; violations of both are kept. -/
def both
    (f : Checked (α → β))
    (a : Checked α) : Checked β :=
  match f, a with
  | .valid f, .valid a => .valid (f a)
  | .valid _, .invalid vs => .invalid vs
  | .invalid us, .valid _ => .invalid us
  | .invalid us, .invalid vs => .invalid (us ++ vs)

instance : Functor Checked where
  map := map

instance : Applicative Checked where
  pure := .valid
  seq f a := both f (a ())

/- One violation at the place itself. -/
def fail
    (code : Code)
    (given : Value) : Checked α :=
  .invalid [⟨[], code, given⟩]

/- The same outcome, seen from further out. -/
def within
    (p : Place) :
    Checked α → Checked α
  | .valid a => .valid a
  | .invalid vs => .invalid (vs.map (Violation.within p))

/- The outcome as an exception. -/
def toExcept :
    Checked α → Except (List Violation) α
  | .valid a => .ok a
  | .invalid vs => .error vs

end Checked

/- Read documents one by one, up to the first invalid one. -/
def each
    {α : Type}
    (read : Value → Checked α)
    (vs : List Value) : Except (List Violation) (List α) :=
  vs.mapM fun v => (read v).toExcept

end Schema

end TraceMining
