import TraceMining.Value.Basic

/-
  This file defines the misuses of values: rules that were
  never checked may put a value where text or a number is
  meant.  What is wrong shows only when the value is used.

  Key definitions include:
    * `Value.kindName`
    * `Misuse`
    * `Misuse.message`
-/

------------------------------------------------------------
-- Kinds
------------------------------------------------------------

namespace TraceMining

/- The name of a value's kind in messages. -/
def Value.kindName :
    Value → String
  | .null => "NoneType"
  | .bool _ => "bool"
  | .int _ => "int"
  | .float _ => "float"
  | .text _ => "str"
  | .list _ => "list"
  | .object _ => "dict"

end TraceMining

------------------------------------------------------------
-- Misuses
------------------------------------------------------------

namespace TraceMining

/-
  A value in the wrong place, by the name of its kind: a
  container as a glob, another value as a glob, or something
  that is not a number as a count.
-/
inductive Misuse where
  | containerGlob (kind : String)
  | scalarGlob (kind : String)
  | count (kind : String)
  deriving DecidableEq, Repr

namespace Misuse

/- The wording of a misuse. -/
def message :
    Misuse → String
  | .containerGlob kind =>
      "unhashable type: '" ++ kind ++ "'"
  | .scalarGlob kind =>
      "'" ++ kind ++ "' object is not iterable"
  | .count kind =>
      "'>' not supported between instances of '" ++ kind ++
        "' and 'int'"

/- Why a value is no glob. -/
def ofGlob? :
    Value → Option Misuse
  | .text _ => none
  | v =>
      if v.isScalar then some (.scalarGlob v.kindName)
      else some (.containerGlob v.kindName)

/- Why a value is no count; one that is empty says nothing. -/
def ofCount? :
    Value → Option Misuse
  | .text s =>
      if s.isEmpty then none
      else some (.count (Value.text s).kindName)
  | v =>
      if v.isScalar || !v.isTruthy then none
      else some (.count v.kindName)

end Misuse

end TraceMining
