import TraceMining.Entries

/-
  This file defines open values: the content of event
  payloads, rule constraints and metadata.  A value keeps
  what a document said: integers of any size apart from
  binary numbers, and the order of the entries of an object.

  Key definitions include:
    * `Value`
    * `Fields`
    * `Fields.get?`
    * `Fields.ofEntries`
    * `Value.isTruthy`
-/

------------------------------------------------------------
-- Values
------------------------------------------------------------

namespace TraceMining

/- An open value. -/
inductive Value where
  | null
  | bool (b : Bool)
  | int (n : Int)
  | float (x : Float)
  | text (s : String)
  | list (xs : List Value)
  | object (entries : List (String × Value))

instance : Inhabited Value where
  default := .null

/- The entries of an object, in order. -/
abbrev Fields :=
  List (String × Value)

end TraceMining

------------------------------------------------------------
-- Fields
------------------------------------------------------------

namespace TraceMining

namespace Fields

/- The value under a key. -/
def get?
    (fs : Fields)
    (key : String) : Option Value :=
  Entries.get? fs key

/- The value under a key, null if there is none. -/
def getD
    (fs : Fields)
    (key : String) : Value :=
  (fs.get? key).getD .null

/-
  Entries as a document lists them.  A key that is repeated
  keeps its first place and its last value.
-/
def ofEntries
    (entries : List (String × Value)) : Fields :=
  entries.foldl (fun fs e => Entries.put fs e.1 e.2) []

end Fields

end TraceMining

------------------------------------------------------------
-- Questions
------------------------------------------------------------

namespace TraceMining

namespace Value

/- A scalar: neither a list nor an object. -/
def isScalar :
    Value → Bool
  | .list _ => false
  | .object _ => false
  | _ => true

/- One of the two truth values. -/
def isBool :
    Value → Bool
  | .bool _ => true
  | _ => false

/- Present in substance: not null, false, zero or empty. -/
def isTruthy :
    Value → Bool
  | .null => false
  | .bool b => b
  | .int n => n != 0
  | .float x => x != 0
  | .text s => !s.isEmpty
  | .list xs => !xs.isEmpty
  | .object fs => !fs.isEmpty

/- The text of a value that is text and not empty. -/
def name? :
    Value → Option String
  | .text s => if s.isEmpty then none else some s
  | _ => none

/- The items of a value that is a list. -/
def items? :
    Value → Option (List Value)
  | .list xs => some xs
  | _ => none

/- Text, or null for none. -/
def ofText? :
    Option String → Value
  | some s => .text s
  | none => .null

/- A list of texts. -/
def ofTexts
    (xs : List String) : Value :=
  .list (xs.map .text)

end Value

end TraceMining
