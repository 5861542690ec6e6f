import TraceMining.Decimal.Binary
import TraceMining.Decimal.Integer
import TraceMining.Schema.Checked

/-
  This file defines the readers of single fields.  They are
  lenient: a truth value is also a number, a whole number may
  be written with a fraction of zeros, and text may spell a
  number or a truth value.

  Key definitions include:
    * `Schema.text`
    * `Schema.integer`
    * `Schema.number`
    * `Schema.truth`
    * `Schema.fields`
    * `Schema.listOf`
    * `Schema.required`
    * `Schema.optional`
-/

------------------------------------------------------------
-- Scalars
------------------------------------------------------------

namespace TraceMining

namespace Schema

/- Any value. -/
def anything
    (v : Value) : Checked Value :=
  .valid v

/- Text. -/
def text :
    Value → Checked String
  | .text s => .valid s
  | v => .fail .stringType v

/- An integer spelt by text. -/
def integerText
    (s : String) : Checked Int :=
  match Decimal.readInt s.toList with
  | .ok n => .valid n
  | .error .malformed => .fail .intParsing (.text s)
  | .error .tooLong => .fail .intParsingSize (.text s)

/- An integer that a binary number of 64 bits equals. -/
def integerFloat
    (x : Float) : Checked Int :=
  match Binary.ofFloat x with
  | .finite negative m e =>
      match (Binary.finite negative m e).toInt? with
      | none => .fail .intFromFloat (.float x)
      | some n =>
          if n.natAbs < Binary.twoTo 63 then .valid n
          else .fail .intParsingSize (.float x)
  | _ => .fail .finiteNumber (.float x)

/- An integer. -/
def integer :
    Value → Checked Int
  | .int n => .valid n
  | .bool b => .valid (if b then 1 else 0)
  | .float x => integerFloat x
  | .text s => integerText s
  | v => .fail .intType v

/- A binary number spelt by text. -/
def numberText
    (s : String) : Checked Float :=
  match Decimal.readFloat s.toList with
  | some x => .valid x
  | none => .fail .floatParsing (.text s)

/- A binary number; an integer has to be within its range. -/
def number :
    Value → Checked Float
  | .float x => .valid x
  | .bool b => .valid (if b then 1 else 0)
  | .int n =>
      if n.natAbs < Binary.overflow then
        .valid (Float.ofInt n)
      else .fail .floatType (.int n)
  | .text s => numberText s
  | v => .fail .floatType v

/- The texts that mean yes. -/
def yes : List String :=
  ["1", "on", "t", "true", "y", "yes"]

/- The texts that mean no. -/
def no : List String :=
  ["0", "off", "f", "false", "n", "no"]

/- A truth value spelt by text. -/
def truthText
    (s : String) : Checked Bool :=
  let w := String.ofList (s.toList.map Char.toLower)
  if yes.contains w then .valid true
  else if no.contains w then .valid false
  else .fail .boolParsing (.text s)

/- The truth value of a small integer, the given value. -/
def truthInt
    (given : Value)
    (n : Int) : Checked Bool :=
  if n = 1 then .valid true
  else if n = 0 then .valid false
  else .fail .boolParsing given

/- A truth value. -/
def truth
    (v : Value) : Checked Bool :=
  match v with
  | .bool b => .valid b
  | .text s => truthText s
  | .int n =>
      if Binary.FitsWord n then truthInt v n
      else .fail .boolType v
  | .float x =>
      match (Binary.ofFloat x).toInt? with
      | some n =>
          if n.natAbs < Binary.twoTo 63 then truthInt v n
          else .fail .boolType v
      | none => .fail .boolType v
  | _ => .fail .boolType v

end Schema

end TraceMining

------------------------------------------------------------
-- Bounds
------------------------------------------------------------

namespace TraceMining

namespace Schema

/- A number between two others; none is not between them. -/
def between
    (low : Float)
    (high : Float)
    (read : Value → Checked Float)
    (v : Value) : Checked Float :=
  match read v with
  | .valid x =>
      if !decide (x ≤ high) then .fail .tooLarge v
      else if !decide (low ≤ x) then .fail .tooSmall v
      else .valid x
  | .invalid vs => .invalid vs

/- An integer that is not below a bound. -/
def atLeast
    (low : Int)
    (read : Value → Checked Int)
    (v : Value) : Checked Int :=
  match read v with
  | .valid n => if n < low then .fail .tooSmall v else .valid n
  | .invalid vs => .invalid vs

/- An integer that is not above a bound. -/
def atMost
    (high : Int)
    (read : Value → Checked Int)
    (v : Value) : Checked Int :=
  match read v with
  | .valid n => if high < n then .fail .tooLarge v else .valid n
  | .invalid vs => .invalid vs

end Schema

end TraceMining

------------------------------------------------------------
-- Containers
------------------------------------------------------------

namespace TraceMining

namespace Schema

variable {α : Type}

/- Null for none. -/
def nullable
    (read : Value → Checked α) :
    Value → Checked (Option α)
  | .null => .valid none
  | v => (read v).map some

/- The entries of an object. -/
def fields :
    Value → Checked Fields
  | .object fs => .valid fs
  | v => .fail .dictType v

/- Items from a place on; violations of all are kept. -/
def itemsFrom
    (read : Value → Checked α) :
    Nat → List Value → Checked (List α)
  | _, [] => .valid []
  | i, v :: vs =>
      List.cons <$> (read v).within (.item i) <*>
        itemsFrom read (i + 1) vs

/- A list. -/
def listOf
    (read : Value → Checked α) :
    Value → Checked (List α)
  | .list vs => itemsFrom read 0 vs
  | v => .fail .listType v

/- A field that has to be there. -/
def required
    (fs : Fields)
    (name : String)
    (read : Value → Checked α) : Checked α :=
  let r : Checked α :=
    match fs.get? name with
    | some v => read v
    | none => .fail .missing (.object fs)
  r.within (.field name)

/- A field with a value to use where it is not there. -/
def optional
    (fs : Fields)
    (name : String)
    (otherwise : α)
    (read : Value → Checked α) : Checked α :=
  match fs.get? name with
  | some v => (read v).within (.field name)
  | none => .valid otherwise

/- An object with known fields; others are passed over. -/
def model
    (code : Code)
    (read : Fields → Checked α) :
    Value → Checked α
  | .object fs => read fs
  | v => .fail code v

end Schema

end TraceMining
