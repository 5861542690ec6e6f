import TraceMining.Value.Basic
import TraceMining.Decimal.Layout
import TraceMining.Text.Quoted
import TraceMining.Text.Units

/-
  This file defines the writing of values as documents.  The
  text is plain ASCII: other characters are written by number
  in units of sixteen bits, as two units above the first
  plane.

  Key definitions include:
    * `Value.escape`
    * `Value.write`
-/

------------------------------------------------------------
-- Text
------------------------------------------------------------

namespace TraceMining

namespace Value

/- One unit of sixteen bits. -/
def unit
    (n : Nat) : List Char :=
  ['\\', 'u'] ++ Text.hex 4 n

/- One character inside a document's quotes. -/
def escape
    (c : Char) : List Char :=
  let n := c.toNat
  if c = '\x22' ∨ c = '\\' then ['\\', c]
  else if c = '\n' then ['\\', 'n']
  else if c = '\r' then ['\\', 'r']
  else if c = '\t' then ['\\', 't']
  else if 0x20 ≤ n ∧ n < 0x7F then [c]
  else (Text.units c).flatMap unit

/- Text in a document's quotes. -/
def quote
    (s : String) : String :=
  String.ofList
    ('\x22' :: (s.toList.flatMap escape ++ ['\x22']))

end Value

end TraceMining

------------------------------------------------------------
-- Documents
------------------------------------------------------------

namespace TraceMining

namespace Value

mutual

/- A value as a document. -/
def write :
    Value → String
  | .null => "null"
  | .bool b => if b then "true" else "false"
  | .int n => toString n
  | .float x => Decimal.documented.write x
  | .text s => quote s
  | .list xs => "[" ++ ",".intercalate (writeItems xs) ++ "]"
  | .object fs =>
      "\x7b" ++ ",".intercalate (writeEntries fs) ++ "\x7d"

/- Each item of a list. -/
def writeItems :
    List Value → List String
  | [] => []
  | x :: xs => write x :: writeItems xs

/- Each entry of an object. -/
def writeEntries :
    List (String × Value) → List String
  | [] => []
  | (k, v) :: fs =>
      (quote k ++ ":" ++ write v) :: writeEntries fs

end

end Value

end TraceMining
