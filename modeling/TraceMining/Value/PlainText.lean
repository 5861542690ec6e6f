import TraceMining.Value.Basic
import TraceMining.Decimal.Layout
import TraceMining.Text.Quoted

/-
  This file defines the plain text of values, which names
  workflow steps and is what globs are matched against.  Text
  is its own plain text; inside a list or an object it is
  quoted.

  Key definitions include:
    * `Value.shown`
    * `Value.plain`
-/

------------------------------------------------------------
-- Text Of Values
------------------------------------------------------------

namespace TraceMining

namespace Value

mutual

/- A value as part of a larger one. -/
def shown :
    Value → String
  | .null => "None"
  | .bool b => if b then "True" else "False"
  | .int n => toString n
  | .float x => Decimal.number.write x
  | .text s => Text.quoted s
  | .list xs => "[" ++ ", ".intercalate (shownItems xs) ++ "]"
  | .object fs =>
      "\x7b" ++ ", ".intercalate (shownEntries fs) ++ "\x7d"

/- Each item of a list. -/
def shownItems :
    List Value → List String
  | [] => []
  | x :: xs => shown x :: shownItems xs

/- Each entry of an object. -/
def shownEntries :
    List (String × Value) → List String
  | [] => []
  | (k, v) :: fs =>
      (Text.quoted k ++ ": " ++ shown v) :: shownEntries fs

end

/- A value on its own. -/
def plain :
    Value → String
  | .text s => s
  | v => v.shown

/- The text that a glob is matched against. -/
def globText :
    Value → String
  | .bool b => if b then "true" else "false"
  | v => v.plain

end Value

end TraceMining
