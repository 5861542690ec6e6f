import TraceMining.Value.Basic
import TraceMining.Decimal.Integer
import TraceMining.Text.Units

/-
  This file defines the reading of documents.  A number with
  a point or an exponent is binary, any other is an integer;
  the names of the numbers without digits are allowed.  Too
  long an integer and too many levels are told apart from
  text that is no document; whichever comes first counts.

  Key definitions include:
    * `Value.Unread`
    * `Value.Reader.string`
    * `Value.Reader.number`
    * `Value.Reader.value`
    * `Value.read`
    * `Value.read?`
-/

------------------------------------------------------------
-- Outcomes
------------------------------------------------------------

namespace TraceMining

namespace Value

/- Why text is not read as a document. -/
inductive Unread where
  | malformed
  | excessive
  deriving DecidableEq, Repr

end Value

end TraceMining

------------------------------------------------------------
-- Text
------------------------------------------------------------

namespace TraceMining

namespace Value

namespace Reader

/- Drop the white space that documents allow. -/
def skip
    (cs : List Char) : List Char :=
  cs.dropWhile fun c =>
    c == ' ' || c == '\t' || c == '\n' || c == '\r'

/- The value of a digit in base sixteen. -/
def hexDigit
    (c : Char) : Option Nat :=
  if '0' ≤ c ∧ c ≤ '9' then some (c.toNat - 48)
  else if 'a' ≤ c ∧ c ≤ 'f' then some (c.toNat - 87)
  else if 'A' ≤ c ∧ c ≤ 'F' then some (c.toNat - 55)
  else none

/- The number that four such digits spell. -/
def hexUnit
    (a b c d : Char) : Option Nat := do
  let a ← hexDigit a
  let b ← hexDigit b
  let c ← hexDigit c
  let d ← hexDigit d
  return ((a * 16 + b) * 16 + c) * 16 + d

/- The character that a letter after a backslash stands for. -/
def plainEscape
    (c : Char) : Option Nat :=
  match c with
  | '\x22' => some 0x22
  | '\\' => some 0x5C
  | '/' => some 0x2F
  | 'b' => some 8
  | 'f' => some 0xC
  | 'n' => some 0xA
  | 'r' => some 0xD
  | 't' => some 9
  | _ => none

/- Code units up to the closing quote, and the rest. -/
def units :
    List Char → Option (List Nat × List Char)
  | [] => none
  | '\x22' :: rest => some ([], rest)
  | '\\' :: 'u' :: a :: b :: c :: d :: rest => do
      let n ← hexUnit a b c d
      let (ns, rest) ← units rest
      return (n :: ns, rest)
  | '\\' :: c :: rest => do
      let n ← plainEscape c
      let (ns, rest) ← units rest
      return (n :: ns, rest)
  | c :: rest =>
      if c.toNat < 0x20 then none
      else do
        let (ns, rest) ← units rest
        return (c.toNat :: ns, rest)

/- Text up to the closing quote, and the rest. -/
def string
    (cs : List Char) :
    Except Unread (String × List Char) :=
  match units cs with
  | some (ns, rest) =>
      .ok (String.ofList (Text.joined ns), rest)
  | none => .error .malformed

end Reader

end Value

end TraceMining

------------------------------------------------------------
-- Scalars
------------------------------------------------------------

namespace TraceMining

namespace Value

namespace Reader

/- The words that stand for values. -/
def words : List (String × Value) :=
  [ ("null", .null)
  , ("true", .bool true)
  , ("false", .bool false)
  , ("NaN", .float (0 / 0))
  , ("Infinity", .float (1 / 0))
  , ("-Infinity", .float (-1 / 0)) ]

/- A word at the front of the text. -/
def word?
    (cs : List Char) : Option (Value × List Char) :=
  words.findSome? fun (w, v) =>
    let w := w.toList
    if w.isPrefixOf cs then some (v, cs.drop w.length)
    else none

/- A number at the front of the text. -/
def number
    (cs : List Char) :
    Except Unread (Value × List Char) :=
  match Decimal.Numeral.front? cs with
  | none => .error .malformed
  | some (n, rest) =>
      if !n.isWhole then .ok (.float n.toFloat, rest)
      else if Decimal.mostDigits < n.whole.length then
        .error .excessive
      else .ok (.int n.toInt, rest)

/- A word or a number. -/
def scalar
    (cs : List Char) :
    Except Unread (Value × List Char) :=
  match word? cs with
  | some r => .ok r
  | none => number cs

end Reader

end Value

end TraceMining

------------------------------------------------------------
-- Documents
------------------------------------------------------------

namespace TraceMining

namespace Value

namespace Reader

mutual

/- A value at the front of the text; `room` levels may follow. -/
def value :
    Nat → Nat → List Char →
      Except Unread (Value × List Char)
  | 0, _, _ => .error .malformed
  | fuel + 1, room, cs =>
      match cs, room with
      | '\x22' :: rest, _ => do
          let (s, rest) ← string rest
          return (.text s, rest)
      | '[' :: _, 0 => .error .excessive
      | '[' :: rest, room + 1 =>
          match skip rest with
          | ']' :: rest => .ok (.list [], rest)
          | rest => do
              let (vs, rest) ← items fuel room rest
              return (.list vs, rest)
      | '\x7b' :: _, 0 => .error .excessive
      | '\x7b' :: rest, room + 1 =>
          match skip rest with
          | '\x7d' :: rest => .ok (.object [], rest)
          | rest => do
              let (es, rest) ← entries fuel room rest
              return (.object (Fields.ofEntries es), rest)
      | _, _ => scalar cs

/- Items up to the closing bracket. -/
def items :
    Nat → Nat → List Char →
      Except Unread (List Value × List Char)
  | 0, _, _ => .error .malformed
  | fuel + 1, room, cs => do
      let (v, rest) ← value fuel room cs
      match skip rest with
      | ']' :: rest => return ([v], rest)
      | ',' :: rest => do
          let (vs, rest) ← items fuel room (skip rest)
          return (v :: vs, rest)
      | _ => .error .malformed

/- Entries up to the closing brace. -/
def entries :
    Nat → Nat → List Char →
      Except Unread (List (String × Value) × List Char)
  | 0, _, _ => .error .malformed
  | fuel + 1, room, cs =>
      match cs with
      | '\x22' :: rest => do
          let (k, rest) ← string rest
          match skip rest with
          | ':' :: rest => do
              let (v, rest) ← value fuel room (skip rest)
              match skip rest with
              | '\x7d' :: rest => return ([(k, v)], rest)
              | ',' :: rest => do
                  let (es, rest) ← entries fuel room (skip rest)
                  return ((k, v) :: es, rest)
              | _ => .error .malformed
          | _ => .error .malformed
      | _ => .error .malformed

end

/- How many levels of lists and objects a document may have. -/
def mostLevels : Nat := 950

end Reader

/- Read a whole document; nothing may follow it. -/
def read
    (cs : List Char) : Except Unread Value := do
  let cs := Reader.skip cs
  let (v, rest) ←
    Reader.value (2 * cs.length + 2) Reader.mostLevels cs
  if (Reader.skip rest).isEmpty then return v
  else .error .malformed

/- Read a whole document, if there is one. -/
def read?
    (s : String) : Option Value :=
  (read s.toList).toOption

end Value

end TraceMining
