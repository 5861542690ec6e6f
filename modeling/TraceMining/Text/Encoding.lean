import TraceMining.Text.Units

/-
  This file defines how the bytes of a document become text.
  A document starts with plain characters, so zeros among its
  first bytes show the width and the order of its units; a
  document without them is read byte by byte.

  Key definitions include:
    * `Text.Encoding`
    * `Text.Encoding.detect`
    * `Text.words?`
    * `Text.doubleWords?`
    * `Text.reread`
-/

------------------------------------------------------------
-- Encodings
------------------------------------------------------------

namespace TraceMining

namespace Text

/- Which byte of a unit comes first. -/
inductive ByteOrder where
  | highFirst
  | lowFirst
  deriving DecidableEq, Repr

/- The width of the units of text, and their order. -/
inductive Encoding where
  | bytes
  | words (order : ByteOrder)
  | doubleWords (order : ByteOrder)
  deriving DecidableEq, Repr

/- The encoding that the first bytes of a document show. -/
def Encoding.detect :
    List Nat → Encoding
  | a :: b :: c :: d :: _ =>
      if a = 0 then
        if b = 0 then .doubleWords .highFirst
        else .words .highFirst
      else if b = 0 then
        if c = 0 ∧ d = 0 then .doubleWords .lowFirst
        else .words .lowFirst
      else .bytes
  | [a, b] =>
      if a = 0 then .words .highFirst
      else if b = 0 then .words .lowFirst
      else .bytes
  | _ => .bytes

end Text

end TraceMining

------------------------------------------------------------
-- Decoding
------------------------------------------------------------

namespace TraceMining

namespace Text

/- The number that bytes spell in some order. -/
def ByteOrder.number
    (order : ByteOrder)
    (bytes : List Nat) : Nat :=
  match order with
  | .highFirst => bytes.foldl (fun n b => 256 * n + b) 0
  | .lowFirst => bytes.foldr (fun b n => 256 * n + b) 0

/- The numbers that pairs of bytes spell; none may be left. -/
def words?
    (order : ByteOrder) :
    List Nat → Option (List Nat)
  | [] => some []
  | a :: b :: rest =>
      (words? order rest).map (order.number [a, b] :: ·)
  | _ => none

/- The numbers that fours of bytes spell; none may be left. -/
def doubleWords?
    (order : ByteOrder) :
    List Nat → Option (List Nat)
  | [] => some []
  | a :: b :: c :: d :: rest =>
      (doubleWords? order rest).map
        (order.number [a, b, c, d] :: ·)
  | _ => none

/- The last number that a character may have. -/
def lastNumber : Nat := 0x10FFFF

/- Text without the mark that some writers put in front. -/
def unmarked :
    List Char → List Char
  | '\uFEFF' :: cs => cs
  | cs => cs

/- The bytes of text. -/
def bytes
    (s : String) : List Nat :=
  s.toUTF8.toList.map UInt8.toNat

/-
  The document that text stands for, once its bytes are read
  in the encoding that they show.
-/
def reread
    (s : String) : Option (List Char) :=
  let bs := bytes s
  match Encoding.detect bs with
  | .bytes => some (unmarked s.toList)
  | .words order => (words? order bs).map joined
  | .doubleWords order =>
      (doubleWords? order bs).bind fun ns =>
        if ns.all (· ≤ lastNumber) then some (ns.map single)
        else none

end Text

end TraceMining
