import TraceMining.Text.CaseTable

/-
  This file defines the lower and upper case of text by the
  full mappings: one letter may become several.  A capital
  sigma lowers to its final form at the end of a word, that
  is, after a cased letter and before none, where characters
  that carry no case of their own are looked through.

  Key definitions include:
    * `Text.lowerChar`
    * `Text.upperChar`
    * `Text.lower`
    * `Text.upper`
-/

------------------------------------------------------------
-- Single Characters
------------------------------------------------------------

namespace TraceMining

namespace Text

namespace CaseShift

/- The row changes the code point. -/
def Moves
    (s : CaseShift)
    (n : Nat) : Prop :=
  s.first ≤ n ∧ n ≤ s.last ∧ (n - s.first) % s.stride = 0

instance
    (s : CaseShift)
    (n : Nat) :
    Decidable (s.Moves n) := by
  unfold Moves
  infer_instance

/- Apply the first row that moves a code point. -/
def apply
    (table : List CaseShift)
    (c : Char) : Char :=
  match table.find? fun s => decide (s.Moves c.toNat) with
  | some s => Char.ofNat (Int.ofNat c.toNat + s.offset).toNat
  | none => c

end CaseShift

/- The lower form of a character outside any context. -/
def lowerChar
    (c : Char) : List Char :=
  if c.toNat = 0x130 then ['i', '\u0307']
  else [CaseShift.apply lowerShifts c]

/- The upper form of a character. -/
def upperChar
    (c : Char) : List Char :=
  match upperExpansions.lookup c.toNat with
  | some s => s.toList
  | none => [CaseShift.apply upperShifts c]

/- A character with case that a search for case stops at. -/
def isCased
    (c : Char) : Bool :=
  Span.anyHas casedSpans c

/- A character that a search for case passes over. -/
def isIgnorable
    (c : Char) : Bool :=
  Span.anyHas ignorableSpans c

end Text

end TraceMining

------------------------------------------------------------
-- Text
------------------------------------------------------------

namespace TraceMining

namespace Text

/- The next character that is not passed over has case. -/
def casedAhead
    (cs : List Char) : Bool :=
  match cs.dropWhile isIgnorable with
  | c :: _ => isCased c
  | [] => false

/-
  The lower form of text that follows other text; `before`
  says whether case was last seen there.
-/
def lowerAfter
    (before : Bool) :
    List Char → List Char
  | [] => []
  | c :: cs =>
      let lowered :=
        if c.toNat = 0x3A3 then
          if before && !casedAhead cs then ['ς'] else ['σ']
        else lowerChar c
      let seen := if isIgnorable c then before else isCased c
      lowered ++ lowerAfter seen cs

/- The lower form of text. -/
def lowerChars
    (cs : List Char) : List Char :=
  lowerAfter false cs

/- The upper form of text, character by character. -/
def upperChars
    (cs : List Char) : List Char :=
  cs.flatMap upperChar

/- The lower form of a string. -/
def lower
    (s : String) : String :=
  String.ofList (lowerChars s.toList)

/- The upper form of a string. -/
def upper
    (s : String) : String :=
  String.ofList (upperChars s.toList)

end Text

end TraceMining
