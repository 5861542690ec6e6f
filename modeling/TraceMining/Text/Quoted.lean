import TraceMining.Text.Printable

/-
  This file defines quoted text, the form in which messages
  show a name.  Quotes are single unless the text holds a
  single quote and no double one; a backslash, the quote
  itself and the three common controls are escaped, and a
  character that is not printable is written by number.

  Key definitions include:
    * `Text.escaped`
    * `Text.quoteMark`
    * `Text.quoted`
-/

------------------------------------------------------------
-- Numbers
------------------------------------------------------------

namespace TraceMining

namespace Text

/- A number in base sixteen, filled up with zeros. -/
def hex
    (width : Nat)
    (n : Nat) : List Char :=
  let ds := Nat.toDigits 16 n
  List.replicate (width - ds.length) '0' ++ ds

/- A character by number: two, four or eight digits. -/
def byNumber
    (c : Char) : List Char :=
  let n := c.toNat
  if n ≤ 0xFF then ['\\', 'x'] ++ hex 2 n
  else if n ≤ 0xFFFF then ['\\', 'u'] ++ hex 4 n
  else ['\\', 'U'] ++ hex 8 n

end Text

end TraceMining

------------------------------------------------------------
-- Quoting
------------------------------------------------------------

namespace TraceMining

namespace Text

/- The single quote. -/
def apostrophe : Char := '\x27'

/- One character inside quotes. -/
def escaped
    (mark : Char)
    (c : Char) : List Char :=
  if c = mark ∨ c = '\\' then ['\\', c]
  else if c = '\n' then ['\\', 'n']
  else if c = '\r' then ['\\', 'r']
  else if c = '\t' then ['\\', 't']
  else if isPrintable c then [c]
  else byNumber c

/- The quote that a text is put in. -/
def quoteMark
    (cs : List Char) : Char :=
  if apostrophe ∈ cs ∧ '\x22' ∉ cs then '\x22'
  else apostrophe

/- A text in quotes. -/
def quoted
    (s : String) : String :=
  let cs := s.toList
  let mark := quoteMark cs
  String.ofList
    (mark :: (cs.flatMap (escaped mark) ++ [mark]))

end Text

end TraceMining
