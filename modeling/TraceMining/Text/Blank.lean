/-
  This file defines white space and the trimming of text.
  Numbers are read without the white space around them;
  settings are read without the blanks around them, and the
  four information separators count as blank there.

  Key definitions include:
    * `Text.isWhite`
    * `Text.isBlank`
    * `Text.trim`
-/

------------------------------------------------------------
-- Classes
------------------------------------------------------------

namespace TraceMining

namespace Text

/- White space: controls, spaces and line separators. -/
def isWhite
    (c : Char) : Bool :=
  let n := c.toNat
  (9 ≤ n && n ≤ 13) || n == 0x20 || n == 0x85 ||
    n == 0xA0 || n == 0x1680 ||
    (0x2000 ≤ n && n ≤ 0x200A) ||
    n == 0x2028 || n == 0x2029 || n == 0x202F ||
    n == 0x205F || n == 0x3000

/- White space or one of the four information separators. -/
def isBlank
    (c : Char) : Bool :=
  isWhite c || (0x1C ≤ c.toNat && c.toNat ≤ 0x1F)

end Text

end TraceMining

------------------------------------------------------------
-- Trimming
------------------------------------------------------------

namespace TraceMining

namespace Text

/- Drop the characters of a class from both ends. -/
def trim
    (drop : Char → Bool)
    (cs : List Char) : List Char :=
  ((cs.dropWhile drop).reverse.dropWhile drop).reverse

end Text

end TraceMining
