/-
  This file defines the questions that rules ask of text:
  whether it mentions another text, how it ends, and what
  pieces a separator cuts it into.

  Key definitions include:
    * `Text.mentions`
    * `Text.Contains`
    * `Text.dropLineEnd`
    * `Text.endsIn`
    * `Text.pieces`

  Key theorems include:
    * `Text.mentions_iff`
-/

------------------------------------------------------------
-- Mentions
------------------------------------------------------------

namespace TraceMining

namespace Text

/- The needle stands somewhere in the text. -/
def mentionsChars
    (needle : List Char) :
    List Char → Bool
  | [] => needle.isEmpty
  | c :: cs =>
      needle.isPrefixOf (c :: cs) || mentionsChars needle cs

/- The needle stands somewhere in the string. -/
def mentions
    (s : String)
    (needle : String) : Bool :=
  mentionsChars needle.toList s.toList

/- A string has another one as a part. -/
def Contains
    (s : String)
    (part : String) : Prop :=
  part.toList <:+: s.toList

/- A needle is mentioned exactly when it is a part. -/
theorem mentionsChars_iff
    (needle cs : List Char) :
    mentionsChars needle cs = true ↔ needle <:+: cs := by
  induction cs with
  | nil => simp [mentionsChars]
  | cons c cs ih =>
      rw [mentionsChars, Bool.or_eq_true, ih,
        List.isPrefixOf_iff_prefix, List.infix_cons_iff]

/- So strings mention their parts. -/
theorem mentions_iff
    {s needle : String} :
    mentions s needle = true ↔ Contains s needle :=
  mentionsChars_iff needle.toList s.toList

instance
    (s : String)
    (part : String) :
    Decidable (Contains s part) :=
  decidable_of_iff _ mentions_iff

/- Text without one line feed at its end. -/
def dropLineEnd
    (cs : List Char) : List Char :=
  if cs.getLast? = some '\n' then cs.dropLast else cs

/- The string ends in the other one. -/
def endsIn
    (s : String)
    (tail : String) : Bool :=
  tail.toList.isSuffixOf s.toList

end Text

end TraceMining

------------------------------------------------------------
-- Pieces
------------------------------------------------------------

namespace TraceMining

namespace Text

/- Cut text at every separator; empty pieces stay. -/
def pieces
    (sep : Char) :
    List Char → List (List Char)
  | [] => [[]]
  | c :: cs =>
      if c = sep then [] :: pieces sep cs
      else
        match pieces sep cs with
        | [] => [[c]]
        | p :: ps => (c :: p) :: ps

/- There is always at least one piece. -/
theorem pieces_ne_nil
    (sep : Char)
    (cs : List Char) :
    pieces sep cs ≠ [] := by
  cases cs with
  | nil => simp [pieces]
  | cons c cs =>
      simp only [pieces]
      split
      · simp
      · split <;> simp

end Text

end TraceMining
