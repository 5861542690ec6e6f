import TraceMining.Text.Case
import TraceMining.Text.Word

/-
  This file defines the casing of names.  An identifier joins
  its words, each but the first with a capital; a label keeps
  the words apart, each with a capital.

  Key definitions include:
    * `Naming.humps`
    * `Naming.camel`
    * `Naming.capitalized`
    * `Naming.display`
-/

------------------------------------------------------------
-- Identifiers
------------------------------------------------------------

namespace TraceMining

namespace Naming

/-
  What becomes of separators at the end of a text: the last
  one that is not a line feed, but not the first of all, is
  raised and stands for those before it.
-/
def trailing
    (run : List Char) : List Char :=
  let ends := run.reverse
  let feeds := ends.takeWhile (· == '\n')
  match ends.dropWhile (· == '\n') with
  | c :: _ :: _ => Text.upperChar c ++ feeds
  | _ => run

/-
  Join words; `run` holds the separators since the last of
  them.  Separators vanish and raise the character behind.
-/
def humps
    (run : List Char) :
    List Char → List Char
  | [] => trailing run
  | c :: cs =>
      if c.isAlphanum then
        (if run.isEmpty then [c] else Text.upperChar c) ++
          humps [] cs
      else humps (run ++ [c]) cs

/- The identifier that a text names. -/
def camel
    (s : String) : String :=
  String.ofList (humps [] (Text.lowerChars s.toList))

end Naming

end TraceMining

------------------------------------------------------------
-- Labels
------------------------------------------------------------

namespace TraceMining

namespace Naming

/- A blank for a hyphen or an underscore. -/
def blanked
    (c : Char) : Char :=
  if c = '-' ∨ c = '_' then ' ' else c

/- A blank between a small letter and a capital. -/
def spaced :
    List Char → List Char
  | [] => []
  | [c] => [c]
  | a :: b :: cs =>
      if a.isLower && b.isUpper then
        a :: ' ' :: spaced (b :: cs)
      else a :: spaced (b :: cs)

/-
  Raise the first character of every word; `inside` says
  whether the character before belongs to a word.
-/
def capitalized
    (inside : Bool) :
    List Char → List Char
  | [] => []
  | c :: cs =>
      let word := Text.isWord c
      (if word && !inside then Text.upperChar c else [c]) ++
        capitalized word cs

/- A text as a label, character by character. -/
def displayChars
    (cs : List Char) : List Char :=
  capitalized false (spaced (cs.map blanked))

/- A text as a label. -/
def display
    (s : String) : String :=
  String.ofList (displayChars s.toList)

end Naming

end TraceMining
