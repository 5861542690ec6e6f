/-
  This file defines globs.  A star stands for any run of
  characters, line feeds included, and every other character
  for itself.  A value may carry one line feed more at its
  end than the glob asks for.

  Key definitions include:
    * `Glob.Token`
    * `Glob.tokens`
    * `Glob.anySuffix`
    * `Glob.fits`
    * `Glob.accepts`
-/

------------------------------------------------------------
-- Tokens
------------------------------------------------------------

namespace TraceMining

namespace Glob

/- A part of a glob. -/
inductive Token where
  | star
  | literal (cs : List Char)
  deriving DecidableEq, Repr

/- The text of a part. -/
def Token.text :
    Token → String
  | .star => "*"
  | .literal cs => String.ofList cs

/- Cut a glob into parts; stars in a row are one star. -/
def tokens :
    List Char → List Token
  | [] => []
  | c :: cs =>
      if c = '*' then
        match tokens cs with
        | .star :: ts => .star :: ts
        | ts => .star :: ts
      else
        match tokens cs with
        | .literal l :: ts => .literal (c :: l) :: ts
        | ts => .literal [c] :: ts

end Glob

end TraceMining

------------------------------------------------------------
-- Matching
------------------------------------------------------------

namespace TraceMining

namespace Glob

/- Some suffix of the text satisfies a test. -/
def anySuffix
    (test : List Char → Bool) :
    List Char → Bool
  | [] => test []
  | c :: cs => test (c :: cs) || anySuffix test cs

/- The tokens use the text up. -/
def fits :
    List Token → List Char → Bool
  | [], cs => cs.isEmpty
  | .star :: ts, cs => anySuffix (fits ts) cs
  | .literal l :: ts, cs =>
      l.isPrefixOf cs && fits ts (cs.drop l.length)

/- A glob accepts a value, or the value less its last line
feed. -/
def accepts
    (glob : String)
    (value : String) : Bool :=
  let ts := tokens glob.toList
  let cs := value.toList
  fits ts cs ||
    (cs.getLast? == some '\n' && fits ts cs.dropLast)

end Glob

end TraceMining

------------------------------------------------------------
-- Suffixes
------------------------------------------------------------

namespace TraceMining

namespace Glob

/- The test holds of a suffix exactly when text splits so. -/
theorem anySuffix_iff
    (test : List Char → Bool)
    (cs : List Char) :
    anySuffix test cs = true ↔
      ∃ run rest, cs = run ++ rest ∧ test rest = true := by
  induction cs with
  | nil =>
      constructor
      · intro h
        exact ⟨[], [], rfl, h⟩
      · rintro ⟨run, rest, h, ht⟩
        rw [(List.append_eq_nil_iff.1 h.symm).2] at ht
        exact ht
  | cons c cs ih =>
      simp only [anySuffix, Bool.or_eq_true, ih]
      constructor
      · rintro (h | ⟨run, rest, h, ht⟩)
        · exact ⟨[], c :: cs, rfl, h⟩
        · exact ⟨c :: run, rest, by simp [h], ht⟩
      · rintro ⟨run, rest, h, ht⟩
        cases run with
        | nil =>
            rw [List.nil_append] at h
            exact Or.inl (h ▸ ht)
        | cons b run =>
            rw [List.cons_append, List.cons.injEq] at h
            exact Or.inr ⟨run, rest, h.2, ht⟩

end Glob

end TraceMining
