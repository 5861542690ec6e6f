import TraceMining.Glob

/-
  This file shows which values a glob accepts: those that are
  the glob with a run of characters in the place of each star.
  A value that is accepted without being one of them is one of
  them with a line feed more at its end.

  Key definitions include:
    * `Glob.Expands`

  Key theorems include:
    * `Glob.fits_tokens_iff`
    * `Glob.accepts_iff`
    * `Glob.accepts_iff_expands`
-/

------------------------------------------------------------
-- Expansions
------------------------------------------------------------

namespace TraceMining

namespace Glob

/-
  A text comes from a glob by putting some run of characters
  in the place of each star and keeping everything else.
-/
inductive Expands :
    List Char → List Char → Prop where
  | nil : Expands [] []
  | star
      {glob cs : List Char}
      (run : List Char)
      (hRest : Expands glob cs) :
      Expands ('*' :: glob) (run ++ cs)
  | same
      {glob cs : List Char}
      {c : Char}
      (hOther : c ≠ '*')
      (hRest : Expands glob cs) :
      Expands (c :: glob) (c :: cs)

namespace Expands

variable {glob cs : List Char}

/- Only the empty text comes from the empty glob. -/
theorem nil_iff :
    Expands [] cs ↔ cs = [] := by
  constructor
  · rintro ⟨⟩
    rfl
  · rintro rfl
    exact Expands.nil

/- A star in front stands for a run in front. -/
theorem star_iff :
    Expands ('*' :: glob) cs ↔
      ∃ run rest, cs = run ++ rest ∧ Expands glob rest := by
  constructor
  · intro hExpands
    cases hExpands with
    | star run hRest => exact ⟨run, _, rfl, hRest⟩
    | same hOther hRest => exact absurd rfl hOther
  · rintro ⟨run, rest, rfl, hRest⟩
    exact Expands.star run hRest

/- Any other character stands for itself. -/
theorem same_iff
    {c : Char}
    (hOther : c ≠ '*') :
    Expands (c :: glob) cs ↔
      ∃ rest, cs = c :: rest ∧ Expands glob rest := by
  constructor
  · intro hExpands
    cases hExpands with
    | star run hRest => exact absurd rfl hOther
    | same _ hRest => exact ⟨_, rfl, hRest⟩
  · rintro ⟨rest, rfl, hRest⟩
    exact Expands.same hOther hRest

/- Behind a star at the end anything may be added. -/
theorem concat
    (hExpands : Expands glob cs)
    (hStar : glob.getLast? = some '*')
    (c : Char) :
    Expands glob (cs ++ [c]) := by
  induction hExpands with
  | nil => cases hStar
  | @star glob cs run hRest ih =>
      cases glob with
      | nil =>
          rw [nil_iff.mp hRest, List.append_nil,
            ← List.append_nil (run ++ [c])]
          exact Expands.star (run ++ [c]) Expands.nil
      | cons g glob =>
          rw [List.getLast?_cons_cons] at hStar
          rw [List.append_assoc]
          exact Expands.star run (ih hStar)
  | @same glob cs b hOther hRest ih =>
      cases glob with
      | nil => exact absurd (Option.some.inj hStar) hOther
      | cons g glob =>
          rw [List.getLast?_cons_cons] at hStar
          exact Expands.same hOther (ih hStar)

end Expands

end Glob

end TraceMining

------------------------------------------------------------
-- Tokens
------------------------------------------------------------

namespace TraceMining

namespace Glob

/- Two runs in a row are one run. -/
theorem anySuffix_anySuffix
    (test : List Char → Bool)
    (cs : List Char) :
    anySuffix (anySuffix test) cs = anySuffix test cs := by
  rw [Bool.eq_iff_iff, anySuffix_iff, anySuffix_iff]
  constructor
  · rintro ⟨first, rest, rfl, hSuffix⟩
    rcases (anySuffix_iff test rest).mp hSuffix with
      ⟨second, last, rfl, hTest⟩
    exact ⟨first ++ second, last,
      (List.append_assoc _ _ _).symm, hTest⟩
  · rintro ⟨run, rest, rfl, hTest⟩
    exact ⟨run, rest, rfl,
      (anySuffix_iff test rest).mpr ⟨[], rest, rfl, hTest⟩⟩

/- A star is fitted by any run, joined to others or not. -/
theorem fits_tokens_star
    (glob cs : List Char) :
    fits (tokens ('*' :: glob)) cs =
      anySuffix (fits (tokens glob)) cs := by
  rw [tokens, if_pos rfl]
  split
  · rename_i ts hTokens
    have hStar : fits (.star :: ts) = anySuffix (fits ts) :=
      funext fun _ => rfl
    rw [hTokens, hStar, anySuffix_anySuffix]
  · rfl

/- A literal is fitted character by character. -/
theorem fits_literal_cons
    (c : Char)
    (l : List Char)
    (ts : List Token)
    (cs : List Char) :
    fits (.literal (c :: l) :: ts) cs = true ↔
      ∃ rest, cs = c :: rest ∧
        fits (.literal l :: ts) rest = true := by
  cases cs with
  | nil => simp [fits]
  | cons b cs =>
      simp only [fits, List.isPrefixOf_cons_cons,
        List.length_cons, List.drop_succ_cons, Bool.and_assoc,
        Bool.and_eq_true, beq_iff_eq, List.cons.injEq]
      constructor
      · rintro ⟨rfl, hRest⟩
        exact ⟨cs, ⟨rfl, rfl⟩, hRest⟩
      · rintro ⟨rest, ⟨rfl, rfl⟩, hRest⟩
        exact ⟨rfl, hRest⟩

/- It makes no difference whether it is joined to another. -/
theorem fits_tokens_same
    {c : Char}
    (hOther : c ≠ '*')
    (glob cs : List Char) :
    fits (tokens (c :: glob)) cs = true ↔
      ∃ rest, cs = c :: rest ∧
        fits (tokens glob) rest = true := by
  rw [tokens, if_neg hOther]
  split
  · rename_i l ts hTokens
    rw [hTokens]
    exact fits_literal_cons c l ts cs
  · rw [fits_literal_cons]
    rfl

/- The tokens of a glob are fitted by its expansions. -/
theorem fits_tokens_iff
    (glob cs : List Char) :
    fits (tokens glob) cs = true ↔ Expands glob cs := by
  induction glob generalizing cs with
  | nil =>
      rw [Expands.nil_iff]
      exact List.isEmpty_iff
  | cons c glob ih =>
      by_cases hStar : c = '*'
      · rw [hStar, fits_tokens_star, anySuffix_iff,
          Expands.star_iff]
        simp only [ih]
      · rw [fits_tokens_same hStar, Expands.same_iff hStar]
        simp only [ih]

end Glob

end TraceMining

------------------------------------------------------------
-- Values
------------------------------------------------------------

namespace TraceMining

namespace Glob

/- A value is an expansion, or one with a line feed behind. -/
theorem accepts_iff
    (glob value : String) :
    accepts glob value = true ↔
      Expands glob.toList value.toList ∨
        ∃ w, value.toList = w ++ ['\n'] ∧
          Expands glob.toList w := by
  simp only [accepts, Bool.or_eq_true, Bool.and_eq_true,
    beq_iff_eq, fits_tokens_iff, List.getLast?_eq_some_iff]
  apply or_congr_right
  constructor
  · rintro ⟨⟨w, hEnd⟩, hExpands⟩
    rw [hEnd, List.dropLast_concat] at hExpands
    exact ⟨w, hEnd, hExpands⟩
  · rintro ⟨w, hEnd, hExpands⟩
    refine ⟨⟨w, hEnd⟩, ?_⟩
    rw [hEnd, List.dropLast_concat]
    exact hExpands

/-
  A glob accepts just its expansions, unless the value is an
  expansion with a line feed behind and is not itself one; it
  then is accepted all the same.  This does not happen to a
  value without a line feed at its end, nor to a glob that
  ends in a star.
-/
theorem accepts_iff_expands
    (glob value : String) :
    ((accepts glob value = true ↔
        Expands glob.toList value.toList) ↔
      ∀ w,
        value.toList = w ++ ['\n'] →
        Expands glob.toList w →
        Expands glob.toList value.toList) ∧
    (accepts glob value = true ↔
      Expands glob.toList value.toList ∨
        ∃ w, value.toList = w ++ ['\n'] ∧
          Expands glob.toList w) ∧
    (value.toList.getLast? ≠ some '\n' ∨
        glob.toList.getLast? = some '*' →
      (accepts glob value = true ↔
        Expands glob.toList value.toList)) := by
  have hExactly :
      (accepts glob value = true ↔
          Expands glob.toList value.toList) ↔
        ∀ w,
          value.toList = w ++ ['\n'] →
          Expands glob.toList w →
          Expands glob.toList value.toList := by
    rw [accepts_iff, or_iff_left_iff_imp]
    constructor
    · intro hOther w hEnd hExpands
      exact hOther ⟨w, hEnd, hExpands⟩
    · rintro hOther ⟨w, hEnd, hExpands⟩
      exact hOther w hEnd hExpands
  refine ⟨hExactly, accepts_iff glob value, ?_⟩
  rw [hExactly]
  rintro (hNoLine | hStar) w hEnd hExpands
  · rw [hEnd, List.getLast?_concat] at hNoLine
    exact absurd rfl hNoLine
  · rw [hEnd]
    exact hExpands.concat hStar '\n'

/- Without a star, a value with a line feed more is accepted. -/
theorem not_accepts_iff_expands_lineFeed :
    ¬ (accepts "a" "a\n" = true ↔
      Expands "a".toList "a\n".toList) := by
  have hAccepted : accepts "a" "a\n" = true := by decide
  rw [iff_true_left hAccepted]
  have hGlob : "a".toList = ['a'] := by decide
  have hValue : "a\n".toList = ['a', '\n'] := by decide
  rw [hGlob, hValue, Expands.same_iff (by decide)]
  rintro ⟨rest, hValue, hRest⟩
  rw [Expands.nil_iff.mp hRest] at hValue
  cases hValue

end Glob

end TraceMining
