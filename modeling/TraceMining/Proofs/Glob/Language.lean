import TraceMining.Proofs.Glob
import TraceMining.Proofs.Glob.Expression

/-
  This file compares three ways to match a glob: token by
  token, as an expression that is written for it, and directly
  by characters.  The expression is read as the parts that the
  tokens stand for, whatever characters the glob has, and they
  match just the values that the glob accepts; these are the
  values that match directly, and those with a line feed more.

  Key definitions include:
    * `Glob.expression`
    * `Glob.wild`

  Key theorems include:
    * `Glob.read?_expression`
    * `Glob.matchesAt_expression`
    * `Glob.wild_iff`
    * `Glob.accepts_iff_wild`
-/

------------------------------------------------------------
-- Writing
------------------------------------------------------------

namespace TraceMining

namespace Glob

/- A token in an expression. -/
def Token.written :
    Token → List Char
  | .star => ['.', '*']
  | .literal cs => cs.flatMap Expression.escaped

/- The expression of a glob, from front to end. -/
def expression
    (glob : List Char) : List Char :=
  '^' :: ((tokens glob).flatMap Token.written ++ ['$'])

/- The signs of a token. -/
def Token.symbols :
    Token → List Expression.Symbol
  | .star => [.one .any, .star]
  | .literal cs => cs.map fun c => .one (.same c)

/- The parts that a token stands for. -/
def Token.parts :
    Token → List Expression.Part
  | .star => [.many .any]
  | .literal cs => cs.map fun c => .once (.same c)

/- The parts that a glob stands for. -/
def parts
    (glob : List Char) : List Expression.Part :=
  .front :: ((tokens glob).flatMap Token.parts ++ [.back])

end Glob

end TraceMining

------------------------------------------------------------
-- Reading
------------------------------------------------------------

namespace TraceMining

namespace Glob

open Expression

/- The signs of a literal are its characters. -/
theorem symbols?_literal
    (l cs : List Char) :
    symbols? (l.flatMap escaped ++ cs) =
      (symbols? cs).map
        (l.map (fun c => .one (.same c)) ++ ·) := by
  induction l with
  | nil => simp
  | cons c l ih =>
      rw [List.flatMap_cons, List.append_assoc,
        symbols?_escaped, ih, Option.map_map]
      rfl

/- What is written for tokens has their signs. -/
theorem symbols?_tokens
    (ts : List Token)
    (cs : List Char) :
    symbols? (ts.flatMap Token.written ++ cs) =
      (symbols? cs).map (ts.flatMap Token.symbols ++ ·) := by
  induction ts with
  | nil => simp
  | cons t ts ih =>
      rw [List.flatMap_cons, List.append_assoc]
      cases t with
      | star =>
          have hStar :
              symbols? (['.', '*'] ++
                  (ts.flatMap Token.written ++ cs)) =
                (symbols? (ts.flatMap Token.written ++
                  cs)).map ([.one .any, .star] ++ ·) := by
            simp [symbols?, Symbol.ofChar?, Function.comp_def]
          rw [Token.written, hStar, ih, Option.map_map]
          rfl
      | literal l =>
          rw [Token.written, symbols?_literal, ih,
            Option.map_map]
          simp [Function.comp_def, Token.symbols]

/- No star comes first among the signs of tokens. -/
theorem head?_symbols_ne_star
    (ts : List Token) :
    (ts.flatMap Token.symbols ++ [Symbol.back]).head? ≠
      some .star := by
  induction ts with
  | nil => simp
  | cons t ts ih =>
      cases t with
      | star => simp [Token.symbols]
      | literal l =>
          cases l with
          | nil => simpa [Token.symbols] using ih
          | cons c l => simp [Token.symbols]

/- So a literal before them is not repeated. -/
theorem parts?_literal
    (l : List Char)
    {ss : List Symbol}
    (hHead : ss.head? ≠ some .star) :
    parts? (l.map (fun c => .one (.same c)) ++ ss) =
      (parts? ss).map
        (l.map (fun c => .once (.same c)) ++ ·) := by
  induction l with
  | nil => simp
  | cons c l ih =>
      have hNext :
          (l.map (fun c => Symbol.one (.same c)) ++ ss).head? ≠
            some .star := by
        cases l with
        | nil => exact hHead
        | cons d l => simp
      rw [List.map_cons, List.cons_append, parts?, ih,
        Option.map_map]
      · rfl
      · intro rest hStar
        rw [hStar] at hNext
        exact hNext rfl

/- The signs of tokens make up their parts. -/
theorem parts?_tokens
    (ts : List Token) :
    parts? (ts.flatMap Token.symbols ++ [.back]) =
      some (ts.flatMap Token.parts ++ [.back]) := by
  induction ts with
  | nil => rfl
  | cons t ts ih =>
      rw [List.flatMap_cons, List.flatMap_cons,
        List.append_assoc, List.append_assoc]
      cases t with
      | star => simp [Token.symbols, Token.parts, parts?, ih]
      | literal l =>
          rw [Token.symbols,
            parts?_literal l (head?_symbols_ne_star ts), ih]
          simp [Token.parts]

/- The expression of a glob is read as its parts. -/
theorem read?_expression
    (glob : List Char) :
    read? (expression glob) = some (parts glob) := by
  have hSymbols :
      symbols? (expression glob) =
        some (.front ::
          ((tokens glob).flatMap Token.symbols ++
            [.back])) := by
    have hEnd : symbols? ['$'] = some [.back] := by
      simp [symbols?, Symbol.ofChar?]
    unfold expression
    simp [symbols?, Symbol.ofChar?, symbols?_tokens, hEnd]
  unfold read? parts
  rw [hSymbols, Option.bind_some, parts?, parts?_tokens]
  rfl

end Glob

end TraceMining

------------------------------------------------------------
-- Matching
------------------------------------------------------------

namespace TraceMining

namespace Glob

open Expression

/- A literal is fitted by what begins with it. -/
theorem fits_literal_iff
    (l : List Char)
    (ts : List Token)
    (cs : List Char) :
    fits (.literal l :: ts) cs = true ↔
      ∃ rest, cs = l ++ rest ∧ fits ts rest = true := by
  rw [fits, Bool.and_eq_true, List.isPrefixOf_iff_prefix]
  constructor
  · intro hFits
    rcases hFits with ⟨⟨rest, rfl⟩, hRest⟩
    rw [List.drop_left] at hRest
    exact ⟨rest, rfl, hRest⟩
  · intro hSplit
    rcases hSplit with ⟨rest, rfl, hRest⟩
    rw [List.drop_left]
    exact ⟨List.prefix_append l rest, hRest⟩

/-
  The parts of tokens match where the tokens fit the text up
  to its end, or up to a line feed at its end.
-/
theorem matchesAt_tokens_iff
    (ts : List Token)
    (i : Nat)
    (cs : List Char) :
    matchesAt (ts.flatMap Token.parts ++ [.back]) i cs = true ↔
      ∃ used rest, cs = used ++ rest ∧
        fits ts used = true ∧ (rest = [] ∨ rest = ['\n']) := by
  induction ts generalizing i cs with
  | nil =>
      simp [matchesAt, fits]
  | cons t ts ih =>
      rw [List.flatMap_cons, List.append_assoc]
      cases t with
      | star =>
          simp only [Token.parts, List.cons_append,
            List.nil_append, matchesAt, runs_any_iff, ih,
            fits, anySuffix_iff]
          constructor
          · intro hRun
            rcases hRun with
              ⟨run, behind, rfl, used, rest, rfl, hUsed⟩
            exact ⟨run ++ used, rest,
              (List.append_assoc run used rest).symm,
              ⟨run, used, rfl, hUsed.1⟩, hUsed.2⟩
          · intro hFits
            rcases hFits with
              ⟨_, rest, rfl, ⟨run, used, rfl, hUsed⟩, hRest⟩
            exact ⟨run, used ++ rest,
              List.append_assoc run used rest,
              used, rest, rfl, hUsed, hRest⟩
      | literal l =>
          simp only [Token.parts, matchesAt_literal_iff, ih,
            fits_literal_iff]
          constructor
          · intro hSplit
            rcases hSplit with
              ⟨behind, rfl, used, rest, rfl, hUsed⟩
            exact ⟨l ++ used, rest,
              (List.append_assoc l used rest).symm,
              ⟨used, rfl, hUsed.1⟩, hUsed.2⟩
          · intro hFits
            rcases hFits with
              ⟨_, rest, rfl, ⟨used, rfl, hUsed⟩, hRest⟩
            exact ⟨used ++ rest,
              List.append_assoc l used rest,
              used, rest, rfl, hUsed, hRest⟩

/- The expression of a glob matches what the glob accepts. -/
theorem matchesAt_expression
    (glob value : String) :
    matchesAt (parts glob.toList) 0 value.toList =
      accepts glob value := by
  rw [Bool.eq_iff_iff, parts, matchesAt, accepts_iff]
  simp only [beq_self_eq_true, Bool.true_and,
    matchesAt_tokens_iff, fits_tokens_iff]
  constructor
  · intro hMatch
    rcases hMatch with ⟨used, rest, hSplit, hUsed, hEnd⟩
    rcases hEnd with rfl | rfl
    · rw [List.append_nil] at hSplit
      exact Or.inl (hSplit ▸ hUsed)
    · exact Or.inr ⟨used, hSplit, hUsed⟩
  · intro hAccepted
    rcases hAccepted with hWhole | ⟨w, hSplit, hLess⟩
    · exact ⟨value.toList, [], (List.append_nil _).symm,
        hWhole, Or.inl rfl⟩
    · exact ⟨w, ['\n'], hSplit, hLess, Or.inr rfl⟩

end Glob

end TraceMining

------------------------------------------------------------
-- Wildcards
------------------------------------------------------------

namespace TraceMining

namespace Glob

/-
  Match a text by characters: a star takes nothing, or one
  character more, and any other character takes itself.
-/
def wild :
    List Char → List Char → Bool
  | [], cs => cs.isEmpty
  | '*' :: glob, [] => wild glob []
  | '*' :: glob, c :: cs =>
      wild glob (c :: cs) || wild ('*' :: glob) cs
  | _ :: _, [] => false
  | g :: glob, c :: cs => g == c && wild glob cs
termination_by glob cs => glob.length + cs.length

/- A star in front of a text takes nothing or its front. -/
theorem Expands.star_cons_iff
    {glob cs : List Char}
    {c : Char} :
    Expands ('*' :: glob) (c :: cs) ↔
      Expands glob (c :: cs) ∨ Expands ('*' :: glob) cs := by
  rw [star_iff, star_iff]
  constructor
  · intro hStar
    rcases hStar with ⟨run, rest, hSplit, hRest⟩
    cases run with
    | nil =>
        rw [List.nil_append] at hSplit
        exact Or.inl (hSplit ▸ hRest)
    | cons b run =>
        rw [List.cons_append, List.cons.injEq] at hSplit
        exact Or.inr ⟨run, rest, hSplit.2, hRest⟩
  · intro hEither
    rcases hEither with hNone | ⟨run, rest, rfl, hRest⟩
    · exact ⟨[], c :: cs, rfl, hNone⟩
    · exact ⟨c :: run, rest, rfl, hRest⟩

/- What matches by characters is what a glob expands to. -/
theorem wild_iff
    (glob cs : List Char) :
    wild glob cs = true ↔ Expands glob cs := by
  fun_induction wild glob cs with
  | case1 cs => rw [Expands.nil_iff, List.isEmpty_iff]
  | case2 glob ih =>
      rw [ih, Expands.star_iff]
      constructor
      · intro hRest
        exact ⟨[], [], rfl, hRest⟩
      · intro hStar
        rcases hStar with ⟨run, rest, hSplit, hRest⟩
        rw [(List.append_eq_nil_iff.mp hSplit.symm).2] at hRest
        exact hRest
  | case3 glob c cs ihNone ihMore =>
      rw [Bool.or_eq_true, ihNone, ihMore,
        Expands.star_cons_iff]
  | case4 g glob hOther =>
      rw [Expands.same_iff hOther]
      simp
  | case5 g glob c cs hOther ih =>
      rw [Expands.same_iff hOther, Bool.and_eq_true, ih]
      simp only [beq_iff_eq, List.cons.injEq]
      constructor
      · intro hSame
        exact ⟨cs, ⟨hSame.1.symm, rfl⟩, hSame.2⟩
      · intro hRest
        rcases hRest with ⟨rest, ⟨rfl, rfl⟩, hRest⟩
        exact ⟨rfl, hRest⟩

end Glob

end TraceMining

------------------------------------------------------------
-- Language
------------------------------------------------------------

namespace TraceMining

namespace Glob

/-
  A glob accepts the values that match it by characters, and
  those with one line feed more; and it is these that the
  expression of the glob matches, which is one for every glob.
-/
theorem accepts_iff_wild
    (glob value : String) :
    (accepts glob value = true ↔
      wild glob.toList value.toList = true ∨
        ∃ w, value = w ++ "\n" ∧
          wild glob.toList w.toList = true) ∧
    ∃ ps,
      Expression.read? (expression glob.toList) = some ps ∧
        Expression.matchesAt ps 0 value.toList =
          accepts glob value := by
  refine ⟨?_, parts glob.toList,
    read?_expression glob.toList,
    matchesAt_expression glob value⟩
  simp only [accepts_iff, wild_iff]
  apply or_congr_right
  constructor
  · intro hMore
    rcases hMore with ⟨w, hEnd, hExpands⟩
    refine ⟨String.ofList w, ?_, ?_⟩
    · apply String.toList_inj.mp
      simpa using hEnd
    · simpa using hExpands
  · intro hMore
    rcases hMore with ⟨w, rfl, hExpands⟩
    exact ⟨w.toList, by simp, hExpands⟩

end Glob

end TraceMining
