import Mathlib.Data.List.Chain
import TraceMining.Proofs.Glob

/-
  This file shows what the tokens of a glob are.  Stars and
  texts without a star take turns, and put together they are
  the glob with one star for each run of stars.  A list of
  this form is the tokens of its own text; so to put tokens
  together and cut them again changes nothing, and a glob
  means the same with its runs of stars made short.  The
  tokens come about as well by reading the glob once from the
  left, with the text that may still go on kept apart.

  Key definitions include:
    * `Glob.Cutting`
    * `Glob.cut`
    * `Glob.Token.chars`
    * `Glob.joined`
    * `Glob.Token.IsProper`
    * `Glob.TakesTurns`
    * `Glob.Collapses`
    * `Glob.shortened`

  Key theorems include:
    * `Glob.Cutting.Pends.flushed_foldl`
    * `Glob.cut_eq_tokens`
    * `Glob.takesTurns_tokens`
    * `Glob.TakesTurns.tokens_joined`
    * `Glob.collapses_iff`
    * `Glob.tokens_normal`
-/

------------------------------------------------------------
-- Cutting
------------------------------------------------------------

namespace TraceMining

namespace Glob

variable {cs : List Char}

/- There is a star in front of the tokens if of the glob. -/
theorem head?_tokens_eq_star_iff :
    (tokens cs).head? = some .star ↔ cs.head? = some '*' := by
  cases cs with
  | nil => simp [tokens]
  | cons c cs =>
      unfold tokens
      by_cases hStar : c = '*'
      · rw [if_pos hStar]
        split
        all_goals simp [hStar]
      · rw [if_neg hStar]
        split
        all_goals simp [hStar]

/- A star that none follows is a token of its own. -/
theorem tokens_star
    (hEnd : cs.head? ≠ some '*') :
    tokens ('*' :: cs) = .star :: tokens cs := by
  have hOther : (tokens cs).head? ≠ some .star :=
    mt head?_tokens_eq_star_iff.mp hEnd
  rw [tokens, if_pos rfl]
  split
  · rename_i ts hTokens
    rw [hTokens] at hOther
    exact absurd rfl hOther
  · rfl

/- A star that another follows adds nothing. -/
theorem tokens_star_star
    (cs : List Char) :
    tokens ('*' :: '*' :: cs) = tokens ('*' :: cs) := by
  have hStar : (tokens ('*' :: cs)).head? = some .star :=
    head?_tokens_eq_star_iff.mpr rfl
  rw [tokens, if_pos rfl]
  split
  · rename_i ts hTokens
    exact hTokens.symm
  · rename_i hNone
    rcases List.head?_eq_some_iff.mp hStar with ⟨ts, hTokens⟩
    exact absurd hTokens (hNone ts)

/- Stars in a row are one token. -/
theorem tokens_stars
    (n : Nat)
    (hEnd : cs.head? ≠ some '*') :
    tokens (List.replicate (n + 1) '*' ++ cs) =
      .star :: tokens cs := by
  induction n with
  | zero => exact tokens_star hEnd
  | succ n ih =>
      rw [List.replicate_succ, List.replicate_succ] at *
      exact (tokens_star_star _).trans ih

/- A literal goes on with the character before it. -/
theorem tokens_same_of_literal
    {c : Char}
    (hOther : c ≠ '*')
    {l : List Char}
    {ts : List Token}
    (hTokens : tokens cs = .literal l :: ts) :
    tokens (c :: cs) = .literal (c :: l) :: ts := by
  rw [tokens, if_neg hOther, hTokens]

/- A character before a star, or the last one, ends one. -/
theorem tokens_same_of_end
    {c : Char}
    (hOther : c ≠ '*')
    (hEnd : ∀ d, cs.head? = some d → d = '*') :
    tokens (c :: cs) = .literal [c] :: tokens cs := by
  have hNext : ∀ l ts, tokens cs ≠ .literal l :: ts := by
    intro l ts hTokens
    cases cs with
    | nil => cases hTokens
    | cons d cs =>
        obtain rfl := hEnd d rfl
        have hStar :
            (tokens ('*' :: cs)).head? = some .star :=
          head?_tokens_eq_star_iff.mpr rfl
        rw [hTokens] at hStar
        cases hStar
  rw [tokens, if_neg hOther]
  split
  · rename_i l ts hTokens
    exact absurd hTokens (hNext l ts)
  · rfl

/- Text without a star is one token, up to the next star. -/
theorem tokens_literal
    {l : List Char}
    (hSome : l ≠ [])
    (hNoStar : '*' ∉ l)
    (hEnd : ∀ d, cs.head? = some d → d = '*') :
    tokens (l ++ cs) = .literal l :: tokens cs := by
  induction l with
  | nil => exact absurd rfl hSome
  | cons c l ih =>
      rcases List.ne_and_not_mem_of_not_mem_cons hNoStar with
        ⟨hFirst, hRest⟩
      by_cases hMore : l = []
      · rw [hMore]
        exact tokens_same_of_end hFirst.symm hEnd
      · exact tokens_same_of_literal hFirst.symm
          (ih hMore hRest)

end Glob

end TraceMining

------------------------------------------------------------
-- Reading from the Left
------------------------------------------------------------

namespace TraceMining

namespace Glob

/- The tokens that are done, and the text that may go on. -/
structure Cutting where
  done : List Token
  text : List Char

namespace Cutting

/- Text that does not go on is a token, if there is some. -/
def flushed
    (s : Cutting) : List Token :=
  if s.text = [] then s.done
  else s.done ++ [.literal s.text]

/-
  A star ends the text and is a token, unless the last token
  is a star; any other character goes on with the text.
-/
def step
    (s : Cutting)
    (c : Char) : Cutting :=
  if c = '*' then
    { done :=
        if s.flushed.getLast? = some .star then s.flushed
        else s.flushed ++ [.star]
      text := [] }
  else { s with text := s.text ++ [c] }

/-
  What was read comes to some tokens for good, and to some
  characters on which what follows may bear: a star that may
  be repeated, or text.
-/
inductive Pends :
    Cutting → List Token → List Char → Prop where
  | start : Pends ⟨[], []⟩ [] []
  | star
      (ts : List Token) :
      Pends ⟨ts ++ [.star], []⟩ ts ['*']
  | text
      (ts : List Token)
      {l : List Char}
      (hSome : l ≠ [])
      (hNoStar : '*' ∉ l) :
      Pends ⟨ts, l⟩ ts l

variable {s : Cutting}
variable {ts : List Token}
variable {l : List Char}

/- A star leaves a star that may be repeated. -/
theorem Pends.step_star
    (hPends : s.Pends ts l) :
    ∃ us,
      (s.step '*').Pends us ['*'] ∧
        ∀ cs,
          us ++ tokens ('*' :: cs) =
            ts ++ tokens (l ++ '*' :: cs) := by
  cases hPends with
  | start => exact ⟨[], .star [], fun _ => rfl⟩
  | star =>
      have hStep :
          (Cutting.mk (ts ++ [.star]) []).step '*' =
            ⟨ts ++ [.star], []⟩ := by
        simp [step, flushed]
      rw [hStep]
      refine ⟨ts, .star ts, fun cs => ?_⟩
      rw [List.singleton_append, tokens_star_star]
  | text _ hSome hNoStar =>
      have hStep :
          (Cutting.mk ts l).step '*' =
            ⟨(ts ++ [.literal l]) ++ [.star], []⟩ := by
        simp [step, flushed, hSome]
      rw [hStep]
      refine ⟨ts ++ [.literal l], .star _, fun cs => ?_⟩
      rw [tokens_literal hSome hNoStar (by simp)]
      simp

/- Any other character leaves text that ends in it. -/
theorem Pends.step_other
    (hPends : s.Pends ts l)
    {c : Char}
    (hOther : c ≠ '*') :
    ∃ us m,
      (s.step c).Pends us m ∧
        ∀ cs,
          us ++ tokens (m ++ cs) =
            ts ++ tokens (l ++ c :: cs) := by
  have hAlone : '*' ∉ [c] :=
    fun hStar => hOther (List.mem_singleton.mp hStar).symm
  rw [step, if_neg hOther]
  cases hPends with
  | start =>
      exact ⟨[], [c], .text [] (by simp) hAlone, fun _ => rfl⟩
  | star =>
      refine
        ⟨ts ++ [.star], [c], .text _ (by simp) hAlone,
          fun cs => ?_⟩
      rw [List.singleton_append, List.singleton_append,
        tokens_star (by simpa using hOther)]
      simp
  | text _ hSome hNoStar =>
      have hMore : '*' ∉ l ++ [c] := by
        rw [List.mem_append]
        exact fun hStar => hStar.elim hNoStar hAlone
      refine
        ⟨ts, l ++ [c], .text ts (by simp) hMore,
          fun cs => ?_⟩
      rw [List.append_assoc, List.singleton_append]

/- In the end both come to tokens, with what was read. -/
theorem Pends.flushed_foldl
    (hPends : s.Pends ts l)
    (cs : List Char) :
    (cs.foldl step s).flushed = ts ++ tokens (l ++ cs) := by
  induction cs generalizing s ts l with
  | nil =>
      cases hPends with
      | start => rfl
      | star => rfl
      | text _ hSome hNoStar =>
          rw [tokens_literal hSome hNoStar (by simp)]
          simp [flushed, hSome, tokens]
  | cons c cs ih =>
      rw [List.foldl_cons]
      by_cases hStar : c = '*'
      · rw [hStar]
        rcases hPends.step_star with ⟨us, hNext, hSame⟩
        rw [ih hNext, List.singleton_append, hSame]
      · rcases hPends.step_other hStar with
          ⟨us, m, hNext, hSame⟩
        rw [ih hNext, hSame]

end Cutting

/- The tokens of a glob that is read once from the left. -/
def cut
    (cs : List Char) : List Token :=
  (cs.foldl Cutting.step ⟨[], []⟩).flushed

/- They are its tokens. -/
theorem cut_eq_tokens
    (cs : List Char) :
    cut cs = tokens cs :=
  Cutting.Pends.start.flushed_foldl cs

end Glob

end TraceMining

------------------------------------------------------------
-- Normal Form
------------------------------------------------------------

namespace TraceMining

namespace Glob

/- The characters that a token is written with. -/
def Token.chars :
    Token → List Char
  | .star => ['*']
  | .literal cs => cs

/- Tokens put together again. -/
def joined
    (ts : List Token) : List Char :=
  ts.flatMap Token.chars

/- A star, or some text without one. -/
inductive Token.IsProper :
    Token → Prop where
  | star : IsProper .star
  | literal
      {cs : List Char}
      (hSome : cs ≠ [])
      (hNoStar : '*' ∉ cs) :
      IsProper (.literal cs)

/- Proper tokens, of which every other one is a star. -/
structure TakesTurns
    (ts : List Token) : Prop where
  proper : ∀ t ∈ ts, t.IsProper
  turns : ts.IsChain fun t u => t = .star ↔ u ≠ .star

variable {ts : List Token}

/- What comes behind tokens that take turns takes turns. -/
theorem TakesTurns.tail
    {t : Token}
    (hTurns : TakesTurns (t :: ts)) :
    TakesTurns ts :=
  ⟨(List.forall_mem_cons.mp hTurns.proper).2,
    hTurns.turns.tail⟩

/- A token in front takes turns with the one behind it. -/
theorem TakesTurns.cons
    {t : Token}
    (hTurns : TakesTurns ts)
    (hProper : t.IsProper)
    (hNext :
      ∀ u, ts.head? = some u → (t = .star ↔ u ≠ .star)) :
    TakesTurns (t :: ts) := by
  refine ⟨List.forall_mem_cons.mpr ⟨hProper, hTurns.proper⟩, ?_⟩
  rw [List.isChain_cons]
  exact ⟨hNext, hTurns.turns⟩

/- One more character in front leaves the tokens in turn. -/
theorem TakesTurns.tokens_cons
    {cs : List Char}
    (hTurns : TakesTurns (tokens cs))
    (c : Char) :
    TakesTurns (tokens (c :: cs)) := by
  by_cases hStar : c = '*'
  · rw [hStar]
    by_cases hMore : cs.head? = some '*'
    · rcases List.head?_eq_some_iff.mp hMore with ⟨rest, rfl⟩
      rw [tokens_star_star]
      exact hTurns
    · rw [tokens_star hMore]
      apply hTurns.cons .star
      intro u hFirst
      have hOther : u ≠ .star := by
        rintro rfl
        exact hMore (head?_tokens_eq_star_iff.mp hFirst)
      simp [hOther]
  · have hProper :
        ∀ l, '*' ∉ l → (Token.literal (c :: l)).IsProper := by
      intro l hNoStar
      apply Token.IsProper.literal (List.cons_ne_nil c l)
      simp [Ne.symm hStar, hNoStar]
    rw [tokens, if_neg hStar]
    -- It goes on with a literal, or else starts one.
    split
    · rename_i l ts hTokens
      rw [hTokens] at hTurns
      rcases List.forall_mem_cons.mp hTurns.proper with
        ⟨hLiteral, _⟩
      cases hLiteral with
      | literal hSome hNoStar =>
          apply hTurns.tail.cons (hProper l hNoStar)
          intro u hFirst
          simpa using (List.isChain_cons.mp hTurns.turns).1
            u hFirst
    · rename_i hNone
      apply hTurns.cons (hProper [] List.not_mem_nil)
      intro u hFirst
      cases u with
      | star => simp
      | literal l =>
          rcases List.head?_eq_some_iff.mp hFirst with
            ⟨ts, hTokens⟩
          exact absurd hTokens (hNone l ts)

/- So the tokens of every glob take turns. -/
theorem takesTurns_tokens
    (cs : List Char) :
    TakesTurns (tokens cs) := by
  induction cs with
  | nil => exact ⟨nofun, List.isChain_nil⟩
  | cons c cs ih => exact ih.tokens_cons c

/- Put together, they begin as the first of them does. -/
theorem TakesTurns.head?_joined
    (hTurns : TakesTurns ts) :
    (joined ts).head? = some '*' ↔ ts.head? = some .star := by
  cases ts with
  | nil => simp [joined]
  | cons t ts =>
      rcases List.forall_mem_cons.mp hTurns.proper with
        ⟨hFirst, _⟩
      cases hFirst with
      | star => simp [joined, Token.chars]
      | @literal l hSome hNoStar =>
          cases l with
          | nil => exact absurd rfl hSome
          | cons c l =>
              have hOther : c ≠ '*' := fun hSame =>
                hNoStar (hSame ▸ List.mem_cons_self)
              simp [joined, Token.chars, hOther]

/- Tokens that take turns are those of their own text. -/
theorem TakesTurns.tokens_joined
    (hTurns : TakesTurns ts) :
    tokens (joined ts) = ts := by
  induction ts with
  | nil => rfl
  | cons t ts ih =>
      have hRest := ih hTurns.tail
      have hNext := (List.isChain_cons.mp hTurns.turns).1
      have hBegin := hTurns.tail.head?_joined
      have hFirst := hTurns.proper t List.mem_cons_self
      have hJoined : joined (t :: ts) = t.chars ++ joined ts :=
        List.flatMap_cons
      rw [hJoined]
      cases hFirst with
      | star =>
          have hEnd : (joined ts).head? ≠ some '*' := by
            rw [Ne, hBegin]
            intro hStar
            simpa using hNext .star hStar
          rw [Token.chars, List.singleton_append,
            tokens_star hEnd, hRest]
      | literal hSome hNoStar =>
          -- Only a star can follow, or nothing at all.
          have hEnd :
              ∀ d, (joined ts).head? = some d → d = '*' := by
            intro d hHead
            cases ts with
            | nil => simp [joined] at hHead
            | cons u ts =>
                have hStar : u = .star := by
                  simpa using hNext u rfl
                rw [hStar] at hHead
                simpa [joined, Token.chars] using hHead.symm
          rw [Token.chars, tokens_literal hSome hNoStar hEnd,
            hRest]

end Glob

end TraceMining

------------------------------------------------------------
-- Runs of Stars
------------------------------------------------------------

namespace TraceMining

namespace Glob

/-
  A text comes from a glob by putting one star in the place of
  each run of stars, which no star follows, and keeping
  everything else.
-/
inductive Collapses :
    List Char → List Char → Prop where
  | nil : Collapses [] []
  | stars
      {glob cs : List Char}
      (n : Nat)
      (hEnd : glob.head? ≠ some '*')
      (hRest : Collapses glob cs) :
      Collapses (List.replicate (n + 1) '*' ++ glob)
        ('*' :: cs)
  | same
      {glob cs : List Char}
      {c : Char}
      (hOther : c ≠ '*')
      (hRest : Collapses glob cs) :
      Collapses (c :: glob) (c :: cs)

variable {glob cs : List Char}

/- Any other character is kept in its place. -/
theorem joined_tokens_same
    {c : Char}
    (hOther : c ≠ '*')
    (glob : List Char) :
    joined (tokens (c :: glob)) =
      c :: joined (tokens glob) := by
  rw [tokens, if_neg hOther]
  split
  · rename_i l ts hTokens
    rw [hTokens]
    rfl
  · rfl

/- One more star in a run changes nothing. -/
theorem Collapses.star_star
    (hCollapses : Collapses ('*' :: glob) cs) :
    Collapses ('*' :: '*' :: glob) cs := by
  generalize hGlob : '*' :: glob = stars at hCollapses
  cases hCollapses with
  | nil => cases hGlob
  | stars n hEnd hRest => exact .stars (n + 1) hEnd hRest
  | same hOther hRest =>
      exact absurd (List.cons.inj hGlob).1.symm hOther

/- The tokens of a glob come to the glob with short runs. -/
theorem collapses_joined_tokens
    (glob : List Char) :
    Collapses glob (joined (tokens glob)) := by
  induction glob with
  | nil => exact .nil
  | cons c glob ih =>
      by_cases hStar : c = '*'
      · rw [hStar]
        by_cases hMore : glob.head? = some '*'
        · rcases List.head?_eq_some_iff.mp hMore with
            ⟨rest, rfl⟩
          rw [tokens_star_star]
          exact ih.star_star
        · rw [tokens_star hMore]
          exact .stars 0 hMore ih
      · rw [joined_tokens_same hStar]
        exact .same hStar ih

/- A glob has no other text with short runs. -/
theorem Collapses.eq_joined_tokens
    (hCollapses : Collapses glob cs) :
    cs = joined (tokens glob) := by
  induction hCollapses with
  | nil => rfl
  | stars n hEnd hRest ih =>
      rw [tokens_stars n hEnd, ih]
      rfl
  | same hOther hRest ih =>
      rw [ih, joined_tokens_same hOther]

/- The text with short runs is that of the tokens. -/
theorem collapses_iff :
    Collapses glob cs ↔ cs = joined (tokens glob) := by
  constructor
  · exact Collapses.eq_joined_tokens
  · rintro rfl
    exact collapses_joined_tokens glob

end Glob

end TraceMining

------------------------------------------------------------
-- Tokens
------------------------------------------------------------

namespace TraceMining

namespace Glob

/- The texts of the tokens of a glob, put together. -/
def shortened
    (glob : String) : String :=
  String.join ((tokens glob.toList).map Token.text)

/- They have the characters of the tokens. -/
theorem toList_shortened
    (glob : String) :
    (shortened glob).toList = joined (tokens glob.toList) := by
  have hText : ∀ t : Token, t.text.toList = t.chars := by
    intro t
    cases t with
    | star => rfl
    | literal l => exact String.toList_ofList
  simp [shortened, joined, List.flatMap_map, hText]

/- A proper token is not empty, and a star has no other. -/
theorem Token.IsProper.text_spec
    {t : Token}
    (hProper : t.IsProper) :
    t.text ≠ "" ∧ (t = .star ∨ '*' ∉ t.text.toList) := by
  cases hProper with
  | star => exact ⟨by decide, Or.inl rfl⟩
  | literal hSome hNoStar =>
      refine ⟨mt String.ofList_eq_empty_iff.mp hSome, Or.inr ?_⟩
      rwa [Token.text, String.toList_ofList]

/-
  No token of a glob is empty, and stars and texts without a
  star take turns.  Put together, the tokens are the one text
  that has a star for each run of stars of the glob and is
  otherwise the same.  This text has the same tokens again,
  and as a glob it accepts the same values.
-/
theorem tokens_normal
    (glob : String) :
    (∀ t ∈ tokens glob.toList,
        t.text ≠ "" ∧ (t = .star ∨ '*' ∉ t.text.toList)) ∧
      (tokens glob.toList).IsChain
        (fun t u => t = .star ↔ u ≠ .star) ∧
      (∀ cs,
        Collapses glob.toList cs ↔
          cs = (shortened glob).toList) ∧
      tokens (shortened glob).toList = tokens glob.toList ∧
      ∀ value,
        accepts (shortened glob) value = accepts glob value := by
  have hTurns := takesTurns_tokens glob.toList
  have hTokens :
      tokens (shortened glob).toList = tokens glob.toList := by
    rw [toList_shortened, hTurns.tokens_joined]
  refine ⟨?_, hTurns.turns, ?_, hTokens, ?_⟩
  · intro t hMember
    exact (hTurns.proper t hMember).text_spec
  · intro cs
    rw [toList_shortened]
    exact collapses_iff
  · intro value
    unfold accepts
    rw [hTokens]

/- Stars in front and in the middle are one token each. -/
example :
    (tokens "**a***b".toList).map Token.text =
      ["*", "a", "*", "b"] := by
  decide

end Glob

end TraceMining
