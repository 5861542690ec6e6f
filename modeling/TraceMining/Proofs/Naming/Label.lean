import Mathlib
import TraceMining.Naming.Casing
import TraceMining.Proofs.Text.Alphabet

/-
  This file shows that the label of a label is the same, as
  long as a text is of ASCII.  A label has no hyphen and no
  underscore, no small letter with a capital behind it and no
  word that starts with a small letter, and just the texts of
  that kind are left as they are.  Each of the three steps to
  a label keeps what those before it have reached, since the
  last one only raises where no letter stands in front.

  Key definitions include:
    * `Text.IsAscii`
    * `Text.words`
    * `Naming.NoHump`
    * `Naming.IsLabel`
    * `Naming.raised`
    * `Naming.wording`

  Key theorems include:
    * `Text.upperChar_of_ascii`
    * `Naming.isChain_spaced`
    * `Naming.isChain_capitalized`
    * `Naming.exists_words_capitalized`
    * `Naming.isLabel_displayChars`
    * `Naming.IsLabel.displayChars_eq_self`
    * `Naming.wording_displayChars`
    * `Naming.display_stable`
-/

------------------------------------------------------------
-- Characters
------------------------------------------------------------

namespace TraceMining

namespace Text

/- Each character has one of the first 128 numbers. -/
def IsAscii
    (cs : List Char) : Prop :=
  ∀ c ∈ cs, c.toNat < 0x80

instance
    (cs : List Char) :
    Decidable (IsAscii cs) :=
  List.decidableBAll (fun c : Char => c.toNat < 0x80) cs

variable {c : Char}

/- Small letters are letters. -/
theorem isAlphanum_of_isLower
    (hSmall : c.isLower = true) :
    c.isAlphanum = true := by
  simp [Char.isAlphanum, Char.isAlpha, hSmall]

/- Of ASCII just the small letters are raised. -/
theorem upperChar_of_ascii
    (hAscii : c.toNat < 0x80) :
    upperChar c = [c.toUpper] := by
  by_cases hBasic : c.isAlphanum = true
  · exact upperChar_of_alphanum hBasic
  · have hExpansions : ∀ e ∈ upperExpansions, 0x80 ≤ e.1 := by
      decide +kernel
    have hRows :
        ∀ s ∈ upperShifts,
          s = ⟨0x61, 0x7A, 1, -32⟩ ∨ 0x80 ≤ s.first := by
      decide +kernel
    have hLarge : ¬ c.isLower = true :=
      mt isAlphanum_of_isLower hBasic
    rw [Char.toUpper_eq_of_not_isLower hLarge]
    rw [isAlphanum_iff] at hBasic
    rcases upperChar_cases c with ⟨s, hEntry, _⟩ | hChars
    · have hHigh := hExpansions _ hEntry
      omega
    · rcases CaseShift.toNat_apply_cases upperShifts c with
        ⟨s, hRow, ⟨hFirst, hLast, _⟩, _⟩ | ⟨_, hSame⟩
      · rcases hRows s hRow with rfl | hHigh
        · exact absurd (Or.inl (Or.inr ⟨hFirst, hLast⟩)) hBasic
        · omega
      · rw [hChars, hSame]

/- Letters and digits stand in words. -/
theorem isWord_of_isAlphanum
    (hBasic : c.isAlphanum = true) :
    isWord c = true := by
  rw [isAlphanum_iff] at hBasic
  rw [isWord, Span.anyHas_iff]
  rcases hBasic with (hLarge | hSmall) | hDigit
  · exact ⟨⟨0x41, 0x5A⟩, by decide +kernel, hLarge⟩
  · exact ⟨⟨0x61, 0x7A⟩, by decide +kernel, hSmall⟩
  · exact ⟨⟨0x30, 0x39⟩, by decide +kernel, hDigit⟩

/- So do small letters in particular. -/
theorem isWord_of_isLower
    (hSmall : c.isLower = true) :
    isWord c = true :=
  isWord_of_isAlphanum (isAlphanum_of_isLower hSmall)

/- A capital stands in words as its small letter does. -/
theorem isWord_toUpper :
    isWord c.toUpper = isWord c := by
  by_cases hSmall : c.isLower = true
  · have hBasic := isAlphanum_of_isLower hSmall
    rw [isWord_of_isLower hSmall,
      isWord_of_isAlphanum (isAlphanum_toUpper hBasic)]
  · rw [Char.toUpper_eq_of_not_isLower hSmall]

end Text

end TraceMining

------------------------------------------------------------
-- Words
------------------------------------------------------------

namespace TraceMining

namespace Text

/-
  The words of a text, which are its runs of word characters,
  with an empty one where two other characters are neighbours
  or one is at an end.
-/
def words
    (cs : List Char) : List (List Char) :=
  cs.splitOnP fun c => !isWord c

variable {c : Char}

/- A word character goes in front of the first word. -/
theorem words_cons_of_isWord
    (hWord : isWord c = true)
    (cs : List Char) :
    words (c :: cs) = (words cs).modifyHead (List.cons c) := by
  simp [words, List.splitOnP_cons_eq_if_modifyHead, hWord]

/- Any other character ends a word. -/
theorem words_cons_of_not_isWord
    (hOther : isWord c = false)
    (cs : List Char) :
    words (c :: cs) = [] :: words cs := by
  simp [words, List.splitOnP_cons_eq_if_modifyHead, hOther]

/- There is always a first word, be it empty. -/
theorem exists_words_eq
    (cs : List Char) :
    ∃ w ws, words cs = w :: ws :=
  List.exists_cons_of_ne_nil (List.splitOnP_ne_nil _ cs)

end Text

end TraceMining

------------------------------------------------------------
-- Labels
------------------------------------------------------------

namespace TraceMining

namespace Naming

/- Behind a small letter there is no capital. -/
def NoHump
    (a b : Char) : Prop :=
  ¬ (a.isLower = true ∧ b.isUpper = true)

/-
  Text without hyphens and underscores, without capitals right
  behind small letters, and without words that start small.
-/
structure IsLabel
    (cs : List Char) : Prop where
  noHyphen : '-' ∉ cs
  noUnderscore : '_' ∉ cs
  apart : cs.IsChain NoHump
  large : ∀ c w, c :: w ∈ Text.words cs → c.isLower = false

end Naming

end TraceMining

------------------------------------------------------------
-- Blanks
------------------------------------------------------------

namespace TraceMining

namespace Naming

variable {cs : List Char}

/- A character is kept, or is one of two that go. -/
theorem blanked_cases
    (c : Char) :
    (c = '-' ∨ c = '_') ∧ blanked c = ' ' ∨
      (c ≠ '-' ∧ c ≠ '_') ∧ blanked c = c := by
  unfold blanked
  split
  · rename_i hMark
    exact Or.inl ⟨hMark, rfl⟩
  · rename_i hOther
    exact Or.inr ⟨not_or.mp hOther, rfl⟩

/- Text without either of them is left as it is. -/
theorem map_blanked_eq_self
    (hHyphen : '-' ∉ cs)
    (hUnderscore : '_' ∉ cs) :
    cs.map blanked = cs := by
  refine (List.map_congr_left ?_).trans (List.map_id cs)
  intro c hMember
  refine if_neg ?_
  rintro (rfl | rfl)
  · exact hHyphen hMember
  · exact hUnderscore hMember

/- The first character stays in front. -/
theorem head?_spaced
    (cs : List Char) :
    (spaced cs).head? = cs.head? := by
  cases cs using spaced.fun_cases with
  | case1 => rfl
  | case2 c => rfl
  | case3 a b cs hHump => simp [spaced, hHump]
  | case4 a b cs hNone => simp [spaced, hNone]

/- What is in spaced text was there before, or is a blank. -/
theorem mem_or_eq_of_mem_spaced
    {d : Char}
    (hMember : d ∈ spaced cs) :
    d ∈ cs ∨ d = ' ' := by
  induction cs using spaced.induct with
  | case1 => exact Or.inl hMember
  | case2 c => exact Or.inl hMember
  | case3 a b cs hHump ih =>
      rw [spaced, if_pos hHump, List.mem_cons,
        List.mem_cons] at hMember
      rcases hMember with hFirst | hBlank | hRest
      · exact Or.inl (hFirst ▸ List.mem_cons_self)
      · exact Or.inr hBlank
      · exact (ih hRest).imp_left (List.mem_cons_of_mem a)
  | case4 a b cs hNone ih =>
      rw [spaced, if_neg hNone, List.mem_cons] at hMember
      rcases hMember with hFirst | hRest
      · exact Or.inl (hFirst ▸ List.mem_cons_self)
      · exact (ih hRest).imp_left (List.mem_cons_of_mem a)

/- In spaced text no capital is behind a small letter. -/
theorem isChain_spaced
    (cs : List Char) :
    (spaced cs).IsChain NoHump := by
  induction cs using spaced.induct with
  | case1 => simp [spaced]
  | case2 c => simp [spaced]
  | case3 a b cs hHump ih =>
      rw [spaced, if_pos hHump, List.isChain_cons_cons,
        List.isChain_cons]
      -- A blank is neither small nor a capital.
      exact ⟨by simp [NoHump], by simp [NoHump], ih⟩
  | case4 a b cs hNone ih =>
      rw [spaced, if_neg hNone, List.isChain_cons,
        head?_spaced]
      refine ⟨?_, ih⟩
      simpa [NoHump] using hNone

/- Text of that kind is left as it is. -/
theorem spaced_eq_self
    (hApart : cs.IsChain NoHump) :
    spaced cs = cs := by
  induction cs using spaced.induct with
  | case1 => rfl
  | case2 c => rfl
  | case3 a b cs hHump ih =>
      rw [List.isChain_cons_cons] at hApart
      exact absurd (by simpa [NoHump] using hHump) hApart.1
  | case4 a b cs hNone ih =>
      rw [List.isChain_cons_cons] at hApart
      rw [spaced, if_neg hNone, ih hApart.2]

end Naming

end TraceMining

------------------------------------------------------------
-- Raised Characters
------------------------------------------------------------

namespace TraceMining

namespace Naming

/- A character of a word is raised unless it is inside. -/
def raised
    (inside : Bool)
    (c : Char) : Char :=
  if Text.isWord c && !inside then c.toUpper else c

variable {inside : Bool}
variable {c : Char}

/- A character stays, or is small and becomes a capital. -/
theorem raised_cases
    (inside : Bool)
    (c : Char) :
    raised inside c = c ∨
      c.isLower = true ∧ raised inside c = c.toUpper := by
  unfold raised
  split
  · by_cases hSmall : c.isLower = true
    · exact Or.inr ⟨hSmall, rfl⟩
    · exact Or.inl (Char.toUpper_eq_of_not_isLower hSmall)
  · exact Or.inl rfl

/- Nothing is raised inside a word. -/
theorem raised_true
    (c : Char) :
    raised true c = c := by
  simp [raised]

/- Nor is what stands in no word. -/
theorem raised_of_not_isWord
    (hOther : Text.isWord c = false) :
    raised inside c = c := by
  simp [raised, hOther]

/- What is not small has nothing to be raised to. -/
theorem raised_of_not_isLower
    (hLarge : c.isLower = false) :
    raised inside c = c := by
  simp [raised, Char.toUpper_eq_of_not_isLower, hLarge]

/- A raised character stands in a word if it did before. -/
theorem isWord_raised :
    Text.isWord (raised inside c) = Text.isWord c := by
  unfold raised
  split
  · exact Text.isWord_toUpper
  · rfl

/- Raising words goes from one character to the next. -/
theorem capitalized_cons
    (hAscii : c.toNat < 0x80)
    (inside : Bool)
    (cs : List Char) :
    capitalized inside (c :: cs) =
      raised inside c :: capitalized (Text.isWord c) cs := by
  simp only [capitalized, raised,
    Text.upperChar_of_ascii hAscii]
  split <;> rfl

end Naming

end TraceMining

------------------------------------------------------------
-- Raised Words
------------------------------------------------------------

namespace TraceMining

namespace Naming

variable {inside : Bool}
variable {cs : List Char}

/- What raised text has was there before, or is a capital. -/
theorem mem_or_isUpper_of_mem_capitalized
    (hAscii : Text.IsAscii cs)
    {d : Char}
    (hMember : d ∈ capitalized inside cs) :
    d ∈ cs ∨ d.isUpper = true := by
  induction cs generalizing inside with
  | nil => exact Or.inl hMember
  | cons c cs ih =>
      rcases List.forall_mem_cons.mp hAscii with
        ⟨hFirst, hRest⟩
      rw [capitalized_cons hFirst, List.mem_cons] at hMember
      rcases hMember with rfl | hLater
      · rcases raised_cases inside c with
          hSame | ⟨hSmall, hRaised⟩
        · rw [hSame]
          exact Or.inl List.mem_cons_self
        · right
          simp [hRaised, Char.isAlpha, hSmall]
      · exact (ih hRest hLater).imp_left
          (List.mem_cons_of_mem c)

/-
  Raising words makes no capital behind a small letter, since
  the character in front of a raised one is in no word.
-/
theorem isChain_cons_capitalized
    {a : Char}
    (hAscii : Text.IsAscii cs)
    (hInside : a.isLower = true → inside = true)
    (hApart : (a :: cs).IsChain NoHump) :
    (a :: capitalized inside cs).IsChain NoHump := by
  induction cs generalizing a inside with
  | nil => exact hApart
  | cons c cs ih =>
      rcases List.forall_mem_cons.mp hAscii with
        ⟨hFirst, hRest⟩
      rw [capitalized_cons hFirst]
      rw [List.isChain_cons_cons] at hApart ⊢
      rcases hApart with ⟨hHere, hLater⟩
      refine ⟨?_, ih hRest ?_ ?_⟩
      · rintro ⟨hSmall, hLarge⟩
        rw [hInside hSmall, raised_true] at hLarge
        exact hHere ⟨hSmall, hLarge⟩
      · intro hSmall
        rw [← isWord_raised]
        exact Text.isWord_of_isLower hSmall
      · rcases raised_cases inside c with hSame | ⟨_, hRaised⟩
        · rwa [hSame]
        · rw [hRaised]
          refine List.isChain_cons.mpr ⟨?_, hLater.tail⟩
          simp [NoHump]

/- So humps do not come back. -/
theorem isChain_capitalized
    (hAscii : Text.IsAscii cs)
    (hApart : cs.IsChain NoHump) :
    (capitalized false cs).IsChain NoHump := by
  -- The start of a text is like what follows a blank.
  have hBehind : (' ' :: cs).IsChain NoHump :=
    List.isChain_cons.mpr ⟨by simp [NoHump], hApart⟩
  have hRaised : (' ' :: capitalized false cs).IsChain NoHump :=
    isChain_cons_capitalized hAscii (by simp) hBehind
  exact hRaised.tail

/-
  The words stay, and each has its first letter raised; the
  first word has not if the text before belongs to it.
-/
theorem exists_words_capitalized
    (hAscii : Text.IsAscii cs)
    (inside : Bool) :
    ∃ w ws,
      Text.words cs = w :: ws ∧
        Text.words (capitalized inside cs) =
          (if inside then w
            else w.modifyHead Char.toUpper) ::
            ws.map (List.modifyHead Char.toUpper) := by
  induction cs generalizing inside with
  | nil =>
      refine ⟨[], [], by simp [Text.words], ?_⟩
      simp [Text.words, capitalized]
  | cons c cs ih =>
      rcases List.forall_mem_cons.mp hAscii with
        ⟨hFirst, hRest⟩
      rw [capitalized_cons hFirst]
      rcases ih hRest (Text.isWord c) with
        ⟨w, ws, hWords, hRaised⟩
      have hKind := @isWord_raised inside c
      cases hWord : Text.isWord c with
      | true =>
          rw [hWord] at hRaised hKind
          refine ⟨c :: w, ws, ?_, ?_⟩
          · rw [Text.words_cons_of_isWord hWord, hWords,
              List.modifyHead_cons]
          · rw [Text.words_cons_of_isWord hKind, hRaised]
            cases inside with
            | false => simp [raised, hWord]
            | true => simp [raised]
      | false =>
          rw [hWord] at hRaised hKind
          refine ⟨[], w :: ws, ?_, ?_⟩
          · rw [Text.words_cons_of_not_isWord hWord, hWords]
          · rw [Text.words_cons_of_not_isWord hKind, hRaised]
            simp

/- Each word of a text gets its first letter raised. -/
theorem words_capitalized
    (hAscii : Text.IsAscii cs) :
    Text.words (capitalized false cs) =
      (Text.words cs).map
        (List.modifyHead Char.toUpper) := by
  rcases exists_words_capitalized hAscii false with
    ⟨w, ws, hWords, hRaised⟩
  simpa [hWords] using hRaised

/- Text without words to be raised is left as it is. -/
theorem capitalized_eq_self
    {w : List Char}
    {ws : List (List Char)}
    (hAscii : Text.IsAscii cs)
    (hWords : Text.words cs = w :: ws)
    (hFirst :
      inside = false →
        ∀ c v, w = c :: v → c.isLower = false)
    (hLater : ∀ c v, c :: v ∈ ws → c.isLower = false) :
    capitalized inside cs = cs := by
  induction cs generalizing inside w ws with
  | nil => rfl
  | cons c cs ih =>
      rcases List.forall_mem_cons.mp hAscii with
        ⟨hHere, hRest⟩
      rcases Text.exists_words_eq cs with ⟨v, vs, hBehind⟩
      rw [capitalized_cons hHere]
      cases hWord : Text.isWord c with
      | true =>
          rw [Text.words_cons_of_isWord hWord, hBehind,
            List.modifyHead_cons, List.cons.injEq] at hWords
          rcases hWords with ⟨rfl, rfl⟩
          have hSame : raised inside c = c := by
            cases inside with
            | false =>
                exact raised_of_not_isLower (hFirst rfl c v rfl)
            | true => exact raised_true c
          rw [hSame, ih hRest hBehind (by simp) hLater]
      | false =>
          rw [Text.words_cons_of_not_isWord hWord, hBehind,
            List.cons.injEq] at hWords
          rcases hWords with ⟨_, rfl⟩
          -- What is the first word behind is a later one here.
          have hNext :
              ∀ d u, v = d :: u → d.isLower = false := by
            rintro d u rfl
            exact hLater d u List.mem_cons_self
          have hOthers :
              ∀ d u, d :: u ∈ vs → d.isLower = false := by
            intro d u hMember
            exact hLater d u (List.mem_cons_of_mem v hMember)
          rw [raised_of_not_isWord hWord,
            ih hRest hBehind (fun _ => hNext) hOthers]

end Naming

end TraceMining

------------------------------------------------------------
-- Wording
------------------------------------------------------------

namespace TraceMining

namespace Naming

/- What stands between the words of a name. -/
def gaps : List Char :=
  [' ', '-', '_']

/- What a text says, apart from its case and its gaps. -/
def wording
    (cs : List Char) : List Char :=
  (cs.filter fun c => c ∉ gaps).map Char.toLower

/- It is read off one character after the other. -/
theorem wording_cons
    (c : Char)
    (cs : List Char) :
    wording (c :: cs) = wording [c] ++ wording cs := by
  unfold wording
  rw [← List.map_append, ← List.filter_append,
    List.singleton_append]

/- No letter is a gap. -/
theorem wording_of_isAlphanum
    {c : Char}
    (hBasic : c.isAlphanum = true) :
    wording [c] = [c.toLower] := by
  have hGaps : ∀ d ∈ gaps, d.isAlphanum = false := by
    simp [gaps]
  have hOther : c ∉ gaps := by
    intro hMember
    rw [hGaps c hMember] at hBasic
    cases hBasic
  simp [wording, hOther]

/- A blank says what a hyphen or an underscore does. -/
theorem wording_blanked
    (c : Char) :
    wording [blanked c] = wording [c] := by
  rcases blanked_cases c with ⟨hMark, hBlank⟩ | ⟨_, hSame⟩
  · rw [hBlank]
    rcases hMark with rfl | rfl
    · rfl
    · rfl
  · rw [hSame]

/- A capital says what its small letter does. -/
theorem wording_raised
    (inside : Bool)
    (c : Char) :
    wording [raised inside c] = wording [c] := by
  rcases raised_cases inside c with hSame | ⟨hSmall, hRaised⟩
  · rw [hSame]
  · have hBasic := Text.isAlphanum_of_isLower hSmall
    rw [hRaised, wording_of_isAlphanum hBasic,
      wording_of_isAlphanum (Text.isAlphanum_toUpper hBasic),
      Char.toLower_toUpper_eq_toLower]

/- Blanks in place of marks say the same. -/
theorem wording_map_blanked
    (cs : List Char) :
    wording (cs.map blanked) = wording cs := by
  induction cs with
  | nil => rfl
  | cons c cs ih =>
      rw [List.map_cons, wording_cons, wording_blanked, ih,
        ← wording_cons]

/- So does text with words apart. -/
theorem wording_spaced
    (cs : List Char) :
    wording (spaced cs) = wording cs := by
  induction cs using spaced.induct with
  | case1 => rfl
  | case2 c => rfl
  | case3 a b cs hHump ih =>
      have hBlank : wording [' '] = [] := rfl
      rw [spaced, if_pos hHump, wording_cons,
        wording_cons ' ', hBlank, List.nil_append, ih,
        ← wording_cons]
  | case4 a b cs hNone ih =>
      rw [spaced, if_neg hNone, wording_cons, ih,
        ← wording_cons]

/- So does text with words raised. -/
theorem wording_capitalized
    {cs : List Char}
    (hAscii : Text.IsAscii cs)
    (inside : Bool) :
    wording (capitalized inside cs) = wording cs := by
  induction cs generalizing inside with
  | nil => rfl
  | cons c cs ih =>
      rcases List.forall_mem_cons.mp hAscii with
        ⟨hFirst, hRest⟩
      rw [capitalized_cons hFirst, wording_cons,
        wording_raised, ih hRest, ← wording_cons]

end Naming

end TraceMining

------------------------------------------------------------
-- Labels of Labels
------------------------------------------------------------

namespace TraceMining

namespace Naming

variable {cs : List Char}

/- Spaced text has only blanks besides what was no mark. -/
theorem eq_or_mem_of_mem_spaced
    {d : Char}
    (hMember : d ∈ spaced (cs.map blanked)) :
    d = ' ' ∨ d ∈ cs ∧ d ≠ '-' ∧ d ≠ '_' := by
  rcases mem_or_eq_of_mem_spaced hMember with hThere | hBlank
  · rcases List.mem_map.mp hThere with ⟨c, hOld, rfl⟩
    rcases blanked_cases c with ⟨_, hBlank⟩ | ⟨hOther, hSame⟩
    · exact Or.inl hBlank
    · rw [hSame]
      exact Or.inr ⟨hOld, hOther⟩
  · exact Or.inl hBlank

/- So the text stays in ASCII. -/
theorem isAscii_spaced
    (hAscii : Text.IsAscii cs) :
    Text.IsAscii (spaced (cs.map blanked)) := by
  intro d hMember
  rcases eq_or_mem_of_mem_spaced hMember with rfl | hOld
  · decide
  · exact hAscii d hOld.1

/- A label has the characters of ASCII only. -/
theorem isAscii_displayChars
    (hAscii : Text.IsAscii cs) :
    Text.IsAscii (displayChars cs) := by
  have hSpaced := isAscii_spaced hAscii
  intro d hMember
  rcases mem_or_isUpper_of_mem_capitalized hSpaced hMember
    with hThere | hLarge
  · exact hSpaced d hThere
  · have hNumber := (Text.isUpper_iff.mp hLarge).2
    omega

/- No mark comes back when letters are raised. -/
theorem not_mem_displayChars
    (hAscii : Text.IsAscii cs)
    {d : Char}
    (hMark : d = '-' ∨ d = '_') :
    d ∉ displayChars cs := by
  intro hMember
  rcases mem_or_isUpper_of_mem_capitalized
    (isAscii_spaced hAscii) hMember with hThere | hLarge
  · rcases eq_or_mem_of_mem_spaced hThere with
      rfl | ⟨_, hHyphen, hUnderscore⟩
    · simp at hMark
    · exact hMark.elim hHyphen hUnderscore
  · rcases hMark with rfl | rfl
    · simp at hLarge
    · simp at hLarge

/- What comes of a text is a label. -/
theorem isLabel_displayChars
    (hAscii : Text.IsAscii cs) :
    IsLabel (displayChars cs) where
  noHyphen := not_mem_displayChars hAscii (Or.inl rfl)
  noUnderscore := not_mem_displayChars hAscii (Or.inr rfl)
  apart :=
    isChain_capitalized (isAscii_spaced hAscii)
      (isChain_spaced _)
  large := by
    intro c v hMember
    rw [displayChars, words_capitalized (isAscii_spaced hAscii)]
      at hMember
    rcases List.mem_map.mp hMember with ⟨w, _, hRaised⟩
    cases w with
    | nil => cases hRaised
    | cons b w =>
        rw [List.modifyHead_cons, List.cons.injEq] at hRaised
        rw [← hRaised.1]
        exact Char.isLower_toUpper_eq_false b

/- Each step leaves a label as it is. -/
theorem IsLabel.displayChars_eq_self
    (hAscii : Text.IsAscii cs)
    (hLabel : IsLabel cs) :
    displayChars cs = cs := by
  rcases Text.exists_words_eq cs with ⟨w, ws, hWords⟩
  have hLarge := hLabel.large
  rw [hWords] at hLarge
  rw [displayChars,
    map_blanked_eq_self hLabel.noHyphen hLabel.noUnderscore,
    spaced_eq_self hLabel.apart]
  refine capitalized_eq_self hAscii hWords ?_ ?_
  · rintro _ c v rfl
    exact hLarge c v List.mem_cons_self
  · intro c v hMember
    exact hLarge c v (List.mem_cons_of_mem w hMember)

/- A label says what the text does. -/
theorem wording_displayChars
    (hAscii : Text.IsAscii cs) :
    wording (displayChars cs) = wording cs := by
  rw [displayChars, wording_capitalized (isAscii_spaced hAscii),
    wording_spaced, wording_map_blanked]

/-
  The label of a text of ASCII has no hyphen or underscore, no
  capital behind a small letter and no word that starts with a
  small letter, and is its own label.  Just the texts of that
  kind are their own labels.  A label is of ASCII again, and
  says what the text does but for case and gaps.
-/
theorem display_stable
    {s : String}
    (hAscii : Text.IsAscii s.toList) :
    display (display s) = display s ∧
      IsLabel (display s).toList ∧
      (display s = s ↔ IsLabel s.toList) ∧
      Text.IsAscii (display s).toList ∧
      wording (display s).toList = wording s.toList := by
  have hChars : (display s).toList = displayChars s.toList :=
    String.toList_ofList
  have hLabel := isLabel_displayChars hAscii
  have hAgain := isAscii_displayChars hAscii
  rw [hChars]
  refine ⟨?_, hLabel, ?_, hAgain, wording_displayChars hAscii⟩
  · rw [display, hChars, hLabel.displayChars_eq_self hAgain]
    rfl
  · constructor
    · intro hSame
      rwa [← hChars, hSame] at hLabel
    · intro hOwn
      rw [display, hOwn.displayChars_eq_self hAscii,
        String.ofList_toList]

/- Underscores, hyphens and humps are gone at once. -/
theorem display_stable_menuItem :
    Text.IsAscii "menu_item-listView".toList ∧
      display "menu_item-listView" =
        "Menu Item List View" ∧
      display "Menu Item List View" =
        "Menu Item List View" ∧
      IsLabel "Menu Item List View".toList := by
  have hAscii :
      Text.IsAscii "menu_item-listView".toList := by
    decide +kernel
  have hLabel :
      display "menu_item-listView" =
        "Menu Item List View" := by
    decide +kernel
  rcases display_stable hAscii with ⟨hAgain, hWritten, _⟩
  rw [hLabel] at hAgain hWritten
  exact ⟨hAscii, hLabel, hAgain, hWritten⟩

/-
  Beyond ASCII a raised letter may come with a mark that ends
  the word, so that the letter behind it starts another one.
-/
example :
    displayChars ['\u1E96', 'a'] = ['H', '\u0331', 'a'] ∧
      displayChars ['H', '\u0331', 'a'] =
        ['H', '\u0331', 'A'] := by
  decide +kernel

end Naming

end TraceMining
