import TraceMining.Text.Case

/-
  This file shows what lowering and raising do to letters and
  digits of the basic alphabet.  Each goes to one of them, and
  text in lower case has no capital among them.  In lowered
  text each still stands between what comes of the text before
  it and of the text behind.  Ten other characters have only
  letters of the alphabet for their capitals.

  Key definitions include:
    * `Text.raisedIn`

  Key theorems include:
    * `Text.CaseShift.toNat_apply_cases`
    * `Text.of_isAlphanum`
    * `Text.upperChar_of_alphanum`
    * `Text.lowerChar_of_alphanum`
    * `Text.upperChar_alphanum_iff`
    * `Text.not_isUpper_of_mem_lowerChars`
    * `Text.exists_lowerAfter_append`
-/

------------------------------------------------------------
-- Shifts
------------------------------------------------------------

namespace TraceMining

namespace Text

/- A number stands for a character, or else for that of zero. -/
theorem toNat_ofNat_eq_or
    (n : Nat) :
    (Char.ofNat n).toNat = n ∨ (Char.ofNat n).toNat = 0 := by
  by_cases hValid : n.isValidChar
  · left
    have hChar : Char.ofNat n = Char.ofNatAux n hValid :=
      dif_pos hValid
    exact congrArg Char.toNat hChar
  · right
    exact congrArg Char.toNat (dif_neg hValid)

/-
  Either a row moves a character, which then has the number
  that the row tells unless there is no such character, or no
  row does and it stays as it is.
-/
theorem CaseShift.toNat_apply_cases
    (table : List CaseShift)
    (c : Char) :
    (∃ s ∈ table, s.Moves c.toNat ∧
        (((apply table c).toNat : Int) = c.toNat + s.offset ∨
          (apply table c).toNat = 0)) ∨
      (∀ s ∈ table, ¬ s.Moves c.toNat) ∧
        apply table c = c := by
  cases hFind :
      table.find? fun s => decide (s.Moves c.toNat) with
  | some s =>
      have hMoves := List.find?_some hFind
      have hApply :
          apply table c =
            Char.ofNat ((c.toNat : Int) + s.offset).toNat := by
        rw [apply, hFind]
        rfl
      refine Or.inl ⟨s, List.mem_of_find?_eq_some hFind,
        by simpa using hMoves, ?_⟩
      rw [hApply]
      rcases toNat_ofNat_eq_or
          ((c.toNat : Int) + s.offset).toNat
        with hSame | hZero
      · omega
      · exact Or.inr hZero
  | none =>
      rw [List.find?_eq_none] at hFind
      refine Or.inr ⟨by simpa using hFind, ?_⟩
      have hNone :
          (table.find? fun s => decide (s.Moves c.toNat)) =
            none :=
        List.find?_eq_none.mpr hFind
      rw [apply, hNone]

/- A character is raised as tabled, or by a shift. -/
theorem upperChar_cases
    (c : Char) :
    (∃ s, (c.toNat, s) ∈ upperExpansions ∧
        upperChar c = s.toList) ∨
      upperChar c = [CaseShift.apply upperShifts c] := by
  unfold upperChar
  cases hEntry : upperExpansions.lookup c.toNat with
  | some s =>
      rcases List.lookup_eq_some_iff.mp hEntry with
        ⟨before, after, hTable, _⟩
      exact Or.inl ⟨s, by simp [hTable], rfl⟩
  | none => exact Or.inr rfl

end Text

end TraceMining

------------------------------------------------------------
-- Characters
------------------------------------------------------------

namespace TraceMining

namespace Text

variable {c : Char}

/- Capitals have numbers in one run. -/
theorem isUpper_iff :
    c.isUpper = true ↔ 0x41 ≤ c.toNat ∧ c.toNat ≤ 0x5A := by
  delta Char.isUpper
  simp [UInt32.le_iff_toNat_le, ← Char.toNat_val]

/- Letters and digits have numbers in three runs. -/
theorem isAlphanum_iff :
    c.isAlphanum = true ↔
      (0x41 ≤ c.toNat ∧ c.toNat ≤ 0x5A ∨
          0x61 ≤ c.toNat ∧ c.toNat ≤ 0x7A) ∨
        0x30 ≤ c.toNat ∧ c.toNat ≤ 0x39 := by
  delta Char.isAlphanum Char.isAlpha Char.isLower Char.isDigit
  simp [isUpper_iff, UInt32.le_iff_toNat_le,
    ← Char.toNat_val]

/- What holds of the few with low numbers holds of all. -/
theorem of_isAlphanum
    {isFine : Char → Prop}
    (hAll :
      ∀ n < 0x7B, (Char.ofNat n).isAlphanum = true →
        isFine (Char.ofNat n))
    (hBasic : c.isAlphanum = true) :
    isFine c := by
  have hNumber : c.toNat < 0x7B := by
    rw [isAlphanum_iff] at hBasic
    omega
  rw [← Char.ofNat_toNat c] at hBasic ⊢
  exact hAll c.toNat hNumber hBasic

/- A letter is raised to its capital, a digit to itself. -/
theorem upperChar_of_alphanum
    (hBasic : c.isAlphanum = true) :
    upperChar c = [c.toUpper] := by
  revert hBasic
  apply of_isAlphanum
  decide +kernel

/- A letter is lowered to the small one. -/
theorem lowerChar_of_alphanum
    (hBasic : c.isAlphanum = true) :
    lowerChar c = [c.toLower] := by
  revert hBasic
  apply of_isAlphanum
  decide +kernel

/- What is raised stays in the alphabet. -/
theorem isAlphanum_toUpper
    (hBasic : c.isAlphanum = true) :
    c.toUpper.isAlphanum = true := by
  revert hBasic
  apply of_isAlphanum
  decide

/- So does what is lowered. -/
theorem isAlphanum_toLower
    (hBasic : c.isAlphanum = true) :
    c.toLower.isAlphanum = true := by
  revert hBasic
  apply of_isAlphanum
  decide

/- What is no capital is lowered to itself. -/
theorem toLower_eq_self
    (hBasic : c.isAlphanum = true)
    (hSmall : c.isUpper = false) :
    c.toLower = c := by
  revert hBasic hSmall
  apply of_isAlphanum
  decide

/- Just the digits are raised to something small. -/
theorem isUpper_toUpper_eq_false_iff
    (hBasic : c.isAlphanum = true) :
    c.toUpper.isUpper = false ↔ c.isDigit = true := by
  revert hBasic
  apply of_isAlphanum
  decide

/- Other characters that are raised into the alphabet. -/
def raisedIn : List Char :=
  ['ß', 'ı', 'ſ', 'ﬀ', 'ﬁ', 'ﬂ', 'ﬃ', 'ﬄ', 'ﬅ', 'ﬆ']

/- There are no more of them. -/
theorem upperChar_alphanum_iff
    (hOther : c.isAlphanum = false) :
    (∀ d ∈ upperChar c, d.isAlphanum = true) ↔
      c ∈ raisedIn := by
  constructor
  · intro hRaised
    have hExpansions :
        ∀ e ∈ upperExpansions,
          e.2.toList.all Char.isAlphanum = true →
            Char.ofNat e.1 ∈ raisedIn := by
      decide +kernel
    -- Only three rows lead to numbers of the alphabet.
    have hRows :
        ∀ s ∈ upperShifts,
          (s.last + s.offset < 0x30 ∨
              0x7A < s.first + s.offset) ∨
            s ∈ ([ ⟨0x61, 0x7A, 1, -32⟩
              , ⟨0x131, 0x131, 1, -232⟩
              , ⟨0x17F, 0x17F, 1, -300⟩ ] : List CaseShift) := by
      decide +kernel
    rcases upperChar_cases c with ⟨s, hEntry, hChars⟩ | hChars
    · rw [hChars] at hRaised
      have hChar :=
        hExpansions _ hEntry (List.all_eq_true.mpr hRaised)
      rwa [Char.ofNat_toNat] at hChar
    · rw [hChars, List.forall_mem_singleton,
        isAlphanum_iff] at hRaised
      rw [← Bool.not_eq_true, isAlphanum_iff] at hOther
      rcases CaseShift.toNat_apply_cases upperShifts c with
        ⟨s, hRow, ⟨hFirst, hLast, _⟩, hNumber⟩ | ⟨_, hSame⟩
      · have hChar : c.toNat = 0x131 ∨ c.toNat = 0x17F := by
          rcases hRows s hRow with hApart | hFew
          · omega
          · simp only [List.mem_cons, List.not_mem_nil,
              or_false] at hFew
            rcases hFew with rfl | rfl | rfl
            all_goals
              dsimp only at hFirst hLast
              omega
        rw [← Char.ofNat_toNat c]
        rcases hChar with hChar | hChar
        all_goals
          rw [hChar]
          decide
      · rw [hSame] at hRaised
        exact absurd hRaised hOther
  · intro hMember
    have hAll :
        (raisedIn.all fun e =>
          (upperChar e).all Char.isAlphanum) = true := by
      decide +kernel
    rw [List.all_eq_true] at hAll
    exact List.all_eq_true.mp (hAll c hMember)

end Text

end TraceMining

------------------------------------------------------------
-- Lower Case
------------------------------------------------------------

namespace TraceMining

namespace Text

/- A row moves every capital, and none leads to one. -/
theorem not_isUpper_of_mem_lowerChar
    {c d : Char}
    (hMember : d ∈ lowerChar c) :
    d.isUpper = false := by
  unfold lowerChar at hMember
  split at hMember
  · rw [List.mem_cons, List.mem_singleton] at hMember
    rcases hMember with rfl | rfl
    · decide
    · decide
  · have hRows :
        ∀ s ∈ lowerShifts,
          s.last + s.offset < 0x41 ∨
            0x5A < s.first + s.offset := by
      decide +kernel
    rw [List.mem_singleton.mp hMember, Bool.eq_false_iff, Ne,
      isUpper_iff]
    rcases CaseShift.toNat_apply_cases lowerShifts c with
      ⟨s, hRow, ⟨hFirst, hLast, _⟩, hNumber⟩ | ⟨hNone, hSame⟩
    · have hApart := hRows s hRow
      omega
    · rw [hSame]
      intro hCapital
      exact hNone ⟨0x41, 0x5A, 1, 32⟩ (by decide)
        ⟨hCapital.1, hCapital.2, Nat.mod_one _⟩

/- No capital is in the lower form of a text. -/
theorem not_isUpper_of_mem_lowerAfter
    {before : Bool}
    {cs : List Char}
    {d : Char}
    (hMember : d ∈ lowerAfter before cs) :
    d.isUpper = false := by
  induction cs generalizing before with
  | nil => exact absurd hMember List.not_mem_nil
  | cons c cs ih =>
      rw [lowerAfter, List.mem_append] at hMember
      rcases hMember with hFirst | hRest
      · split at hFirst
        · split at hFirst
          all_goals
            rw [List.mem_singleton.mp hFirst]
            decide
        · exact not_isUpper_of_mem_lowerChar hFirst
      · exact ih hRest

/- So there is none in a lowered text as a whole. -/
theorem not_isUpper_of_mem_lowerChars
    {cs : List Char}
    {d : Char}
    (hMember : d ∈ lowerChars cs) :
    d.isUpper = false :=
  not_isUpper_of_mem_lowerAfter hMember

/- A letter or digit in front is lowered on its own. -/
theorem exists_lowerAfter_cons
    {c : Char}
    (hBasic : c.isAlphanum = true)
    (before : Bool)
    (cs : List Char) :
    ∃ seen,
      lowerAfter before (c :: cs) =
        c.toLower :: lowerAfter seen cs := by
  have hOther : c.toNat ≠ 0x3A3 := by
    rw [isAlphanum_iff] at hBasic
    omega
  refine ⟨if isIgnorable c then before else isCased c, ?_⟩
  rw [lowerAfter, if_neg hOther, lowerChar_of_alphanum hBasic]
  rfl

/- So is one behind other text, which is lowered before it. -/
theorem exists_lowerAfter_append
    {c : Char}
    (hBasic : c.isAlphanum = true)
    (before : Bool)
    (as bs : List Char) :
    ∃ front seen,
      lowerAfter before (as ++ c :: bs) =
        front ++ c.toLower :: lowerAfter seen bs := by
  induction as generalizing before with
  | nil =>
      rcases exists_lowerAfter_cons hBasic before bs with
        ⟨seen, hLowered⟩
      exact ⟨[], seen, hLowered⟩
  | cons a as ih =>
      rcases ih (if isIgnorable a then before else isCased a)
        with ⟨front, seen, hRest⟩
      rw [List.cons_append, lowerAfter, hRest]
      exact ⟨_, seen, (List.append_assoc _ _ _).symm⟩

end Text

end TraceMining
