import TraceMining.Naming.Casing
import TraceMining.Proofs.Text.Alphabet

/-
  This file shows what casing does to plain names, which have
  small letters and digits of the basic alphabet only.  A
  plain name is its own identifier, and it is the label of no
  other name, since no letter has a small one as its capital.

  Key definitions include:
    * `Text.plainSpans`
    * `Text.IsPlain`
    * `Naming.IsPlain`

  Key theorems include:
    * `Text.lowerChars_of_plain`
    * `Text.upperChar_of_plain`
    * `Naming.camel_of_plain`
    * `Naming.eq_of_display_plain`
-/

------------------------------------------------------------
-- Characters
------------------------------------------------------------

namespace TraceMining

namespace Text

/- The digits and the small letters of the basic alphabet. -/
def plainSpans : List Span :=
  [⟨0x30, 0x39⟩, ⟨0x61, 0x7A⟩]

/- A character that is one of them. -/
def IsPlain
    (c : Char) : Prop :=
  Span.anyHas plainSpans c = true

instance
    (c : Char) :
    Decidable (IsPlain c) := by
  unfold IsPlain
  infer_instance

/- Their numbers are in two runs. -/
theorem isPlain_iff
    {c : Char} :
    IsPlain c ↔
      0x30 ≤ c.toNat ∧ c.toNat ≤ 0x39 ∨
        0x61 ≤ c.toNat ∧ c.toNat ≤ 0x7A := by
  simp [IsPlain, Span.anyHas_iff, plainSpans, Span.Has]

/- They stand in identifiers. -/
theorem isAlphanum_of_plain
    {c : Char}
    (hPlain : IsPlain c) :
    c.isAlphanum = true := by
  rw [isPlain_iff] at hPlain
  rw [isAlphanum_iff]
  omega

end Text

end TraceMining

------------------------------------------------------------
-- Lower Case
------------------------------------------------------------

namespace TraceMining

namespace Text

/- No plain character is a capital, which would be lowered. -/
theorem lowerChar_of_plain
    {c : Char}
    (hPlain : IsPlain c) :
    lowerChar c = [c] := by
  have hBasic := isAlphanum_of_plain hPlain
  have hSmall : c.isUpper = false := by
    rw [isPlain_iff] at hPlain
    rw [Bool.eq_false_iff, Ne, isUpper_iff]
    omega
  rw [lowerChar_of_alphanum hBasic,
    toLower_eq_self hBasic hSmall]

/- So text of plain characters is its own lower form. -/
theorem lowerAfter_of_plain
    {cs : List Char}
    (hPlain : ∀ c ∈ cs, IsPlain c)
    (before : Bool) :
    lowerAfter before cs = cs := by
  induction cs generalizing before with
  | nil => rfl
  | cons c cs ih =>
      rcases List.forall_mem_cons.mp hPlain with
        ⟨hFirst, hRest⟩
      have hOther : c.toNat ≠ 0x3A3 := by
        rw [isPlain_iff] at hFirst
        omega
      rw [lowerAfter, if_neg hOther,
        lowerChar_of_plain hFirst, ih hRest]
      rfl

end Text

end TraceMining

------------------------------------------------------------
-- Upper Case
------------------------------------------------------------

namespace TraceMining

namespace Text

/- A character that only plain ones stand for is itself. -/
theorem upperChar_of_plain
    {c : Char}
    (hPlain : ∀ d ∈ upperChar c, IsPlain d) :
    upperChar c = [c] := by
  have hLonger :
      (upperExpansions.all fun e =>
        e.2.toList.any fun d => !decide (IsPlain d)) = true := by
    decide +kernel
  have hRows :
      ∀ s ∈ upperShifts,
        0x39 < s.first + s.offset ∧
            s.last + s.offset < 0x61 ∨
          0x7A < s.first + s.offset := by
    decide +kernel
  rcases upperChar_cases c with ⟨s, hEntry, hChars⟩ | hChars
  · rw [hChars] at hPlain
    have hLong := List.all_eq_true.mp hLonger _ hEntry
    rcases List.any_eq_true.mp hLong with
      ⟨d, hThere, hOther⟩
    exact absurd (hPlain d hThere) (by simpa using hOther)
  · rw [hChars, List.forall_mem_singleton, isPlain_iff]
      at hPlain
    rcases CaseShift.toNat_apply_cases upperShifts c with
      ⟨s, hRow, ⟨hFirst, hLast, _⟩, hNumber⟩ | ⟨_, hSame⟩
    · have hApart := hRows s hRow
      omega
    · rw [hChars, hSame]

end Text

end TraceMining

------------------------------------------------------------
-- Names
------------------------------------------------------------

namespace TraceMining

namespace Naming

/- A name of plain characters. -/
def IsPlain
    (s : String) : Prop :=
  ∀ c ∈ s.toList, Text.IsPlain c

instance
    (s : String) :
    Decidable (IsPlain s) :=
  List.decidableBAll Text.IsPlain s.toList

/- Plain characters are joined as they are. -/
theorem humps_of_plain
    {cs : List Char}
    (hPlain : ∀ c ∈ cs, Text.IsPlain c) :
    humps [] cs = cs := by
  induction cs with
  | nil => rfl
  | cons c cs ih =>
      rcases List.forall_mem_cons.mp hPlain with
        ⟨hFirst, hRest⟩
      rw [humps, if_pos (Text.isAlphanum_of_plain hFirst),
        ih hRest]
      rfl

/- A plain name is its own identifier. -/
theorem camel_of_plain
    {s : String}
    (hPlain : IsPlain s) :
    camel s = s := by
  rw [camel, Text.lowerChars, Text.lowerAfter_of_plain hPlain,
    humps_of_plain hPlain, String.ofList_toList]

/- What is plain with words raised was so before. -/
theorem eq_of_capitalized_plain
    {cs : List Char}
    {inside : Bool}
    (hPlain : ∀ c ∈ capitalized inside cs, Text.IsPlain c) :
    capitalized inside cs = cs := by
  induction cs generalizing inside with
  | nil => rfl
  | cons c cs ih =>
      simp only [capitalized, List.forall_mem_append]
        at hPlain ⊢
      rcases hPlain with ⟨hFirst, hRest⟩
      rw [ih hRest]
      split at hFirst
      · rename_i hRaised
        rw [if_pos hRaised, Text.upperChar_of_plain hFirst]
        rfl
      · rename_i hKept
        rw [if_neg hKept]
        rfl

/- What is plain with words apart has just one. -/
theorem eq_of_spaced_plain
    {cs : List Char}
    (hPlain : ∀ c ∈ spaced cs, Text.IsPlain c) :
    spaced cs = cs := by
  induction cs using spaced.induct with
  | case1 => rfl
  | case2 c => rfl
  | case3 a b cs hHump ih =>
      rw [spaced, if_pos hHump] at hPlain
      exact absurd (hPlain ' ' (by simp)) (by decide)
  | case4 a b cs hNone ih =>
      rw [spaced, if_neg hNone] at hPlain ⊢
      rw [ih (List.forall_mem_cons.mp hPlain).2]

/- What is plain with blanks in place has none. -/
theorem eq_of_blanked_plain
    {cs : List Char}
    (hPlain : ∀ c ∈ cs.map blanked, Text.IsPlain c) :
    cs.map blanked = cs := by
  refine (List.map_congr_left ?_).trans (List.map_id cs)
  intro c hMember
  have hHere := hPlain _ (List.mem_map_of_mem hMember)
  rw [blanked] at hHere ⊢
  split at hHere
  · exact absurd hHere (by decide)
  · rename_i hOther
    rw [if_neg hOther]
    rfl

/- So a plain name is the label of itself at most. -/
theorem eq_of_display_plain
    {s : String}
    (hPlain : IsPlain (display s)) :
    display s = s := by
  unfold IsPlain at hPlain
  rw [display, String.toList_ofList, displayChars] at hPlain
  have hWords := eq_of_capitalized_plain hPlain
  rw [hWords] at hPlain
  have hSpaced := eq_of_spaced_plain hPlain
  rw [hSpaced] at hPlain
  have hBlanks := eq_of_blanked_plain hPlain
  rw [display, displayChars, hWords, hSpaced, hBlanks,
    String.ofList_toList]

end Naming

end TraceMining
