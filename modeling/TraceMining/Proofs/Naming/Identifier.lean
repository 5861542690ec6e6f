import Mathlib.Data.List.DropRight
import TraceMining.Naming.Casing
import TraceMining.Proofs.Text.Alphabet

/-
  This file shows when the identifier that a text names is in
  fact one, that is, some letters and digits of the basic
  alphabet of which the first is no capital.  Separators in
  front of a letter raise it even if it is the first one, and
  separators at the end do not vanish, since they raise the
  last of them; so the text has to start with a small letter
  or a digit once it is lowered, and what its separators at
  the end become must be letters as well.

  Key definitions include:
    * `Naming.IsIdentifier`
    * `Naming.lastRun`
    * `Naming.StartsSmall`
    * `Naming.Vanishes`

  Key theorems include:
    * `Naming.trailing_alphanum_iff`
    * `Naming.humps_alphanum_iff`
    * `Naming.exists_humps_eq`
    * `Naming.camel_alphanum_iff`
    * `Naming.camel_small_iff`
    * `Naming.camel_isIdentifier_iff`
-/

------------------------------------------------------------
-- Separators at the End
------------------------------------------------------------

namespace TraceMining

namespace Naming

/- A character that no identifier has. -/
def isSeparator
    (c : Char) : Bool :=
  !c.isAlphanum

/- The separators at the end of a text. -/
def lastRun
    (cs : List Char) : List Char :=
  cs.rtakeWhile isSeparator

/- They are none, or several of which the last becomes text. -/
def Vanishes
    (run : List Char) : Prop :=
  run = [] ∨
    ∃ front c,
      run = front ++ [c] ∧ front ≠ [] ∧ c ∈ Text.raisedIn

/- At least two separators vanish if the last one does. -/
theorem vanishes_concat_iff
    {front : List Char}
    {c : Char} :
    Vanishes (front ++ [c]) ↔
      front ≠ [] ∧ c ∈ Text.raisedIn := by
  constructor
  · intro hVanishes
    rcases hVanishes with hNone | ⟨start, last, hSame, hMore⟩
    · exact absurd hNone (List.concat_ne_nil c front)
    · rcases List.append_inj' hSame rfl with ⟨rfl, hLast⟩
      obtain rfl := List.singleton_inj.mp hLast
      exact hMore
  · intro hMore
    exact Or.inr ⟨front, c, rfl, hMore⟩

/- No run at the end goes back beyond a letter or digit. -/
theorem lastRun_append_cons
    {c : Char}
    (hBasic : c.isAlphanum = true)
    (as cs : List Char) :
    lastRun (as ++ c :: cs) = lastRun cs := by
  unfold lastRun
  induction cs using List.reverseRecOn with
  | nil =>
      rw [List.rtakeWhile_concat, List.rtakeWhile_nil]
      simp [isSeparator, hBasic]
  | append_singleton cs d ih =>
      rw [← List.cons_append, ← List.append_assoc,
        List.rtakeWhile_concat, List.rtakeWhile_concat, ih]

/- Separators alone are the last run themselves. -/
theorem lastRun_eq_self
    {run : List Char}
    (hRun : ∀ c ∈ run, c.isAlphanum = false) :
    lastRun run = run := by
  rw [lastRun, List.rtakeWhile_eq_self_iff]
  intro c hMember
  simp [isSeparator, hRun c hMember]

/- A line feed at the end stays there. -/
theorem feed_mem_trailing
    (front : List Char) :
    '\n' ∈ trailing (front ++ ['\n']) := by
  unfold trailing
  dsimp only
  split
  · simp
  · simp

/- Any other separator at the end is raised unless alone. -/
theorem trailing_concat
    {front : List Char}
    {c : Char}
    (hOther : c ≠ '\n') :
    trailing (front ++ [c]) =
      if front = [] then [c] else Text.upperChar c := by
  have hEnds : (front ++ [c]).reverse = c :: front.reverse := by
    simp
  unfold trailing
  simp only [hEnds, List.takeWhile_cons, List.dropWhile_cons,
    beq_iff_eq, hOther, if_false]
  by_cases hAlone : front = []
  · simp [hAlone]
  · rcases List.exists_cons_of_ne_nil
      (mt List.reverse_eq_nil_iff.mp hAlone) with ⟨d, ds, hRest⟩
    simp [hAlone, hRest]

/- What is left of a run is letters just if it vanishes. -/
theorem trailing_alphanum_iff
    {run : List Char}
    (hRun : ∀ c ∈ run, c.isAlphanum = false) :
    (∀ d ∈ trailing run, d.isAlphanum = true) ↔
      Vanishes run := by
  rcases List.eq_nil_or_concat' run with rfl | ⟨front, c, rfl⟩
  · exact iff_of_true nofun (Or.inl rfl)
  · have hLast : c.isAlphanum = false := hRun c (by simp)
    rw [vanishes_concat_iff]
    by_cases hFeed : c = '\n'
    · rw [hFeed]
      refine iff_of_false ?_ ?_
      · intro hAll
        exact absurd (hAll '\n' (feed_mem_trailing front))
          (by decide)
      · intro hMore
        exact absurd hMore.2 (by decide)
    · rw [trailing_concat hFeed]
      by_cases hAlone : front = []
      · simp [hAlone, hLast]
      · rw [if_neg hAlone, Text.upperChar_alphanum_iff hLast]
        simp [hAlone]

end Naming

end TraceMining

------------------------------------------------------------
-- Joined Words
------------------------------------------------------------

namespace TraceMining

namespace Naming

/- One more separator leaves a run of separators. -/
theorem forall_concat_separator
    {run : List Char}
    (hRun : ∀ c ∈ run, c.isAlphanum = false)
    {c : Char}
    (hOther : ¬ c.isAlphanum = true) :
    ∀ d ∈ run ++ [c], d.isAlphanum = false := by
  intro d hMember
  rcases List.mem_append.mp hMember with hOld | hNew
  · exact hRun d hOld
  · rw [List.mem_singleton.mp hNew]
    exact eq_false_of_ne_true hOther

/- Words are letters just if what ends the text vanishes. -/
theorem humps_alphanum_iff
    {run : List Char}
    (hRun : ∀ c ∈ run, c.isAlphanum = false)
    (cs : List Char) :
    (∀ d ∈ humps run cs, d.isAlphanum = true) ↔
      Vanishes (lastRun (run ++ cs)) := by
  induction cs generalizing run with
  | nil =>
      rw [List.append_nil, lastRun_eq_self hRun]
      exact trailing_alphanum_iff hRun
  | cons c cs ih =>
      rw [humps]
      by_cases hBasic : c.isAlphanum = true
      · have hFirst :
            ∀ d ∈ if run.isEmpty then [c] else Text.upperChar c,
              d.isAlphanum = true := by
          intro d hMember
          split at hMember
          · rwa [List.mem_singleton.mp hMember]
          · rw [Text.upperChar_of_alphanum hBasic] at hMember
            rw [List.mem_singleton.mp hMember]
            exact Text.isAlphanum_toUpper hBasic
        -- The run ends here, so the rest decides.
        have hRest := ih (List.forall_mem_nil _)
        rw [if_pos hBasic, List.forall_mem_append,
          and_iff_right hFirst, hRest, List.nil_append,
          lastRun_append_cons hBasic]
      · have hMore := forall_concat_separator hRun hBasic
        rw [if_neg hBasic, ih hMore, List.append_assoc]
        rfl

/- The first letter or digit comes first, maybe raised. -/
theorem exists_humps_eq
    {run cs : List Char}
    (hRun : ∀ c ∈ run, c.isAlphanum = false)
    {c : Char}
    (hFind : cs.find? Char.isAlphanum = some c) :
    ∃ rest,
      humps run cs =
        (if (run ++ cs).head? = some c then c
          else c.toUpper) :: rest := by
  induction cs generalizing run with
  | nil => cases hFind
  | cons d cs ih =>
      rw [humps]
      by_cases hBasic : d.isAlphanum = true
      · rw [List.find?_cons_of_pos hBasic] at hFind
        obtain rfl := Option.some.inj hFind
        rw [if_pos hBasic]
        cases run with
        | nil => exact ⟨humps [] cs, by simp⟩
        | cons r run =>
            have hOther : r ≠ d := by
              rintro rfl
              rw [hRun r List.mem_cons_self] at hBasic
              cases hBasic
            refine ⟨humps [] cs, ?_⟩
            simp [hOther, Text.upperChar_of_alphanum hBasic]
      · rw [List.find?_cons_of_neg hBasic] at hFind
        have hMore := forall_concat_separator hRun hBasic
        rw [if_neg hBasic]
        simpa using ih hMore hFind

end Naming

end TraceMining

------------------------------------------------------------
-- Identifiers
------------------------------------------------------------

namespace TraceMining

namespace Naming

/-
  Some letters and digits of the basic alphabet, of which the
  first is no capital.
-/
structure IsIdentifier
    (s : String) : Prop where
  nonempty : s ≠ ""
  alphanum : ∀ c ∈ s.toList, c.isAlphanum = true
  small : ∀ c, s.toList.head? = some c → c.isUpper = false

/- The first letter or digit is in front, or is a digit. -/
def StartsSmall
    (cs : List Char) : Prop :=
  ∀ c, cs.find? Char.isAlphanum = some c →
    cs.head? = some c ∨ c.isDigit = true

/- A letter or digit of a text is in the lowered text too. -/
theorem exists_find?_lowerChars
    {cs : List Char}
    (hSome : ∃ c ∈ cs, c.isAlphanum = true) :
    ∃ c, (Text.lowerChars cs).find? Char.isAlphanum = some c := by
  rcases hSome with ⟨c, hMember, hBasic⟩
  rcases List.append_of_mem hMember with ⟨as, bs, rfl⟩
  rcases Text.exists_lowerAfter_append hBasic false as bs with
    ⟨front, seen, hLowered⟩
  rw [← Option.isSome_iff_exists, List.find?_isSome,
    Text.lowerChars, hLowered]
  exact ⟨c.toLower, by simp, Text.isAlphanum_toLower hBasic⟩

/- A text that has one in front starts small if lowered. -/
theorem startsSmall_lowerChars
    {c : Char}
    (hBasic : c.isAlphanum = true)
    (cs : List Char) :
    StartsSmall (Text.lowerChars (c :: cs)) := by
  rcases Text.exists_lowerAfter_cons hBasic false cs with
    ⟨seen, hLowered⟩
  have hFirst := Text.isAlphanum_toLower hBasic
  intro d hFind
  rw [Text.lowerChars, hLowered,
    List.find?_cons_of_pos hFirst] at hFind
  rw [Text.lowerChars, hLowered]
  exact Or.inl hFind

/- One that has one at the end has no run of separators. -/
theorem lastRun_lowerChars
    {c : Char}
    (hBasic : c.isAlphanum = true)
    (cs : List Char) :
    lastRun (Text.lowerChars (cs ++ [c])) = [] := by
  rcases Text.exists_lowerAfter_append hBasic false cs [] with
    ⟨front, seen, hLowered⟩
  rw [Text.lowerChars, hLowered,
    lastRun_append_cons (Text.isAlphanum_toLower hBasic)]
  rfl

/- The name of a text has its first letter or digit first. -/
theorem exists_toList_camel
    {text : String}
    {c : Char}
    (hFind :
      (Text.lowerChars text.toList).find? Char.isAlphanum =
        some c) :
    ∃ rest,
      (camel text).toList =
        (if (Text.lowerChars text.toList).head? = some c then c
          else c.toUpper) :: rest := by
  rcases exists_humps_eq (List.forall_mem_nil _) hFind with
    ⟨rest, hHumps⟩
  exact ⟨rest, by rw [camel, String.toList_ofList, hHumps]; rfl⟩

/- So the name is not empty. -/
theorem camel_ne_empty
    {text : String}
    (hSome : ∃ c ∈ text.toList, c.isAlphanum = true) :
    camel text ≠ "" := by
  rcases exists_find?_lowerChars hSome with ⟨c, hFind⟩
  rcases exists_toList_camel hFind with ⟨rest, hChars⟩
  intro hEmpty
  rw [hEmpty] at hChars
  cases hChars

/- It has letters and digits just if what ends it vanishes. -/
theorem camel_alphanum_iff
    (text : String) :
    (∀ c ∈ (camel text).toList, c.isAlphanum = true) ↔
      Vanishes (lastRun (Text.lowerChars text.toList)) := by
  rw [camel, String.toList_ofList]
  exact humps_alphanum_iff (List.forall_mem_nil _) _

/- Its first is small just if the lowered text starts so. -/
theorem camel_small_iff
    {text : String}
    (hSome : ∃ c ∈ text.toList, c.isAlphanum = true) :
    (∀ c, (camel text).toList.head? = some c →
        c.isUpper = false) ↔
      StartsSmall (Text.lowerChars text.toList) := by
  rcases exists_find?_lowerChars hSome with ⟨c, hFind⟩
  rcases exists_toList_camel hFind with ⟨rest, hChars⟩
  have hBasic : c.isAlphanum = true := List.find?_some hFind
  have hSmall : c.isUpper = false :=
    Text.not_isUpper_of_mem_lowerChars
      (List.mem_of_find?_eq_some hFind)
  unfold StartsSmall
  simp only [hFind, hChars, List.head?_cons, Option.some.injEq,
    forall_eq']
  split
  · rename_i hFront
    exact iff_of_true hSmall (Or.inl hFront)
  · rename_i hBehind
    rw [Text.isUpper_toUpper_eq_false_iff hBasic,
      or_iff_right hBehind]

/-
  The name of a text that has a letter or digit of the basic
  alphabet is never empty.  It is an identifier just if the
  lowered text starts small and the separators at its end
  vanish; and this is so of every text that has a letter or
  digit both in front and at the end.
-/
theorem camel_isIdentifier_iff
    (text : String)
    (hSome : ∃ c ∈ text.toList, c.isAlphanum = true) :
    camel text ≠ "" ∧
      (IsIdentifier (camel text) ↔
        StartsSmall (Text.lowerChars text.toList) ∧
          Vanishes (lastRun (Text.lowerChars text.toList))) ∧
      ∀ c d,
        text.toList.head? = some c → c.isAlphanum = true →
          text.toList.getLast? = some d → d.isAlphanum = true →
            IsIdentifier (camel text) := by
  have hExactly :
      IsIdentifier (camel text) ↔
        StartsSmall (Text.lowerChars text.toList) ∧
          Vanishes (lastRun (Text.lowerChars text.toList)) := by
    constructor
    · intro hIdentifier
      exact ⟨(camel_small_iff hSome).mp hIdentifier.small,
        (camel_alphanum_iff text).mp hIdentifier.alphanum⟩
    · rintro ⟨hStarts, hVanishes⟩
      exact ⟨camel_ne_empty hSome,
        (camel_alphanum_iff text).mpr hVanishes,
        (camel_small_iff hSome).mpr hStarts⟩
  refine ⟨camel_ne_empty hSome, hExactly, ?_⟩
  intro c d hFront hFirst hEnd hLast
  rw [hExactly]
  rcases List.head?_eq_some_iff.mp hFront with ⟨cs, hCons⟩
  rcases List.getLast?_eq_some_iff.mp hEnd with ⟨ds, hConcat⟩
  have hStarts := startsSmall_lowerChars hFirst cs
  have hRun := lastRun_lowerChars hLast ds
  rw [← hCons] at hStarts
  rw [← hConcat] at hRun
  exact ⟨hStarts, Or.inl hRun⟩

/- A digit behind a blank may be in front of the name. -/
theorem camel_isIdentifier_iff_firstItem :
    (∃ c ∈ " 1st Item".toList, c.isAlphanum = true) ∧
      camel " 1st Item" = "1stItem" ∧
      IsIdentifier (camel " 1st Item") ∧
      IsIdentifier (camel "Menu Items") := by
  have hSome :
      ∃ c ∈ " 1st Item".toList, c.isAlphanum = true :=
    ⟨'1', by decide, by decide⟩
  have hStarts :
      StartsSmall (Text.lowerChars " 1st Item".toList) := by
    intro c hFind
    have hFirst :
        (Text.lowerChars " 1st Item".toList).find?
            Char.isAlphanum = some '1' := by
      decide +kernel
    rw [hFirst] at hFind
    obtain rfl := Option.some.inj hFind
    exact Or.inr (by decide)
  have hRun :
      lastRun (Text.lowerChars " 1st Item".toList) = [] := by
    decide +kernel
  rcases camel_isIdentifier_iff " 1st Item" hSome with
    ⟨_, hExactly, _⟩
  rcases camel_isIdentifier_iff "Menu Items"
      ⟨'M', by decide, by decide⟩ with
    ⟨_, _, hEnds⟩
  exact ⟨hSome, by decide +kernel,
    hExactly.mpr ⟨hStarts, Or.inl hRun⟩,
    hEnds 'M' 's' (by decide) (by decide) (by decide) (by decide)⟩

/- A single mark at the end stays in the name. -/
theorem not_camel_isIdentifier_exclaimed :
    ¬ ((∃ c ∈ "Menu Item!".toList, c.isAlphanum = true) →
      IsIdentifier (camel "Menu Item!")) := by
  intro hAlways
  have hIdentifier := hAlways ⟨'M', by decide, by decide⟩
  have hMark : '!' ∈ (camel "Menu Item!").toList := by
    decide +kernel
  exact absurd (hIdentifier.alphanum '!' hMark) (by decide)

end Naming

end TraceMining
