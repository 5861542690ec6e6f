import Mathlib.Data.List.Basic
import TraceMining.Matching.Recognition

/-
  This file shows when the name of a pattern tells definition
  and events apart.  A name puts a colon behind the session
  and the definition and commas between the events; it can be
  taken apart again unless these stand in the identities too.

  Key definitions include:
    * `Matching.AreReadable`

  Key theorems include:
    * `Matching.append_cons_left_inj`
    * `Matching.append_cons_right_inj`
    * `Matching.intercalate_inj`
    * `Matching.patternName_session_inj`
    * `Matching.patternName_left_inj`
    * `Matching.patternName_inj`
-/

------------------------------------------------------------
-- Separators
------------------------------------------------------------

namespace TraceMining

namespace Matching

variable {α : Type}
variable {sep : α}

/- A list is cut at its first separator in one way. -/
theorem append_cons_left_inj
    {as bs cs ds : List α}
    (hFirst : sep ∉ as)
    (hSecond : sep ∉ bs)
    (hSame : as ++ sep :: cs = bs ++ sep :: ds) :
    as = bs ∧ cs = ds := by
  induction as generalizing bs with
  | nil =>
      cases bs with
      | nil => exact ⟨rfl, (List.cons.inj hSame).2⟩
      | cons b bs =>
          have hHead := (List.cons.inj hSame).1
          exact absurd (hHead ▸ List.mem_cons_self) hSecond
  | cons a as ih =>
      cases bs with
      | nil =>
          have hHead := (List.cons.inj hSame).1
          exact absurd (hHead ▸ List.mem_cons_self) hFirst
      | cons b bs =>
          rw [List.mem_cons, not_or] at hFirst hSecond
          rcases List.cons.inj hSame with ⟨hHead, hTail⟩
          rcases ih hFirst.2 hSecond.2 hTail with
            ⟨hFronts, hRests⟩
          exact ⟨by rw [hHead, hFronts], hRests⟩

/- So it is at its last one. -/
theorem append_cons_right_inj
    {as bs cs ds : List α}
    (hFirst : sep ∉ cs)
    (hSecond : sep ∉ ds)
    (hSame : as ++ sep :: cs = bs ++ sep :: ds) :
    as = bs ∧ cs = ds := by
  have hReverse := congrArg List.reverse hSame
  simp only [List.reverse_append, List.reverse_cons,
    List.append_assoc, List.singleton_append] at hReverse
  rcases append_cons_left_inj
      (fun hMember => hFirst (List.mem_reverse.mp hMember))
      (fun hMember => hSecond (List.mem_reverse.mp hMember))
      hReverse with ⟨hEnds, hFronts⟩
  exact ⟨List.reverse_injective hFronts,
    List.reverse_injective hEnds⟩

/- What is in joined lists is in one of them, or joins them. -/
theorem mem_intercalate
    {a : α}
    {ls : List (List α)}
    (hMember : a ∈ [sep].intercalate ls) :
    a = sep ∨ ∃ l ∈ ls, a ∈ l := by
  induction ls with
  | nil => exact absurd hMember List.not_mem_nil
  | cons l ls ih =>
      cases ls with
      | nil =>
          rw [List.intercalate_singleton] at hMember
          exact Or.inr ⟨l, List.mem_cons_self, hMember⟩
      | cons m ls =>
          rw [List.intercalate_cons_cons, List.append_assoc,
            List.mem_append, List.mem_append,
            List.mem_singleton] at hMember
          rcases hMember with hFirst | rfl | hRest
          · exact Or.inr ⟨l, List.mem_cons_self, hFirst⟩
          · exact Or.inl rfl
          · rcases ih hRest with hSep | ⟨n, hList, hInside⟩
            · exact Or.inl hSep
            · exact Or.inr
                ⟨n, List.mem_cons_of_mem l hList, hInside⟩

/- Lists without the separator are joined in one way. -/
theorem intercalate_inj
    [BEq α]
    [LawfulBEq α]
    {ls ms : List (List α)}
    (hFirst : ∀ l ∈ ls, sep ∉ l)
    (hSecond : ∀ m ∈ ms, sep ∉ m)
    (hSome : ls ≠ [])
    (hOther : ms ≠ [])
    (hSame : [sep].intercalate ls = [sep].intercalate ms) :
    ls = ms := by
  rw [← List.splitOn_intercalate sep hFirst hSome,
    ← List.splitOn_intercalate sep hSecond hOther, hSame]

end Matching

end TraceMining

------------------------------------------------------------
-- Names
------------------------------------------------------------

namespace TraceMining

namespace Matching

/- The characters of event identities that are joined. -/
def joinedIds
    (ids : List String) : List Char :=
  [','].intercalate (ids.map String.toList)

/- A name consists of session, definition and events. -/
theorem toList_patternName
    (sessionId definitionId : String)
    (ids : List String) :
    (patternName sessionId definitionId ids).toList =
      sessionId.toList ++ ':' ::
        (definitionId.toList ++ ':' :: joinedIds ids) := by
  simp [patternName, joinedIds, String.toList_intercalate]

/- It tells the session if that has no colon in it. -/
theorem patternName_session_inj
    {s t d e : String}
    {ids others : List String}
    (hFirst : ':' ∉ s.toList)
    (hSecond : ':' ∉ t.toList)
    (hSame : patternName s d ids = patternName t e others) :
    s = t := by
  have hTexts := congrArg String.toList hSame
  rw [toList_patternName, toList_patternName] at hTexts
  exact String.toList_inj.mp
    (append_cons_left_inj hFirst hSecond hTexts).1

/- With the same events it is the definition that matters. -/
theorem patternName_left_inj
    {sessionId d e : String}
    {ids : List String}
    (hSame :
      patternName sessionId d ids =
        patternName sessionId e ids) :
    d = e := by
  have hTexts := congrArg String.toList hSame
  rw [toList_patternName, toList_patternName] at hTexts
  have hRest := (List.cons.inj
    (List.append_cancel_left hTexts)).2
  exact String.toList_inj.mp (List.append_cancel_right hRest)

/-
  Identities of definitions and events that can be read back
  from a name: no event has a comma in it, and not both some
  definition and some event have a colon.
-/
structure AreReadable
    (definitionIds : List String)
    (eventIds : List String) : Prop where
  commas : ∀ id ∈ eventIds, ',' ∉ id.toList
  colons :
    (∀ id ∈ definitionIds, ':' ∉ id.toList) ∨
      ∀ id ∈ eventIds, ':' ∉ id.toList

/- Joined events have a colon only if some event has. -/
theorem not_mem_joinedIds
    {ids : List String}
    (hColons : ∀ id ∈ ids, ':' ∉ id.toList) :
    ':' ∉ joinedIds ids := by
  intro hMember
  rcases mem_intercalate hMember with hSep | ⟨l, hList, hIn⟩
  · exact absurd hSep (by decide)
  · rcases List.mem_map.mp hList with ⟨id, hId, rfl⟩
    exact hColons id hId hIn

/- They are joined in one way if none has a comma. -/
theorem joinedIds_inj
    {ids others : List String}
    (hFirst : ∀ id ∈ ids, ',' ∉ id.toList)
    (hSecond : ∀ id ∈ others, ',' ∉ id.toList)
    (hSome : ids ≠ [])
    (hOther : others ≠ [])
    (hSame : joinedIds ids = joinedIds others) :
    ids = others := by
  have hLists :
      ids.map String.toList = others.map String.toList := by
    apply intercalate_inj _ _ _ _ hSame
    · exact List.forall_mem_map.mpr hFirst
    · exact List.forall_mem_map.mpr hSecond
    · rwa [Ne, List.map_eq_nil_iff]
    · rwa [Ne, List.map_eq_nil_iff]
  exact List.map_injective_iff.mpr
    (fun _ _ => String.toList_inj.mp) hLists

/- Readable names of a session are read in one way. -/
theorem patternName_inj
    {sessionId : String}
    {definitionIds eventIds : List String}
    (hReadable : AreReadable definitionIds eventIds)
    {d e : String}
    {ids others : List String}
    (hD : d ∈ definitionIds)
    (hE : e ∈ definitionIds)
    (hIds : ids ⊆ eventIds)
    (hOthers : others ⊆ eventIds)
    (hSome : ids ≠ [])
    (hOther : others ≠ [])
    (hSame :
      patternName sessionId d ids =
        patternName sessionId e others) :
    d = e ∧ ids = others := by
  have hTexts := congrArg String.toList hSame
  rw [toList_patternName, toList_patternName] at hTexts
  have hRest := (List.cons.inj
    (List.append_cancel_left hTexts)).2
  have hParts :
      d.toList = e.toList ∧
        joinedIds ids = joinedIds others := by
    rcases hReadable.colons with hDefinitions | hEvents
    · exact append_cons_left_inj (hDefinitions d hD)
        (hDefinitions e hE) hRest
    · exact append_cons_right_inj
        (not_mem_joinedIds fun id hId =>
          hEvents id (hIds hId))
        (not_mem_joinedIds fun id hId =>
          hEvents id (hOthers hId))
        hRest
  exact ⟨String.toList_inj.mp hParts.1,
    joinedIds_inj
      (fun id hId => hReadable.commas id (hIds hId))
      (fun id hId => hReadable.commas id (hOthers hId))
      hSome hOther hParts.2⟩

end Matching

end TraceMining
