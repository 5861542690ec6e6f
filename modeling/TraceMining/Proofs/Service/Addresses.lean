import TraceMining.Proofs.Recognition.Names
import TraceMining.Proofs.Text.Pieces
import TraceMining.Service.Route

/-
  This file shows how identities fit into addresses.  One that
  is derived or counted consists of hexadecimal digits and
  little else; so a derived identity is one segment of a path,
  and no route but that of patterns takes it.

  Key theorems include:
    * `Text.not_mem_hex`
    * `Identity.slash_not_mem_named`
    * `Identity.colon_not_mem_session`
    * `Service.resolve_pattern`
-/

------------------------------------------------------------
-- Characters
------------------------------------------------------------

namespace TraceMining

namespace Text

/- What is no hexadecimal digit is in no such numeral. -/
theorem not_mem_toDigits
    {c : Char}
    (hOther : ∀ k < 16, Nat.digitChar k ≠ c)
    (n : Nat) :
    c ∉ Nat.toDigits 16 n := by
  induction n using Nat.strongRecOn with
  | ind n ih =>
      rw [Nat.toDigits_eq_if (by decide)]
      split
      · rename_i hDigit
        rw [List.mem_singleton]
        exact (hOther n hDigit).symm
      · rename_i hMore
        rw [List.mem_append, List.mem_singleton, not_or]
        exact ⟨ih (n / 16) (by omega),
          (hOther (n % 16) (by omega)).symm⟩

/- Neither is it if the numeral is filled up with zeros. -/
theorem not_mem_hex
    {c : Char}
    (hOther : ∀ k < 16, Nat.digitChar k ≠ c)
    (width n : Nat) :
    c ∉ hex width n := by
  intro hMember
  rcases List.mem_append.mp hMember with hZero | hDigit
  · have hSame := List.eq_of_mem_replicate hZero
    exact hOther 0 (by decide) hSame.symm
  · exact not_mem_toDigits hOther n hDigit

end Text

end TraceMining

------------------------------------------------------------
-- Identities
------------------------------------------------------------

namespace TraceMining

namespace Identity

/- Groups are joined by dashes. -/
theorem toList_grouped
    (ds : List Char) :
    (grouped ds).toList =
      ['-'].intercalate
        [ (ds.drop 0).take 8, (ds.drop 8).take 4
        , (ds.drop 12).take 4, (ds.drop 16).take 4
        , (ds.drop 20).take 12 ] := by
  simp [grouped]

/- Digits in groups have only dashes in between. -/
theorem not_mem_grouped
    {c : Char}
    {ds : List Char}
    (hDash : c ≠ '-')
    (hDigits : c ∉ ds) :
    c ∉ (grouped ds).toList := by
  have hPart : ∀ n m, c ∉ (ds.drop n).take m :=
    fun n m hMember =>
      hDigits (List.mem_of_mem_drop
        (List.mem_of_mem_take hMember))
  rw [toList_grouped]
  intro hMember
  rcases Matching.mem_intercalate hMember with
    hSep | ⟨part, hList, hInside⟩
  · exact hDash hSep
  · simp only [List.mem_cons, List.not_mem_nil, or_false]
      at hList
    rcases hList with rfl | rfl | rfl | rfl | rfl
    all_goals exact hPart _ _ hInside

/- And dashes there are. -/
theorem dash_mem_grouped
    (ds : List Char) :
    '-' ∈ (grouped ds).toList := by
  rw [toList_grouped]
  simp [List.intercalate, List.intersperse]

/- A derived identity is some bytes in groups. -/
theorem exists_named_eq
    (key : List UInt8)
    (name : String) :
    ∃ bytes : List UInt8,
      named key name =
        grouped (bytes.flatMap fun b =>
          Text.hex 2 b.toNat) := by
  unfold named
  exact ⟨_, rfl⟩

/- It is one segment of a path. -/
theorem slash_not_mem_named
    (key : List UInt8)
    (name : String) :
    '/' ∉ (named key name).toList := by
  rcases exists_named_eq key name with ⟨bytes, hNamed⟩
  rw [hNamed]
  apply not_mem_grouped (by decide)
  intro hMember
  rcases List.mem_flatMap.mp hMember with ⟨b, _, hDigit⟩
  exact Text.not_mem_hex (by decide) 2 b.toNat hDigit

/- It has a dash in it. -/
theorem dash_mem_named
    (key : List UInt8)
    (name : String) :
    '-' ∈ (named key name).toList := by
  rcases exists_named_eq key name with ⟨bytes, hNamed⟩
  rw [hNamed]
  exact dash_mem_grouped _

/- A session that is counted has no colon in its identity. -/
theorem colon_not_mem_session
    (k : Nat) :
    ':' ∉ (session k).toList := by
  rw [session, String.toList_append, List.mem_append, not_or]
  refine ⟨by decide, ?_⟩
  rw [String.toList_ofList]
  exact Text.not_mem_hex (by decide) 12 k

end Identity

end TraceMining

------------------------------------------------------------
-- Routes
------------------------------------------------------------

namespace TraceMining

namespace Service

/- The address of a pattern has two segments. -/
theorem captures?_pattern
    {id : String}
    (hSegment : '/' ∉ id.toList)
    (template : List Part) :
    captures? template ("/patterns/" ++ id) =
      segmentCaptures? template
        ["patterns".toList, id.toList] := by
  have hPath :
      ("/patterns/" ++ id).toList =
        [] ++ '/' :: ("patterns".toList ++
          '/' :: id.toList) := by
    rw [String.toList_append]
    rfl
  rw [captures?, hPath,
    Text.pieces_append List.not_mem_nil,
    Text.pieces_append (by decide),
    Text.pieces_of_not_mem hSegment]

/- The address of a pattern leads to the pattern. -/
theorem resolve_pattern
    {id : String}
    (hSegment : '/' ∉ id.toList)
    (hDash : '-' ∈ id.toList) :
    resolve "GET" ("/patterns/" ++ id) =
      .found .getPattern [id] := by
  have hSome : id.toList.isEmpty = false :=
    List.isEmpty_eq_false_iff.mpr (List.ne_nil_of_mem hDash)
  have hOther : sameEnd "definitions" id.toList = false := by
    rw [sameEnd, Bool.or_eq_false_iff, beq_eq_false_iff_ne,
      beq_eq_false_iff_ne]
    constructor
    · intro hSame
      exact absurd (hSame ▸ hDash) (by decide)
    · intro hSame
      exact absurd (hSame ▸ hDash) (by decide)
  simp [resolve, routes, captures?_pattern hSegment,
    segmentCaptures?, fixed, followed, hSome, hOther]

end Service

end TraceMining
