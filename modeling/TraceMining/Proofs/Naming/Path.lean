import TraceMining.Naming.Path
import TraceMining.Proofs.Text.Pieces

/-
  This file shows what the first segment of a path is: a text
  without slashes that stands behind one, or else the path
  itself.  Two paths can only share one of the former kind,
  and that is the first segment of the path that consists of a
  slash and it.  The first segment that is not empty is the
  same one if the path has a slash in front and no second one
  behind it, or has no slash at all.

  Key definitions include:
    * `Naming.IsSegment`
    * `Naming.lead?`
    * `Naming.IsDirect`

  Key theorems include:
    * `Naming.firstSegment_eq_self_or`
    * `Naming.isSegment_of_shared`
    * `Naming.firstSegment_slash`
    * `Naming.lead?_of_direct`
    * `Naming.firstSegment_of_not_direct`
-/

------------------------------------------------------------
-- First Segments
------------------------------------------------------------

namespace TraceMining

namespace Naming

/- Text that can stand between the slashes of a path. -/
def IsSegment
    (s : String) : Prop :=
  s ≠ "" ∧ '/' ∉ s.toList

instance
    (s : String) :
    Decidable (IsSegment s) := by
  unfold IsSegment
  infer_instance

/- A path without a first segment stands for itself. -/
theorem firstSegment_eq_self_or
    (path : String) :
    firstSegment path = path ∨
      IsSegment (firstSegment path) := by
  unfold firstSegment
  split
  · rename_i c cs hSecond
    right
    have hPiece := List.mem_of_getElem? hSecond
    constructor
    · rw [Ne, ← String.toList_inj, String.toList_ofList]
      exact List.cons_ne_nil c cs
    · rw [String.toList_ofList]
      exact Text.not_mem_of_mem_pieces hPiece
  · exact Or.inl rfl

/- What two paths share is a segment of one of them. -/
theorem isSegment_of_shared
    {path other s : String}
    (hOther : path ≠ other)
    (hFirst : firstSegment path = s)
    (hSecond : firstSegment other = s) :
    IsSegment s := by
  rcases firstSegment_eq_self_or path with hWhole | hPart
  · rcases firstSegment_eq_self_or other with hThat | hPart
    · refine absurd ?_ hOther
      rw [← hWhole, ← hThat, hFirst, hSecond]
    · rwa [hSecond] at hPart
  · rwa [hFirst] at hPart

/- A slash and a segment are a path with that segment. -/
theorem firstSegment_slash
    {s : String}
    (hSegment : IsSegment s) :
    firstSegment ("/" ++ s) = s := by
  rcases hSegment with ⟨hText, hSlash⟩
  have hPieces :
      Text.pieces '/' ("/" ++ s).toList = [[], s.toList] := by
    rw [String.toList_append, ← Text.pieces_of_not_mem hSlash]
    exact Text.pieces_append List.not_mem_nil s.toList
  unfold firstSegment
  rw [hPieces]
  cases hChars : s.toList with
  | nil => exact absurd (String.toList_eq_nil_iff.mp hChars) hText
  | cons c cs =>
      simp only [List.getElem?_cons_succ,
        List.getElem?_cons_zero]
      rw [← hChars, String.ofList_toList]

end Naming

end TraceMining

------------------------------------------------------------
-- Leading Segments
------------------------------------------------------------

namespace TraceMining

namespace Naming

/- The first segment of a path that is not empty. -/
def lead?
    (path : String) : Option String :=
  (segments path).head?

/- A path has just one slash in front, or none anywhere. -/
def IsDirect
    (path : String) : Prop :=
  '/' ∉ path.toList ∨
    path.toList.head? = some '/' ∧
      path.toList[1]? ≠ some '/'

instance
    (path : String) :
    Decidable (IsDirect path) := by
  unfold IsDirect
  infer_instance

/- A path without slashes is one segment, or none. -/
theorem lead?_of_not_mem
    {path : String}
    (hSome : segments path ≠ [])
    (hNone : '/' ∉ path.toList) :
    lead? path = some path ∧ firstSegment path = path := by
  have hPieces := Text.pieces_of_not_mem hNone
  constructor
  · rw [segments, hPieces] at hSome
    rw [lead?, segments, hPieces]
    cases hChars : path.toList with
    | nil =>
        rw [hChars] at hSome
        exact absurd rfl hSome
    | cons c cs =>
        rw [← String.ofList_toList (s := path), hChars]
        rfl
  · rw [firstSegment, hPieces]
    rfl

/- Behind one slash the first segment is at once there. -/
theorem lead?_of_slash
    {path : String}
    {c : Char}
    {cs : List Char}
    (hChars : path.toList = '/' :: c :: cs)
    (hOther : c ≠ '/') :
    lead? path = some (firstSegment path) := by
  rcases Text.exists_pieces_cons hOther cs with
    ⟨p, ps, hRest⟩
  have hPieces :
      Text.pieces '/' path.toList = [] :: (c :: p) :: ps := by
    rw [hChars, Text.pieces, if_pos rfl, hRest]
  rw [lead?, segments, firstSegment, hPieces]
  rfl

/- So both first segments are the same on a direct path. -/
theorem lead?_of_direct
    {path : String}
    (hSome : segments path ≠ [])
    (hDirect : IsDirect path) :
    lead? path = some (firstSegment path) := by
  rcases hDirect with hNone | ⟨hFront, hSecond⟩
  · rcases lead?_of_not_mem hSome hNone with ⟨hLead, hFirst⟩
    rw [hLead, hFirst]
  · match hChars : path.toList with
    | [] =>
        rw [hChars] at hFront
        cases hFront
    | [c] =>
        rw [hChars, List.head?_cons, Option.some.injEq]
          at hFront
        rw [segments, hChars, hFront] at hSome
        exact absurd rfl hSome
    | c :: d :: cs =>
        rw [hChars, List.head?_cons, Option.some.injEq]
          at hFront
        rw [hChars] at hSecond
        refine lead?_of_slash (hFront ▸ hChars) ?_
        rintro rfl
        exact hSecond rfl

/-
  Of any other path, what stands behind the first slash is the
  second segment, or nothing, so that it stands for itself.
-/
theorem firstSegment_of_not_direct
    {path : String}
    (hOther : ¬ IsDirect path) :
    firstSegment path = path ∨
      (segments path)[1]? = some (firstSegment path) := by
  rw [IsDirect, not_or, Decidable.not_not, not_and, ne_eq,
    Decidable.not_not] at hOther
  rcases hOther with ⟨hSlash, hSecond⟩
  rw [firstSegment, segments]
  cases hChars : path.toList with
  | nil =>
      rw [hChars] at hSlash
      exact absurd hSlash List.not_mem_nil
  | cons c cs =>
      rw [hChars] at hSecond
      by_cases hFront : c = '/'
      · have hNext := hSecond (congrArg some hFront)
        cases cs with
        | nil => cases hNext
        | cons d ds =>
            left
            rw [hFront, Option.some.inj hNext, Text.pieces,
              if_pos rfl, Text.pieces, if_pos rfl]
            rfl
      · rcases Text.exists_pieces_cons hFront cs with
          ⟨p, ps, hPieces⟩
        rw [hPieces]
        cases ps with
        | nil => exact Or.inl rfl
        | cons q qs =>
            cases q with
            | nil => exact Or.inl rfl
            | cons d q => exact Or.inr rfl

end Naming

end TraceMining
