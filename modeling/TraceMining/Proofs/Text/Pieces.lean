import TraceMining.Text.Search

/-
  This file shows into which pieces a separator cuts text.
  Text without the separator is one piece, a piece ends where
  the first separator stands, and none has one inside.

  Key theorems include:
    * `Text.pieces_of_not_mem`
    * `Text.pieces_append`
    * `Text.exists_pieces_cons`
    * `Text.not_mem_of_mem_pieces`
-/

------------------------------------------------------------
-- Pieces
------------------------------------------------------------

namespace TraceMining

namespace Text

/- Text without a separator is one piece. -/
theorem pieces_of_not_mem
    {sep : Char}
    {cs : List Char}
    (hNone : sep ∉ cs) :
    pieces sep cs = [cs] := by
  induction cs with
  | nil => rfl
  | cons c cs ih =>
      rw [List.mem_cons, not_or] at hNone
      rw [pieces, if_neg (Ne.symm hNone.1), ih hNone.2]

/- A piece ends at the first separator. -/
theorem pieces_append
    {sep : Char}
    {as : List Char}
    (hNone : sep ∉ as)
    (cs : List Char) :
    pieces sep (as ++ sep :: cs) = as :: pieces sep cs := by
  induction as with
  | nil => rw [List.nil_append, pieces, if_pos rfl]
  | cons a as ih =>
      rw [List.mem_cons, not_or] at hNone
      rw [List.cons_append, pieces,
        if_neg (Ne.symm hNone.1), ih hNone.2]

/- Text that does not begin with one has a first piece. -/
theorem exists_pieces_cons
    {sep c : Char}
    (hOther : c ≠ sep)
    (cs : List Char) :
    ∃ p ps, pieces sep (c :: cs) = (c :: p) :: ps := by
  rw [pieces, if_neg hOther]
  cases hRest : pieces sep cs with
  | nil => exact absurd hRest (pieces_ne_nil sep cs)
  | cons p ps => exact ⟨p, ps, rfl⟩

/- No piece has a separator inside. -/
theorem not_mem_of_mem_pieces
    {sep : Char}
    {cs : List Char}
    {p : List Char}
    (hPiece : p ∈ pieces sep cs) :
    sep ∉ p := by
  induction cs generalizing p with
  | nil =>
      rw [List.mem_singleton.mp hPiece]
      exact List.not_mem_nil
  | cons c cs ih =>
      rw [pieces] at hPiece
      split at hPiece
      · rcases List.mem_cons.mp hPiece with rfl | hLater
        · exact List.not_mem_nil
        · exact ih hLater
      · rename_i hOther
        -- The character goes to the first piece of the rest.
        cases hRest : pieces sep cs with
        | nil => exact absurd hRest (pieces_ne_nil sep cs)
        | cons q qs =>
            rw [hRest] at hPiece
            rcases List.mem_cons.mp hPiece with rfl | hLater
            · rw [List.mem_cons, not_or]
              refine ⟨Ne.symm hOther, ih ?_⟩
              rw [hRest]
              exact List.mem_cons_self
            · apply ih
              rw [hRest]
              exact List.mem_cons_of_mem q hLater

end Text

end TraceMining
