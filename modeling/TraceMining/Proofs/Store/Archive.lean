import TraceMining.Proofs.Store.Table
import TraceMining.Store.Archive

/-
  This file shows what writing to an archive leaves there:
  nothing but what was written or was there before, and every
  pattern whose identity no later one takes.  If patterns with
  one identity are of one kind, then those of a kind are
  written as if there were no others.

  Key definitions include:
    * `Archive.WriteFault.kept`
    * `Archive.IsLabelled`
    * `Archive.AgreeOn`
    * `Archive.only`

  Key theorems include:
    * `Archive.mem_values_saveAll`
    * `Archive.saveAll_snd`
    * `Archive.get?_write_of_ne`
    * `Archive.get?_write_of_mem`
    * `Archive.get?_write`
    * `Archive.only_write`
    * `Archive.mem_sessionIds_write`
-/

------------------------------------------------------------
-- Writing
------------------------------------------------------------

namespace TraceMining

namespace Archive

/- A pattern was written, or it was there before. -/
theorem mem_values_write
    {a : Archive}
    {ps : List Pattern}
    {p : Pattern}
    (hMember : p ∈ (a.write ps).values) :
    p ∈ ps ∨ p ∈ a.values :=
  Table.mem_values_putAll hMember

/- So it is if the archive may refuse the batch. -/
theorem mem_values_saveAll
    {a : Archive}
    {fault : WriteFault}
    {ps : List Pattern}
    {p : Pattern}
    (hMember : p ∈ (a.saveAll fault ps).2.values) :
    p ∈ ps ∨ p ∈ a.values := by
  unfold saveAll at hMember
  split at hMember
  · split at hMember
    · exact (mem_values_write hMember).imp_left
        List.mem_of_mem_take
    · exact Or.inr hMember
  · exact mem_values_write hMember

/- Identities that are not written keep their patterns. -/
theorem get?_write_of_ne
    (a : Archive)
    {ps : List Pattern}
    {id : String}
    (hOther : ∀ p ∈ ps, id ≠ p.id) :
    (a.write ps).get? id = a.get? id := by
  induction ps generalizing a with
  | nil => rfl
  | cons p ps ih =>
      rcases List.forall_mem_cons.mp hOther with
        ⟨hFirst, hRest⟩
      exact (ih (a.put p.id p) hRest).trans
        (Table.get?_put_of_ne a p hFirst)

/- Patterns with different identities are all there. -/
theorem get?_write_of_mem
    (a : Archive)
    {ps : List Pattern}
    (hIds : (ps.map Pattern.id).Nodup)
    {p : Pattern}
    (hMember : p ∈ ps) :
    (a.write ps).get? p.id = some p := by
  induction ps generalizing a with
  | nil => exact absurd hMember List.not_mem_nil
  | cons q ps ih =>
      rcases List.nodup_cons.mp hIds with ⟨hNew, hRest⟩
      rcases List.mem_cons.mp hMember with rfl | hMember
      · have hOther : ∀ q ∈ ps, p.id ≠ q.id := by
          intro q hLater hSame
          exact hNew (hSame ▸ List.mem_map_of_mem hLater)
        exact (get?_write_of_ne (a.put p.id p) hOther).trans
          (Table.get?_put_self a p.id p)
      · exact ih (a.put q.id q) hRest hMember

end Archive

end TraceMining

------------------------------------------------------------
-- Batches
------------------------------------------------------------

namespace TraceMining

namespace Archive

/- The part of a batch that is written. -/
def WriteFault.kept
    (fault : WriteFault)
    (ps : List Pattern) : List Pattern :=
  if fault.refuses ps then
    if fault.afterFirst then ps.take 1 else []
  else ps

variable {fault : WriteFault}
variable {ps : List Pattern}

/- It is what a batch leaves in the archive. -/
theorem saveAll_snd
    (a : Archive) :
    (a.saveAll fault ps).2 = a.write (fault.kept ps) := by
  unfold saveAll WriteFault.kept
  split
  · rfl
  · rfl

/- Only patterns of the batch are written. -/
theorem WriteFault.kept_subset :
    fault.kept ps ⊆ ps := by
  unfold kept
  split
  · split
    · exact List.take_subset 1 ps
    · exact List.nil_subset ps
  · exact List.Subset.refl ps

/- All are if the batch is not refused. -/
theorem WriteFault.kept_eq_self
    (hFine : fault.refuses ps = false) :
    fault.kept ps = ps := by
  simp [kept, hFine]

/- A batch of a session is refused with the session. -/
theorem WriteFault.refuses_eq
    {sessionId : String}
    (hOwn : ∀ p ∈ ps, p.sessionId = sessionId) :
    fault.refuses ps =
      (fault.sessions.contains sessionId && !ps.isEmpty) := by
  cases ps with
  | nil => simp [refuses]
  | cons p ps =>
      rcases List.forall_mem_cons.mp hOwn with ⟨hFirst, hRest⟩
      rw [Bool.eq_iff_iff]
      simp only [refuses, List.any_eq_true,
        List.isEmpty_cons, Bool.not_false, Bool.and_true]
      constructor
      · rintro ⟨q, hMember, hRefused⟩
        rwa [hOwn q hMember] at hRefused
      · intro hRefused
        exact ⟨p, List.mem_cons_self, hFirst.symm ▸ hRefused⟩

end Archive

end TraceMining

------------------------------------------------------------
-- Last Writes
------------------------------------------------------------

namespace TraceMining

namespace Archive

/- Every pattern is kept under its own identity. -/
def IsLabelled
    (a : Archive) : Prop :=
  ∀ e ∈ a.entries, e.1 = e.2.id

/- It stays so when patterns are written. -/
theorem IsLabelled.write
    {a : Archive}
    (hLabelled : a.IsLabelled)
    (ps : List Pattern) :
    (a.write ps).IsLabelled :=
  Table.IsNamed.putAll hLabelled ps

/- A pattern is then found under its identity. -/
theorem IsLabelled.get?_of_mem
    {a : Archive}
    (hLabelled : a.IsLabelled)
    {p : Pattern}
    (hStored : p ∈ a.values) :
    a.get? p.id = some p :=
  Table.IsNamed.get?_of_mem hLabelled hStored

/- Batches are written one after the other. -/
theorem write_append
    (a : Archive)
    (ps qs : List Pattern) :
    a.write (ps ++ qs) = (a.write ps).write qs :=
  List.foldl_append

/- Patterns with different identities are kept in a row. -/
theorem values_write_of_nodup
    {ps : List Pattern}
    (hIds : (ps.map Pattern.id).Nodup) :
    (write Table.empty ps).values = ps :=
  (Table.IsNamed.empty.values_putAll ps).trans
    (Roster.foldl_stored_of_nodup hIds)

/- The last pattern with an identity is the one that stays. -/
theorem get?_write
    (a : Archive)
    (ps : List Pattern)
    (id : String) :
    (a.write ps).get? id =
      (ps.filter fun p => p.id == id).getLast?.or
        (a.get? id) :=
  Table.get?_putAll Pattern.id a ps id

end Archive

end TraceMining

------------------------------------------------------------
-- Kinds of Patterns
------------------------------------------------------------

namespace TraceMining

/- A value of a kind is put among the others of that kind. -/
theorem Entries.filter_put_of_pos
    {α : Type}
    {isKind : α → Bool}
    {es : List (String × α)}
    {key : String}
    {a : α}
    (hKey : ∀ e ∈ es, e.1 = key → isKind e.2 = true)
    (hKind : isKind a = true) :
    ((put es key a).filter fun e => isKind e.2) =
      put (es.filter fun e => isKind e.2) key a := by
  induction es with
  | nil => simp [put, hKind]
  | cons first es ih =>
      rcases first with ⟨k, b⟩
      rcases List.forall_mem_cons.mp hKey with ⟨hFirst, hRest⟩
      by_cases hHere : k = key
      · simp [put, hHere, hKind, hFirst hHere]
      · by_cases hB : isKind b = true
        · simp [put, hHere, hB, ih hRest]
        · simp [put, hHere, hB, ih hRest]

/- A value of another kind is not seen among them. -/
theorem Entries.filter_put_of_neg
    {α : Type}
    {isKind : α → Bool}
    {es : List (String × α)}
    {key : String}
    {a : α}
    (hKey : ∀ e ∈ es, e.1 = key → isKind e.2 = false)
    (hKind : isKind a = false) :
    ((put es key a).filter fun e => isKind e.2) =
      es.filter fun e => isKind e.2 := by
  induction es with
  | nil => simp [put, hKind]
  | cons first es ih =>
      rcases first with ⟨k, b⟩
      rcases List.forall_mem_cons.mp hKey with ⟨hFirst, hRest⟩
      by_cases hHere : k = key
      · simp [put, hHere, hKind, hFirst hHere]
      · by_cases hB : isKind b = true
        · simp [put, hHere, hB, ih hRest]
        · simp [put, hHere, hB, ih hRest]

namespace Archive

/- Stored and new patterns with one identity agree. -/
def AgreeOn
    {β : Type}
    (f : Pattern → β)
    (a : Archive)
    (ps : List Pattern) : Prop :=
  ∀ p ∈ a.values ++ ps, ∀ q ∈ a.values ++ ps,
    p.id = q.id → f p = f q

/- They still do when some of the new ones are stored. -/
theorem AgreeOn.put
    {β : Type}
    {f : Pattern → β}
    {a : Archive}
    {p : Pattern}
    {ps : List Pattern}
    (hAgree : AgreeOn f a (p :: ps)) :
    AgreeOn f (a.put p.id p) ps := by
  have hInside :
      (a.put p.id p).values ++ ps ⊆ a.values ++ p :: ps := by
    intro q hMember
    rcases List.mem_append.mp hMember with hStored | hNew
    · rcases Table.mem_values_put hStored with rfl | hOld
      · simp
      · exact List.mem_append_left _ hOld
    · exact List.mem_append_right _
        (List.mem_cons_of_mem p hNew)
  exact fun q hQ r hR => hAgree q (hInside hQ) r (hInside hR)

/- The patterns of a kind, in their order. -/
def only
    (isKind : Pattern → Bool)
    (a : Archive) : Archive :=
  { entries := a.entries.filter fun e => isKind e.2
    nodup := a.nodup.sublist
      (List.filter_sublist.map Prod.fst) }

/- They are written as if there were no others. -/
theorem only_write
    {isKind : Pattern → Bool}
    {a : Archive}
    (hLabelled : a.IsLabelled)
    {ps : List Pattern}
    (hAgree : AgreeOn isKind a ps) :
    (a.write ps).only isKind =
      (a.only isKind).write (ps.filter isKind) := by
  induction ps generalizing a with
  | nil => rfl
  | cons p ps ih =>
      have hRest :=
        ih (hLabelled.write [p]) hAgree.put
      have hKey :
          ∀ e ∈ a.entries, e.1 = p.id →
            isKind e.2 = isKind p := by
        intro e hEntry hId
        rw [hLabelled e hEntry] at hId
        exact hAgree e.2
          (List.mem_append_left _
            (List.mem_map_of_mem hEntry))
          p (by simp) hId
      refine hRest.trans ?_
      by_cases hKind : isKind p = true
      · rw [List.filter_cons_of_pos hKind]
        refine congrArg (fun b : Archive =>
          b.write (ps.filter isKind)) ?_
        simp only [hKind] at hKey
        exact Table.ext_entries
          (Entries.filter_put_of_pos hKey hKind)
      · rw [List.filter_cons_of_neg hKind]
        refine congrArg (fun b : Archive =>
          b.write (ps.filter isKind)) ?_
        rw [Bool.not_eq_true] at hKind
        simp only [hKind] at hKey
        exact Table.ext_entries
          (Entries.filter_put_of_neg hKey hKind)

end Archive

end TraceMining

------------------------------------------------------------
-- Sessions with Patterns
------------------------------------------------------------

namespace TraceMining

namespace Archive

/- A session is listed if a pattern of it is stored. -/
theorem mem_sessionIds
    {a : Archive}
    {sessionId : String} :
    sessionId ∈ a.sessionIds ↔
      ∃ p ∈ a.values, p.sessionId = sessionId := by
  have hNames :=
    Distinct.name_mem_firstsBeyond id []
      (a.values.map Pattern.sessionId) sessionId
  rw [List.map_id, List.map_id] at hNames
  rw [sessionIds, Distinct.texts, Distinct.firsts, hNames,
    List.mem_map]
  simp

/- Some pattern is written or stays under each identity. -/
theorem exists_get?_write
    {a : Archive}
    (hLabelled : a.IsLabelled)
    {ps : List Pattern}
    {p : Pattern}
    (hMember : p ∈ a.values ++ ps) :
    ∃ q ∈ a.values ++ ps,
      q.id = p.id ∧ (a.write ps).get? p.id = some q := by
  rw [get?_write]
  cases hLast : (ps.filter fun q => q.id == p.id).getLast? with
  | some q =>
      have hNew := List.mem_filter.mp
        (List.mem_of_getLast? hLast)
      exact ⟨q, List.mem_append_right _ hNew.1,
        eq_of_beq hNew.2, rfl⟩
  | none =>
      have hNone := List.getLast?_eq_none_iff.mp hLast
      rcases List.mem_append.mp hMember with hStored | hNew
      · exact ⟨p, hMember, rfl,
          hLabelled.get?_of_mem hStored⟩
      · exact absurd (beq_self_eq_true p.id)
          (List.filter_eq_nil_iff.mp hNone p hNew)

/- Sessions are listed as before, or for a new pattern. -/
theorem mem_sessionIds_write
    {a : Archive}
    (hLabelled : a.IsLabelled)
    {ps : List Pattern}
    (hAgree : AgreeOn Pattern.sessionId a ps)
    {sessionId : String} :
    sessionId ∈ (a.write ps).sessionIds ↔
      sessionId ∈ a.sessionIds ∨
        ∃ p ∈ ps, p.sessionId = sessionId := by
  have hAll :
      sessionId ∈ (a.write ps).sessionIds ↔
        ∃ p ∈ a.values ++ ps, p.sessionId = sessionId := by
    rw [mem_sessionIds]
    constructor
    · rintro ⟨p, hStored, hSession⟩
      exact ⟨p, List.mem_append.mpr
        (mem_values_write hStored).symm, hSession⟩
    · rintro ⟨p, hMember, rfl⟩
      rcases exists_get?_write hLabelled hMember with
        ⟨q, hOther, hId, hFound⟩
      exact ⟨q, Table.mem_values_of_get? hFound,
        hAgree q hOther p hMember hId⟩
  rw [hAll, mem_sessionIds]
  simp only [List.mem_append, or_and_right, exists_or]

end Archive

end TraceMining
