import Mathlib.Data.List.Nodup
import TraceMining.Proofs.Stable
import TraceMining.Proofs.Store.Archive
import TraceMining.Workspace.Synthesis

/-
  This file shows in which order the patterns of a session are
  read: by start, and those that start together in the order
  in which their identities were first saved.  It does not
  matter whether an archive lists the patterns of the session
  or all that it has; and if no two patterns of the session
  start together, it does not matter how they were saved.

  Key definitions include:
    * `Archive.own`
    * `Archive.Timeline`
    * `Archive.Lists`

  Key theorems include:
    * `Archive.timeline_bySession`
    * `Archive.Timeline.eq_bySession`
    * `Archive.Lists.ownPatterns_eq`
    * `Archive.bySession_eq_of_apart`
-/

------------------------------------------------------------
-- Timelines
------------------------------------------------------------

namespace TraceMining

namespace Archive

/- The patterns of a session, in the order of the archive. -/
def own
    (a : Archive)
    (sessionId : String) : List Pattern :=
  a.values.filter fun p => p.sessionId == sessionId

/-
  The patterns of a session by start; those that start
  together stand in the order of the archive.
-/
structure Timeline
    (a : Archive)
    (sessionId : String)
    (ps : List Pattern) : Prop where
  ordered : ps.Pairwise fun p q => p.startTime ≤ q.startTime
  ties :
    ∀ time,
      (ps.filter fun p => p.startTime == time) =
        (a.own sessionId).filter fun p => p.startTime == time

variable {a : Archive}
variable {sessionId : String}
variable {ps : List Pattern}

/- These are the patterns that name the session. -/
@[simp] theorem mem_own
    {p : Pattern} :
    p ∈ a.own sessionId ↔
      p ∈ a.values ∧ p.sessionId = sessionId := by
  rw [own, List.mem_filter, beq_iff_eq]

/- There are none if no pattern names it. -/
theorem own_eq_nil_iff :
    a.own sessionId = [] ↔
      ∀ p ∈ a.values, p.sessionId ≠ sessionId := by
  simp only [List.eq_nil_iff_forall_not_mem, mem_own, not_and,
    ne_eq]

/- There are some if a pattern does. -/
theorem own_ne_nil_iff :
    a.own sessionId ≠ [] ↔
      ∃ p ∈ a.values, p.sessionId = sessionId := by
  simp only [ne_eq, own_eq_nil_iff, not_forall, not_not,
    exists_prop]

/- Patterns by start are in order. -/
theorem pairwise_byStart
    (ps : List Pattern) :
    (byStart ps).Pairwise fun p q =>
      p.startTime ≤ q.startTime :=
  (List.pairwise_mergeSort
    (Stable.rank_trans Pattern.startTime)
    (Stable.rank_total Pattern.startTime) ps).imp
      of_decide_eq_true

/- They are the same patterns. -/
theorem byStart_perm
    (ps : List Pattern) :
    (byStart ps).Perm ps :=
  List.mergeSort_perm ps _

/- Patterns that are in order stay as they are. -/
theorem byStart_eq_self
    (hOrdered :
      ps.Pairwise fun p q => p.startTime ≤ q.startTime) :
    byStart ps = ps :=
  List.mergeSort_of_pairwise (hOrdered.imp decide_eq_true)

/- The patterns of a session are read as a timeline. -/
theorem timeline_bySession
    (a : Archive)
    (sessionId : String) :
    a.Timeline sessionId (a.bySession sessionId) where
  ordered := pairwise_byStart _
  ties := Stable.filter_rank_mergeSort Pattern.startTime _

/- There is no other timeline of them. -/
theorem Timeline.eq_bySession
    (hTimeline : a.Timeline sessionId ps) :
    ps = a.bySession sessionId := by
  have hRead := timeline_bySession a sessionId
  refine Stable.eq_of_filter_rank Pattern.startTime
    hTimeline.ordered hRead.ordered ?_
  intro time
  rw [hTimeline.ties, hRead.ties]

/- It has the patterns of the session and no others. -/
theorem mem_bySession
    {p : Pattern} :
    p ∈ a.bySession sessionId ↔
      p ∈ a.values ∧ p.sessionId = sessionId :=
  List.mem_mergeSort.trans mem_own

/- It is empty if the session has no patterns. -/
theorem bySession_eq_nil_iff :
    a.bySession sessionId = [] ↔ a.own sessionId = [] := by
  simp only [List.eq_nil_iff_forall_not_mem, mem_bySession,
    mem_own]

/- No identity is in it twice. -/
theorem IsLabelled.nodup_ids_bySession
    (hLabelled : a.IsLabelled)
    (sessionId : String) :
    ((a.bySession sessionId).map Pattern.id).Nodup := by
  have hOwn : ((a.own sessionId).map Pattern.id).Nodup :=
    (Table.IsNamed.nodup_names hLabelled).sublist
      (List.filter_sublist.map Pattern.id)
  exact ((byStart_perm _).map Pattern.id).nodup_iff.mpr hOwn

end Archive

end TraceMining

------------------------------------------------------------
-- Listings
------------------------------------------------------------

namespace TraceMining

namespace Archive

variable {a b : Archive}
variable {sessionId : String}
variable {listed : List Pattern}

/- What an archive lists for a session, or all it has. -/
inductive Lists
    (a : Archive)
    (sessionId : String) :
    List Pattern → Prop where
  | ofSession : Lists a sessionId (a.bySession sessionId)
  | all : Lists a sessionId a.values

/- Either way the patterns of the session are the same. -/
theorem Lists.ownPatterns_eq
    (hLists : a.Lists sessionId listed) :
    Workspace.ownPatterns sessionId listed =
      a.bySession sessionId := by
  cases hLists with
  | ofSession =>
      have hSorted :
          byStart (a.bySession sessionId) =
            a.bySession sessionId :=
        byStart_eq_self (pairwise_byStart _)
      rw [Workspace.ownPatterns, hSorted,
        List.filter_eq_self]
      intro p hMember
      exact beq_iff_eq.mpr (mem_bySession.mp hMember).2
  | all =>
      refine Timeline.eq_bySession
        ⟨(pairwise_byStart _).filter _, ?_⟩
      intro time
      -- The filters change places around the sorting.
      rw [Workspace.ownPatterns, List.filter_comm, byStart,
        Stable.filter_rank_mergeSort Pattern.startTime,
        List.filter_comm, own]

/-
  If no two patterns of a session start together, then they
  are read the same from every archive that has them.
-/
theorem bySession_eq_of_apart
    (hFirst : a.IsLabelled)
    (hSecond : b.IsLabelled)
    (hSame :
      ∀ p, p.sessionId = sessionId →
        (p ∈ a.values ↔ p ∈ b.values))
    (hApart :
      ∀ p ∈ a.own sessionId, ∀ q ∈ a.own sessionId,
        p.startTime = q.startTime → p = q) :
    a.bySession sessionId = b.bySession sessionId := by
  have hMembers :
      ∀ p,
        p ∈ a.bySession sessionId ↔
          p ∈ b.bySession sessionId := by
    intro p
    rw [mem_bySession, mem_bySession]
    constructor
    · rintro ⟨hStored, hOwn⟩
      exact ⟨(hSame p hOwn).mp hStored, hOwn⟩
    · rintro ⟨hStored, hOwn⟩
      exact ⟨(hSame p hOwn).mpr hStored, hOwn⟩
  have hPerm :
      (a.bySession sessionId).Perm (b.bySession sessionId) :=
    (List.perm_ext_iff_of_nodup
      (List.Nodup.of_map _
        (hFirst.nodup_ids_bySession sessionId))
      (List.Nodup.of_map _
        (hSecond.nodup_ids_bySession sessionId))).mpr hMembers
  refine hPerm.eq_of_pairwise ?_ (pairwise_byStart _)
    (pairwise_byStart _)
  intro p q hP hQ hBefore hAfter
  refine hApart p (mem_own.mpr (mem_bySession.mp hP)) q ?_
    (Int.le_antisymm hBefore hAfter)
  exact mem_own.mpr (mem_bySession.mp ((hMembers q).mpr hQ))

end Archive

end TraceMining
