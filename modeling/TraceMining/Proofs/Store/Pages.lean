import Mathlib.Data.Nat.Find
import TraceMining.Proofs.Stable
import TraceMining.Proofs.Store.Archive

/-
  This file shows what is seen of an archive page by page.
  Pages are parts of one list, in which the patterns that pass
  the filters stand by start, the latest first; those that
  start together stand in the order in which their identities
  were first saved.  To read on up to the first empty page is
  therefore to see each of these patterns just once.

  Key definitions include:
    * `Archive.saved`
    * `Archive.written`
    * `Archive.Query.Passes`
    * `Archive.results`
    * `Archive.page`
    * `Archive.Browses`

  Key theorems include:
    * `Archive.saved_eq_write`
    * `Archive.flatMap_page`
    * `Archive.browses_iff`
    * `Archive.pairwise_results`
    * `Archive.bySession_perm_results`
    * `Archive.browses_complete`
-/

------------------------------------------------------------
-- Saving in Turn
------------------------------------------------------------

namespace TraceMining

namespace Archive

/- The archive after batches were saved, or refused. -/
def saved
    (calls : List (WriteFault × List Pattern)) : Archive :=
  calls.foldl (fun a c => (a.saveAll c.1 c.2).2) Table.empty

/- What of the batches was written, in turn. -/
def written
    (calls : List (WriteFault × List Pattern)) :
    List Pattern :=
  calls.flatMap fun c => c.1.kept c.2

/- The archive has what was written. -/
theorem saved_eq_write
    (calls : List (WriteFault × List Pattern)) :
    saved calls = write Table.empty (written calls) := by
  have hAny :
      ∀ a : Archive,
        calls.foldl (fun a c => (a.saveAll c.1 c.2).2) a =
          a.write (written calls) := by
    induction calls with
    | nil => exact fun a => rfl
    | cons c calls ih =>
        intro a
        rw [List.foldl_cons, ih, saveAll_snd, ← write_append]
        rfl
  exact hAny Table.empty

/- Only what was written is in the archive. -/
theorem mem_written_of_mem_saved
    {calls : List (WriteFault × List Pattern)}
    {p : Pattern}
    (hMember : p ∈ (saved calls).values) :
    p ∈ written calls := by
  rw [saved_eq_write] at hMember
  rcases mem_values_write hMember with hNew | hOld
  · exact hNew
  · exact absurd hOld List.not_mem_nil

/- So each pattern is under its identity. -/
theorem isLabelled_saved
    (calls : List (WriteFault × List Pattern)) :
    (saved calls).IsLabelled := by
  rw [saved_eq_write]
  exact IsLabelled.write Table.IsNamed.empty _

/- Identities stand in the order in which they first came. -/
theorem ids_saved
    (calls : List (WriteFault × List Pattern)) :
    (saved calls).values.map Pattern.id =
      ((written calls).map Pattern.id).eraseDups := by
  rw [← Table.IsNamed.keys_eq (isLabelled_saved calls),
    saved_eq_write, write, Table.keys_putAll]
  rfl

/- So do the patterns that have them. -/
theorem pairwise_saved
    (calls : List (WriteFault × List Pattern)) :
    let ids := (written calls).map Pattern.id
    (saved calls).values.Pairwise fun p r =>
      ids.idxOf p.id < ids.idxOf r.id := by
  intro ids
  have hOrder := Distinct.pairwise_idxOf_eraseDups ids
  rw [← ids_saved, List.pairwise_map] at hOrder
  exact hOrder

end Archive

end TraceMining

------------------------------------------------------------
-- Results
------------------------------------------------------------

namespace TraceMining

namespace Archive

variable {a : Archive}
variable {q : Query}

/-
  A pattern is of the session and of the type that are asked
  for, if any, and its confidence is high enough.
-/
structure Query.Passes
    (q : Query)
    (p : Pattern) : Prop where
  session : ∀ s, q.sessionId = some s → p.sessionId = s
  type : ∀ t, q.type = some t → p.type = t
  confident : q.minConfidence ≤ p.confidence

/- The filters of a query tell this. -/
theorem Query.admits_iff
    {p : Pattern} :
    q.admits p = true ↔ q.Passes p := by
  rw [admits, Bool.and_eq_true, Bool.and_eq_true,
    decide_eq_true_eq]
  constructor
  · rintro ⟨⟨hSession, hType⟩, hConfident⟩
    refine ⟨?_, ?_, hConfident⟩
    · intro s hAsked
      rw [hAsked] at hSession
      exact eq_of_beq hSession
    · intro t hAsked
      rw [hAsked] at hType
      exact eq_of_beq hType
  · rintro ⟨hSession, hType, hConfident⟩
    refine ⟨⟨?_, ?_⟩, hConfident⟩
    · split
      · rename_i s hAsked
        exact beq_iff_eq.mpr (hSession s hAsked)
      · rfl
    · split
      · rename_i t hAsked
        exact beq_iff_eq.mpr (hType t hAsked)
      · rfl

/- All patterns that pass the filters, the latest first. -/
def results
    (a : Archive)
    (q : Query) : List Pattern :=
  byStartDown (a.values.filter q.admits)

/- To sort the latest first is to sort by negative starts. -/
theorem byStartDown_eq
    (ps : List Pattern) :
    byStartDown ps =
      ps.mergeSort fun p r =>
        decide (-p.startTime ≤ -r.startTime) := by
  rw [byStartDown]
  congr 1
  funext p r
  rw [decide_eq_decide]
  omega

/- No pattern is lost or added by the sorting. -/
theorem results_perm
    (a : Archive)
    (q : Query) :
    (a.results q).Perm (a.values.filter q.admits) :=
  List.mergeSort_perm _ _

/- The results are the stored patterns that pass. -/
theorem mem_results
    {p : Pattern} :
    p ∈ a.results q ↔ p ∈ a.values ∧ q.Passes p := by
  rw [(results_perm a q).mem_iff, List.mem_filter,
    Query.admits_iff]

/- None of them comes twice. -/
theorem IsLabelled.nodup_ids_results
    (hLabelled : a.IsLabelled)
    (q : Query) :
    ((a.results q).map Pattern.id).Nodup := by
  have hIds :
      ((a.values.filter q.admits).map Pattern.id).Nodup :=
    (Table.IsNamed.nodup_names hLabelled).sublist
      (List.filter_sublist.map Pattern.id)
  exact ((results_perm a q).map Pattern.id).nodup_iff.mpr hIds

/- They go on to earlier starts, or as they are stored. -/
theorem pairwise_results
    {isBefore : Pattern → Pattern → Prop}
    (hOrder : a.values.Pairwise isBefore)
    (q : Query) :
    (a.results q).Pairwise fun p r =>
      r.startTime < p.startTime ∨
        p.startTime = r.startTime ∧ isBefore p r := by
  have hSorted := Stable.pairwise_rank_mergeSort
    (fun p : Pattern => -p.startTime) (hOrder.filter q.admits)
  rw [← byStartDown_eq] at hSorted
  refine hSorted.imp ?_
  rintro p r (hLess | ⟨hSame, hBefore⟩)
  · exact Or.inl (Int.neg_lt_neg_iff.mp hLess)
  · exact Or.inr ⟨Int.neg_inj.mp hSame, hBefore⟩

/- The patterns of a session, whatever else they are. -/
def Query.ofSession
    (sessionId : String) : Query :=
  { Query.default with sessionId := some sessionId }

/- They are listed, if no confidence is below zero. -/
theorem bySession_perm_results
    (hConfident : ∀ p ∈ a.values, 0 ≤ p.confidence)
    (sessionId : String) :
    (a.bySession sessionId).Perm
      (a.results (.ofSession sessionId)) := by
  have hSame :
      a.values.filter (Query.ofSession sessionId).admits =
        a.values.filter fun p => p.sessionId == sessionId := by
    apply List.filter_congr
    intro p hStored
    rw [Bool.eq_iff_iff, Query.admits_iff, beq_iff_eq]
    constructor
    · intro hPasses
      exact hPasses.session sessionId rfl
    · intro hOwn
      refine ⟨?_, nofun, hConfident p hStored⟩
      intro s hAsked
      exact hOwn.trans (Option.some.inj hAsked)
  have hResults :=
    results_perm a (Query.ofSession sessionId)
  rw [hSame] at hResults
  exact (List.mergeSort_perm _ _).trans hResults.symm

end Archive

end TraceMining

------------------------------------------------------------
-- Pages
------------------------------------------------------------

namespace TraceMining

namespace Archive

variable {a : Archive}
variable {q : Query}
variable {size : Nat}

/- A page of a query; the first one has number zero. -/
def page
    (a : Archive)
    (q : Query)
    (size number : Nat) : List Pattern :=
  a.query
    { q with
      limit := size
      offset := number * size }

/- What is seen on the pages before the first empty one. -/
def Browses
    (a : Archive)
    (q : Query)
    (size : Nat)
    (ps : List Pattern) : Prop :=
  ∃ count,
    (∀ number < count, a.page q size number ≠ []) ∧
      a.page q size count = [] ∧
      (List.range count).flatMap (a.page q size) = ps

/- A place that is not negative counts from the start. -/
theorem place_natCast
    (n k : Nat) :
    place n k = k := by
  rw [place, if_neg (by omega), Int.toNat_natCast]

/- A page is a part of the results. -/
theorem page_eq
    (a : Archive)
    (q : Query)
    (size number : Nat) :
    a.page q size number =
      ((a.results q).drop (number * size)).take size := by
  have hStop :
      (number * size : Int) + size =
        ((number * size + size : Nat) : Int) := by
    push_cast
    rfl
  have hPage :
      a.page q size number =
        window (a.results q) (number * size)
          (number * size + size) := rfl
  rw [hPage, window, hStop, ← Int.natCast_mul, place_natCast,
    place_natCast, List.drop_take, Nat.add_sub_cancel_left]

/- Pages in a row are the first results. -/
theorem flatMap_page
    (a : Archive)
    (q : Query)
    (size count : Nat) :
    (List.range count).flatMap (a.page q size) =
      (a.results q).take (count * size) := by
  induction count with
  | zero => simp
  | succ count ih =>
      rw [List.range_succ, List.flatMap_append, ih,
        List.flatMap_singleton, page_eq, Nat.succ_mul,
        List.take_add]

/- A page is empty if the results end before it. -/
theorem page_eq_nil_iff
    (hSize : 1 ≤ size)
    (number : Nat) :
    a.page q size number = [] ↔
      (a.results q).length ≤ number * size := by
  rw [page_eq, List.take_eq_nil_iff, List.drop_eq_nil_iff]
  omega

/- To read on up to the first empty page is to see them all. -/
theorem browses_iff
    (hSize : 1 ≤ size)
    {ps : List Pattern} :
    a.Browses q size ps ↔ a.results q = ps := by
  constructor
  · rintro ⟨count, _, hEmpty, hAll⟩
    rw [page_eq_nil_iff hSize] at hEmpty
    rw [← hAll, flatMap_page, List.take_of_length_le hEmpty]
  · rintro rfl
    have hSome :
        ∃ count, (a.results q).length ≤ count * size :=
      ⟨_, Nat.le_mul_of_pos_right _ hSize⟩
    refine ⟨Nat.find hSome, ?_, ?_, ?_⟩
    · intro number hEarlier
      rw [Ne, page_eq_nil_iff hSize]
      exact Nat.find_min hSome hEarlier
    · rw [page_eq_nil_iff hSize]
      exact Nat.find_spec hSome
    · rw [flatMap_page,
        List.take_of_length_le (Nat.find_spec hSome)]

/-
  Whatever was saved, to read pages of any size up to the first
  empty one is to see every stored pattern that passes the
  filters just once.  They come by start, the latest first, and
  those that start together in the order in which their
  identities were first saved.  No confidence is below zero,
  which is the least that is asked for; so the patterns listed
  for a session are those that are seen if only the session is
  given.
-/
theorem browses_complete
    (calls : List (WriteFault × List Pattern))
    (q : Query)
    (hSize : 1 ≤ size) :
    let a := saved calls
    let ids := (written calls).map Pattern.id
    (∃ ps,
        a.Browses q size ps ∧
          (∀ p, p ∈ ps ↔ p ∈ a.values ∧ q.Passes p) ∧
          (ps.map Pattern.id).Nodup ∧
          ps.Pairwise fun p r =>
            r.startTime < p.startTime ∨
              p.startTime = r.startTime ∧
                ids.idxOf p.id < ids.idxOf r.id) ∧
      ((∀ p ∈ written calls, 0 ≤ p.confidence) →
        ∀ sessionId,
          ∃ ps,
            a.Browses (.ofSession sessionId) size ps ∧
              (a.bySession sessionId).Perm ps) := by
  intro a ids
  constructor
  · exact ⟨a.results q, (browses_iff hSize).mpr rfl,
      fun p => mem_results,
      (isLabelled_saved calls).nodup_ids_results q,
      pairwise_results (pairwise_saved calls) q⟩
  · intro hConfident sessionId
    have hStored : ∀ p ∈ a.values, 0 ≤ p.confidence := by
      intro p hMember
      exact hConfident p (mem_written_of_mem_saved hMember)
    exact ⟨_, (browses_iff hSize).mpr rfl,
      bySession_perm_results hStored sessionId⟩

/- A pattern of which only a few things matter. -/
def filed
    (id sessionId type : String)
    (startTime : Int) : Pattern :=
  { id := id
    sessionId := sessionId
    type := type
    confidence := 0.8
    startTime := startTime
    endTime := startTime
    eventIds := []
    metadata := [] }

/-
  One batch is refused but for its first pattern, and the last
  one replaces a pattern, which changes its type.
-/
def filings : List (WriteFault × List Pattern) :=
  [ (.none, [filed "a" "s" "sort" 5, filed "b" "s" "sort" 7])
  , (⟨["t"], true⟩,
      [filed "c" "t" "sort" 9, filed "e" "t" "sort" 9])
  , (.none, [filed "d" "s" "filter" 5])
  , (.none, [filed "a" "s" "filter" 5]) ]

/- They are read in two pages, of two patterns and of one. -/
theorem browses_complete_filings :
    1 ≤ 2 ∧
      (∀ p ∈ written filings, 0 ≤ p.confidence) ∧
      (∃ ps,
        (saved filings).Browses (.ofSession "s") 2 ps ∧
          (∀ p,
            p ∈ ps ↔
              p ∈ (saved filings).values ∧
                (Query.ofSession "s").Passes p) ∧
          (ps.map Pattern.id).Nodup ∧
          ps.map (fun p => (p.id, p.type, p.startTime)) =
            [ ("b", "sort", 7), ("a", "filter", 5)
            , ("d", "filter", 5) ]) ∧
      ∃ ps,
        (saved filings).Browses (.ofSession "s") 2 ps ∧
          ((saved filings).bySession "s").Perm ps := by
  have hSize : 1 ≤ 2 := by decide
  have hConfident : ∀ p ∈ written filings, 0 ≤ p.confidence := by
    decide +kernel
  have hStored :
      (saved filings).values.filter
          (Query.ofSession "s").admits =
        [ filed "a" "s" "filter" 5, filed "b" "s" "sort" 7
        , filed "d" "s" "filter" 5 ] := by
    rfl
  have hResults :
      ((saved filings).results (.ofSession "s")).map
          (fun p => (p.id, p.type, p.startTime)) =
        [ ("b", "sort", 7), ("a", "filter", 5)
        , ("d", "filter", 5) ] := by
    simp [results, hStored, byStartDown, List.mergeSort,
      List.MergeSort.Internal.splitInTwo, filed]
  rcases browses_complete filings (.ofSession "s") hSize with
    ⟨⟨ps, hBrowses, hMember, hIds, _⟩, hListed⟩
  rw [(browses_iff hSize).mp hBrowses] at hResults
  exact ⟨hSize, hConfident,
    ⟨ps, hBrowses, hMember, hIds, hResults⟩,
    hListed hConfident "s"⟩

end Archive

end TraceMining
