import Mathlib.Algebra.GroupWithZero.Nat
import TraceMining.Proofs.Store.Groups
import TraceMining.Proofs.Store.Pages

/-
  This file shows that the figures of an archive agree with
  what is seen when it is browsed.  There is a row for each
  type that some stored pattern has, and its count is how many
  patterns are found if that type is asked for.  Rows go on to
  lower counts; those with one count stand in the order in
  which their types first occur among the patterns.

  Key definitions include:
    * `Archive.ofType`
    * `Archive.rows`
    * `Archive.Query.ofType`

  Key theorems include:
    * `Archive.entries_byType`
    * `Archive.sum_counts_types`
    * `Archive.pairwise_types`
    * `Archive.length_query_ofType`
    * `Archive.statistics_agree`
-/

------------------------------------------------------------
-- Types
------------------------------------------------------------

namespace TraceMining

namespace Archive

variable {a : Archive}

/- The stored patterns of a type, in order. -/
def ofType
    (a : Archive)
    (type : String) : List Pattern :=
  a.values.filter fun p => p.type == type

/- Patterns are gathered under their types. -/
theorem byType_eq_gathered
    (a : Archive) :
    byType a =
      Table.gathered Pattern.type (fun _ => [])
        (fun p ps => ps ++ [p]) a.values :=
  rfl

/- Under each type are the patterns that have it. -/
theorem entries_byType
    (a : Archive) :
    (byType a).entries =
      (a.values.map Pattern.type).eraseDups.map fun t =>
        (t, ofType a t) := by
  have hEntries :
      (Table.gathered Pattern.type (fun _ => [])
          (fun p ps => ps ++ [p]) a.values).entries =
        (a.values.map Pattern.type).eraseDups.map fun t =>
          (t,
            (ofType a t).foldl (fun ps p => ps ++ [p]) []) :=
    Table.entries_gathered (fun _ => []) _ _
  have hGroup :
      ∀ ps : List Pattern,
        ps.foldl (fun qs p => qs ++ [p]) [] = ps := by
    intro ps
    rw [List.foldl_append_eq_append, ← List.flatMap_def,
      List.nil_append, List.flatMap_singleton']
  rw [byType_eq_gathered, hEntries]
  simp only [hGroup]

/- A row for each type, in order of appearance. -/
def rows
    (a : Archive) : List TypeFigures :=
  (byType a).entries.map TypeFigures.ofGroup

/- The types of the rows are those of the patterns. -/
theorem map_type_rows
    (a : Archive) :
    (rows a).map TypeFigures.type =
      (a.values.map Pattern.type).eraseDups := by
  rw [rows, entries_byType, List.map_map, List.map_map]
  exact List.map_id _

/- A row counts the patterns of its type. -/
theorem count_of_mem_rows
    {r : TypeFigures}
    (hRow : r ∈ rows a) :
    r.count = (ofType a r.type).length := by
  rw [rows, entries_byType, List.map_map, List.mem_map] at hRow
  rcases hRow with ⟨t, _, rfl⟩
  rfl

/- All patterns are counted. -/
theorem sum_counts_rows
    (a : Archive) :
    ((rows a).map TypeFigures.count).sum =
      a.values.length := by
  have hCounts :
      (rows a).map TypeFigures.count =
        (byType a).entries.map fun e => e.2.length := by
    rw [rows, List.map_map]
    rfl
  have hAll :=
    Table.flatMap_gathered_perm Pattern.type a.values
  rw [hCounts, ← List.length_flatMap, byType_eq_gathered]
  exact hAll.length_eq

/- Rows stand in the order in which their types came. -/
theorem pairwise_rows
    (a : Archive) :
    (rows a).Pairwise fun r s =>
      (a.values.map Pattern.type).idxOf r.type <
        (a.values.map Pattern.type).idxOf s.type := by
  have hOrder :=
    Distinct.pairwise_idxOf_eraseDups (a.values.map Pattern.type)
  rw [← map_type_rows, List.pairwise_map] at hOrder
  exact hOrder

end Archive

end TraceMining

------------------------------------------------------------
-- Figures
------------------------------------------------------------

namespace TraceMining

namespace Archive

variable {a : Archive}

/- The figures have the rows by count, the highest first. -/
theorem types_statistics
    (a : Archive) :
    a.statistics.types =
      (rows a).mergeSort fun r s =>
        decide (-(r.count : Int) ≤ -(s.count : Int)) := by
  have hBelow :
      (fun r s : TypeFigures => decide (s.count ≤ r.count)) =
        fun r s =>
          decide (-(r.count : Int) ≤ -(s.count : Int)) := by
    funext r s
    rw [decide_eq_decide]
    omega
  rw [← hBelow]
  rfl

/- No row is lost or added by the sorting. -/
theorem types_perm_rows
    (a : Archive) :
    a.statistics.types.Perm (rows a) :=
  List.mergeSort_perm _ _

/- There is one row for each type that occurs. -/
theorem mem_map_type_types
    {t : String} :
    t ∈ a.statistics.types.map TypeFigures.type ↔
      ∃ p ∈ a.values, p.type = t := by
  rw [((types_perm_rows a).map TypeFigures.type).mem_iff,
    map_type_rows, List.mem_eraseDups, List.mem_map]

/- There is no second one. -/
theorem nodup_map_type_types
    (a : Archive) :
    (a.statistics.types.map TypeFigures.type).Nodup := by
  rw [((types_perm_rows a).map TypeFigures.type).nodup_iff,
    map_type_rows]
  exact Distinct.nodup_eraseDups _

/- The counts add up to the number of patterns. -/
theorem sum_counts_types
    (a : Archive) :
    (a.statistics.types.map TypeFigures.count).sum =
      a.values.length := by
  rw [((types_perm_rows a).map TypeFigures.count).sum_nat]
  exact sum_counts_rows a

/- They go on to lower counts, or as the types came. -/
theorem pairwise_types
    (a : Archive) :
    a.statistics.types.Pairwise fun r s =>
      s.count < r.count ∨
        r.count = s.count ∧
          (a.values.map Pattern.type).idxOf r.type <
            (a.values.map Pattern.type).idxOf s.type := by
  have hSorted := Stable.pairwise_rank_mergeSort
    (fun r : TypeFigures => -(r.count : Int)) (pairwise_rows a)
  rw [← types_statistics] at hSorted
  refine hSorted.imp ?_
  intro r s hOrder
  rcases hOrder with hLess | ⟨hSame, hBefore⟩
  · left
    omega
  · exact Or.inr ⟨by omega, hBefore⟩

end Archive

end TraceMining

------------------------------------------------------------
-- Agreement
------------------------------------------------------------

namespace TraceMining

namespace Archive

variable {a : Archive}

/- The patterns of a type, whatever else they are. -/
def Query.ofType
    (type : String) : Query :=
  { Query.default with type := some type }

/- They pass, if no confidence is below zero. -/
theorem filter_admits_ofType
    (hConfident : ∀ p ∈ a.values, 0 ≤ p.confidence)
    (type : String) :
    a.values.filter (Query.ofType type).admits =
      ofType a type := by
  apply List.filter_congr
  intro p hStored
  rw [Bool.eq_iff_iff, Query.admits_iff, beq_iff_eq]
  constructor
  · intro hPasses
    exact hPasses.type type rfl
  · intro hType
    refine ⟨nofun, ?_, hConfident p hStored⟩
    intro t hAsked
    exact hType.trans (Option.some.inj hAsked)

/- As many are found, if the limit leaves none out. -/
theorem length_query_ofType
    (hConfident : ∀ p ∈ a.values, 0 ≤ p.confidence)
    (type : String)
    {limit : Nat}
    (hLimit : a.values.length ≤ limit) :
    (a.query { Query.ofType type with limit := limit }).length =
      (ofType a type).length := by
  have hPage :
      a.query { Query.ofType type with limit := limit } =
        a.page (Query.ofType type) limit 0 := by
    simp [page, Query.ofType, Query.default]
  have hResults :
      (a.results (Query.ofType type)).length =
        (ofType a type).length := by
    rw [(results_perm a _).length_eq,
      filter_admits_ofType hConfident]
  have hFew : (ofType a type).length ≤ limit :=
    Nat.le_trans (List.length_filter_le _ _) hLimit
  rw [hPage, page_eq, Nat.zero_mul, List.drop_zero,
    List.length_take, hResults]
  omega

/-
  Whatever was saved, the figures count all stored patterns
  and have one row for each type among them.  The counts add
  up to the total.  Rows go on to lower counts, and those with
  one count are in the order in which their types first occur
  in the archive, whose patterns stand in the order in which
  their identities were first saved.  No confidence is below
  zero; so the count of a row is how many patterns are found
  if its type is asked for and the limit leaves none out.
-/
theorem statistics_agree
    (calls : List (WriteFault × List Pattern)) :
    let a := saved calls
    let ids := (written calls).map Pattern.id
    let types := a.values.map Pattern.type
    let figures := a.statistics.types
    a.statistics.total = a.values.length ∧
      (figures.map TypeFigures.type).Nodup ∧
      (∀ t,
        t ∈ figures.map TypeFigures.type ↔
          ∃ p ∈ a.values, p.type = t) ∧
      (figures.map TypeFigures.count).sum = a.statistics.total ∧
      figures.Pairwise (fun r s =>
        s.count < r.count ∨
          r.count = s.count ∧
            types.idxOf r.type < types.idxOf s.type) ∧
      a.values.Pairwise (fun p q =>
        ids.idxOf p.id < ids.idxOf q.id) ∧
      ((∀ p ∈ written calls, 0 ≤ p.confidence) →
        ∀ r ∈ figures, ∀ limit : Nat,
          a.values.length ≤ limit →
            (a.query
                { Query.ofType r.type with
                  limit := limit }).length =
              r.count) := by
  intro a ids types figures
  refine ⟨rfl, nodup_map_type_types a,
    fun t => mem_map_type_types, sum_counts_types a,
    pairwise_types a, pairwise_saved calls, ?_⟩
  intro hConfident r hRow limit hLimit
  have hStored : ∀ p ∈ a.values, 0 ≤ p.confidence := by
    intro p hMember
    exact hConfident p (mem_written_of_mem_saved hMember)
  rw [length_query_ofType hStored r.type hLimit]
  exact (count_of_mem_rows
    ((types_perm_rows a).mem_iff.mp hRow)).symm

/- Two types have two patterns, one of them changed in place. -/
theorem statistics_agree_filings :
    (∀ p ∈ written filings, 0 ≤ p.confidence) ∧
      (saved filings).statistics.total = 4 ∧
      (saved filings).statistics.types.map
          (fun r => (r.type, r.count)) =
        [("filter", 2), ("sort", 2)] ∧
      ∀ r ∈ (saved filings).statistics.types, ∀ limit : Nat,
        4 ≤ limit →
          ((saved filings).query
              { Query.ofType r.type with
                limit := limit }).length =
            r.count := by
  have hConfident : ∀ p ∈ written filings, 0 ≤ p.confidence := by
    decide +kernel
  have hRows :
      (rows (saved filings)).map (fun r => (r.type, r.count)) =
        [("filter", 2), ("sort", 2)] := by
    rfl
  have hTypes :
      (saved filings).statistics.types.map
          (fun r => (r.type, r.count)) =
        ((rows (saved filings)).map
          fun r => (r.type, r.count)).mergeSort
            fun r s => decide (s.2 ≤ r.2) :=
    List.map_mergeSort fun _ _ _ _ => rfl
  rw [hRows] at hTypes
  rcases statistics_agree filings with
    ⟨_, _, _, _, _, _, hFound⟩
  refine ⟨hConfident, rfl, hTypes.trans ?_, hFound hConfident⟩
  simp [List.mergeSort, List.MergeSort.Internal.splitInTwo]

end Archive

end TraceMining
