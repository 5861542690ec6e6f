import Mathlib.Data.List.Basic

/-
  This file shows what a stable sort comes to: the items that
  stand on a level keep their order, and there is one sorted
  list of any items that keep theirs.

  Key definitions include:
    * `Stable.level`

  Key theorems include:
    * `Stable.eq_of_filter_level`
    * `Stable.filter_level_mergeSort`
    * `Stable.mergeSort_congr`
    * `Stable.mergeSort_append`
    * `Stable.mergeSort_partition`
    * `Stable.filter_rank_mergeSort`
    * `Stable.pairwise_rank_mergeSort`
    * `Stable.eq_of_filter_rank`
-/

------------------------------------------------------------
-- Levels
------------------------------------------------------------

namespace TraceMining

namespace Stable

variable {α : Type}
variable {le : α → α → Bool}

/- Neither of two items goes before the other. -/
def level
    (le : α → α → Bool)
    (a b : α) : Bool :=
  le a b && le b a

/- An item is on a level with itself. -/
theorem level_self
    (hTotal : ∀ a b, (le a b || le b a) = true)
    (a : α) :
    level le a a = true := by
  have hSelf : le a a = true := by
    simpa using hTotal a a
  simp [level, hSelf]

/- No item goes before the first one of a sorted list. -/
theorem le_of_mem
    (hTotal : ∀ a b, (le a b || le b a) = true)
    {a b : α}
    {as : List α}
    (hSorted : (a :: as).Pairwise fun b c => le b c = true)
    (hMember : b ∈ a :: as) :
    le a b = true := by
  rcases List.mem_cons.mp hMember with rfl | hMember
  · simpa using hTotal b b
  · exact (List.pairwise_cons.mp hSorted).1 b hMember

/- Lists are alike on the level of an item that one has. -/
theorem mem_of_filter_level
    (hTotal : ∀ a b, (le a b || le b a) = true)
    {as bs : List α}
    (hSame :
      ∀ a, as.filter (level le a) = bs.filter (level le a))
    {a : α}
    (hMember : a ∈ as) :
    a ∈ bs := by
  have hLevel : a ∈ as.filter (level le a) :=
    List.mem_filter.mpr ⟨hMember, level_self hTotal a⟩
  rw [hSame a] at hLevel
  exact List.mem_of_mem_filter hLevel

/- Sorted lists that are alike on every level are the same. -/
theorem eq_of_filter_level
    (hTotal : ∀ a b, (le a b || le b a) = true)
    {as bs : List α}
    (hFirst : as.Pairwise fun b c => le b c = true)
    (hSecond : bs.Pairwise fun b c => le b c = true)
    (hSame :
      ∀ a, as.filter (level le a) = bs.filter (level le a)) :
    as = bs := by
  induction as generalizing bs with
  | nil =>
      cases bs with
      | nil => rfl
      | cons b bs =>
          have hMember : b ∈ ([] : List α) :=
            mem_of_filter_level hTotal
              (fun a => (hSame a).symm) List.mem_cons_self
          exact absurd hMember List.not_mem_nil
  | cons a as ih =>
      have hHere : a ∈ bs :=
        mem_of_filter_level hTotal hSame List.mem_cons_self
      cases bs with
      | nil => exact absurd hHere List.not_mem_nil
      | cons b bs =>
          have hThere : b ∈ a :: as :=
            mem_of_filter_level hTotal
              (fun a => (hSame a).symm) List.mem_cons_self
          have hOn : level le a b = true := by
            simp [level, le_of_mem hTotal hFirst hThere,
              le_of_mem hTotal hSecond hHere]
          have hFront := hSame a
          rw [List.filter_cons_of_pos (level_self hTotal a),
            List.filter_cons_of_pos hOn,
            List.cons.injEq] at hFront
          rcases hFront with ⟨rfl, _⟩
          congr 1
          refine ih (List.pairwise_cons.mp hFirst).2
            (List.pairwise_cons.mp hSecond).2 ?_
          intro c
          have hLevel := hSame c
          by_cases hOn : level le c a = true
          · rw [List.filter_cons_of_pos hOn,
              List.filter_cons_of_pos hOn,
              List.cons.injEq] at hLevel
            exact hLevel.2
          · rwa [List.filter_cons_of_neg hOn,
              List.filter_cons_of_neg hOn] at hLevel

end Stable

end TraceMining

------------------------------------------------------------
-- Sorting
------------------------------------------------------------

namespace TraceMining

namespace Stable

variable {α : Type}
variable {le : α → α → Bool}

/- Sorting keeps the order on every level. -/
theorem filter_level_mergeSort
    (hTrans :
      ∀ a b c, le a b = true → le b c = true → le a c = true)
    (hTotal : ∀ a b, (le a b || le b a) = true)
    (as : List α)
    (a : α) :
    (as.mergeSort le).filter (level le a) =
      as.filter (level le a) := by
  have hLevel :
      (as.filter (level le a)).Pairwise
        fun b c => le b c = true := by
    rw [List.pairwise_iff_forall_sublist]
    intro b c hBoth
    have hFirst := hBoth.subset List.mem_cons_self
    have hSecond := hBoth.subset
      (List.mem_cons_of_mem b List.mem_cons_self)
    simp only [List.mem_filter, level, Bool.and_eq_true]
      at hFirst hSecond
    exact hTrans b a c hFirst.2.2 hSecond.2.1
  have hInside :=
    (List.sublist_mergeSort hTrans hTotal hLevel
      List.filter_sublist).filter (level le a)
  rw [List.filter_filter] at hInside
  simp only [Bool.and_self] at hInside
  refine (hInside.eq_of_length ?_).symm
  exact ((List.mergeSort_perm as le).filter
    (level le a)).length_eq.symm

/- Items that are alike on every level are sorted alike. -/
theorem mergeSort_congr
    (hTrans :
      ∀ a b c, le a b = true → le b c = true → le a c = true)
    (hTotal : ∀ a b, (le a b || le b a) = true)
    {as bs : List α}
    (hSame :
      ∀ a, as.filter (level le a) = bs.filter (level le a)) :
    as.mergeSort le = bs.mergeSort le := by
  apply eq_of_filter_level hTotal
    (List.pairwise_mergeSort hTrans hTotal _)
    (List.pairwise_mergeSort hTrans hTotal _)
  intro a
  rw [filter_level_mergeSort hTrans hTotal,
    filter_level_mergeSort hTrans hTotal]
  exact hSame a

/- What goes after all others is sorted behind them. -/
theorem mergeSort_append
    (hTrans :
      ∀ a b c, le a b = true → le b c = true → le a c = true)
    (hTotal : ∀ a b, (le a b || le b a) = true)
    {as bs : List α}
    (hAfter : ∀ a ∈ as, ∀ b ∈ bs, le a b = true) :
    (as ++ bs).mergeSort le =
      as.mergeSort le ++ bs.mergeSort le := by
  apply eq_of_filter_level hTotal
    (List.pairwise_mergeSort hTrans hTotal _)
  · rw [List.pairwise_append]
    refine ⟨List.pairwise_mergeSort hTrans hTotal as,
      List.pairwise_mergeSort hTrans hTotal bs, ?_⟩
    intro a hFirst b hSecond
    exact hAfter a (List.mem_mergeSort.mp hFirst) b
      (List.mem_mergeSort.mp hSecond)
  · intro a
    rw [filter_level_mergeSort hTrans hTotal,
      List.filter_append, List.filter_append,
      filter_level_mergeSort hTrans hTotal,
      filter_level_mergeSort hTrans hTotal]

/- A level that is all of a kind is kept with that kind. -/
theorem filter_level_eq_self
    {isKind : α → Bool}
    {a : α}
    (hKind : ∀ b, level le a b = true → isKind b = true)
    (as : List α) :
    (as.filter isKind).filter (level le a) =
      as.filter (level le a) := by
  rw [List.filter_filter]
  apply List.filter_congr
  intro b _
  by_cases hLevel : level le a b = true
  · rw [hLevel, hKind b hLevel]
    rfl
  · rw [Bool.not_eq_true] at hLevel
    rw [hLevel, Bool.false_and]

/- One that has nothing of a kind goes with the kind. -/
theorem filter_level_eq_nil
    {isKind : α → Bool}
    {a : α}
    (hKind : ∀ b, level le a b = true → isKind b = false)
    (as : List α) :
    (as.filter isKind).filter (level le a) = [] := by
  rw [List.filter_filter, List.filter_eq_nil_iff]
  intro b _ hBoth
  rw [Bool.and_eq_true] at hBoth
  rw [hKind b hBoth.1] at hBoth
  exact Bool.false_ne_true hBoth.2

/- Items of a kind that goes first are sorted in front. -/
theorem mergeSort_partition
    (hTrans :
      ∀ a b c, le a b = true → le b c = true → le a c = true)
    (hTotal : ∀ a b, (le a b || le b a) = true)
    {isFirst : α → Bool}
    (hApart :
      ∀ a b, isFirst a = true → isFirst b = false →
        le a b = true ∧ le b a = false)
    (as : List α) :
    as.mergeSort le =
      (as.filter isFirst).mergeSort le ++
        (as.filter fun a => !isFirst a).mergeSort le := by
  have hLevel :
      ∀ a b, level le a b = true → isFirst b = isFirst a := by
    intro a b hLevel
    rw [level, Bool.and_eq_true] at hLevel
    cases hA : isFirst a <;> cases hB : isFirst b
    · rfl
    · rw [(hApart b a hB hA).2] at hLevel
      exact absurd hLevel.1 Bool.false_ne_true
    · rw [(hApart a b hA hB).2] at hLevel
      exact absurd hLevel.2 Bool.false_ne_true
    · rfl
  rw [← mergeSort_append hTrans hTotal]
  · apply mergeSort_congr hTrans hTotal
    intro a
    rw [List.filter_append]
    cases hA : isFirst a with
    | true =>
        rw [filter_level_eq_self, filter_level_eq_nil,
          List.append_nil]
        · intro b hB
          rw [hLevel a b hB, hA]
          rfl
        · intro b hB
          rw [hLevel a b hB, hA]
    | false =>
        rw [filter_level_eq_nil, filter_level_eq_self,
          List.nil_append]
        · intro b hB
          rw [hLevel a b hB, hA]
          rfl
        · intro b hB
          rw [hLevel a b hB, hA]
  · intro a hFirst b hSecond
    rw [List.mem_filter] at hFirst hSecond
    have hOther : isFirst b = false := by
      simpa using hSecond.2
    exact (hApart a b hFirst.2 hOther).1

end Stable

end TraceMining

------------------------------------------------------------
-- Ranks
------------------------------------------------------------

namespace TraceMining

namespace Stable

variable {α : Type}

/- Ranks are compared along chains. -/
theorem rank_trans
    (rank : α → Int)
    (a b c : α)
    (hFirst : decide (rank a ≤ rank b) = true)
    (hSecond : decide (rank b ≤ rank c) = true) :
    decide (rank a ≤ rank c) = true := by
  simp only [decide_eq_true_eq] at *
  omega

/- Of two ranks one is no higher. -/
theorem rank_total
    (rank : α → Int)
    (a b : α) :
    (decide (rank a ≤ rank b) || decide (rank b ≤ rank a)) =
      true := by
  simp only [Bool.or_eq_true, decide_eq_true_eq]
  omega

/- Items on a level are those of one rank. -/
theorem level_rank
    (rank : α → Int)
    (a : α) :
    level (fun a b => decide (rank a ≤ rank b)) a =
      fun b => rank b == rank a := by
  funext b
  rw [Bool.eq_iff_iff, level]
  simp only [Bool.and_eq_true, decide_eq_true_eq, beq_iff_eq]
  omega

/- Sorting keeps the order of the items of a rank. -/
theorem filter_rank_mergeSort
    (rank : α → Int)
    (as : List α)
    (r : Int) :
    ((as.mergeSort fun a b => decide (rank a ≤ rank b)).filter
        fun a => rank a == r) =
      as.filter fun a => rank a == r := by
  by_cases hSome : ∃ a ∈ as, rank a = r
  · rcases hSome with ⟨a, _, rfl⟩
    rw [← level_rank rank a]
    exact filter_level_mergeSort (rank_trans rank)
      (rank_total rank) as a
  · have hNone : ∀ a ∈ as, ¬ (rank a == r) = true := by
      intro a hMember hRank
      exact hSome ⟨a, hMember, eq_of_beq hRank⟩
    rw [List.filter_eq_nil_iff.mpr hNone,
      List.filter_eq_nil_iff]
    intro a hMember
    exact hNone a (List.mem_mergeSort.mp hMember)

/- Items of one rank stay in the relation that orders them. -/
theorem pairwise_rank_mergeSort
    (rank : α → Int)
    {as : List α}
    {isBefore : α → α → Prop}
    (hOrder : as.Pairwise isBefore) :
    (as.mergeSort fun a b => decide (rank a ≤ rank b)).Pairwise
      fun a b =>
        rank a < rank b ∨ rank a = rank b ∧ isBefore a b := by
  have hSorted := List.pairwise_mergeSort (rank_trans rank)
    (rank_total rank) as
  rw [List.pairwise_iff_forall_sublist] at hSorted hOrder ⊢
  intro a b hBoth
  have hRank : rank a ≤ rank b :=
    of_decide_eq_true (hSorted hBoth)
  rcases Int.lt_or_eq_of_le hRank with hLess | hSame
  · exact Or.inl hLess
  · refine Or.inr ⟨hSame, hOrder ?_⟩
    -- Sorting keeps the order of the two, which have one rank.
    have hPair :
        ([a, b].filter fun c => rank c == rank b) = [a, b] := by
      simp [hSame]
    have hInside := hBoth.filter fun c => rank c == rank b
    rw [hPair, filter_rank_mergeSort] at hInside
    exact hInside.trans List.filter_sublist

/- Lists by rank that are alike on every rank are the same. -/
theorem eq_of_filter_rank
    (rank : α → Int)
    {as bs : List α}
    (hFirst : as.Pairwise fun a b => rank a ≤ rank b)
    (hSecond : bs.Pairwise fun a b => rank a ≤ rank b)
    (hSame :
      ∀ r,
        (as.filter fun a => rank a == r) =
          bs.filter fun a => rank a == r) :
    as = bs := by
  refine eq_of_filter_level (rank_total rank)
    (hFirst.imp decide_eq_true) (hSecond.imp decide_eq_true) ?_
  intro a
  rw [level_rank rank a]
  exact hSame (rank a)

end Stable

end TraceMining
