import Mathlib.Data.List.Induction
import Mathlib.Data.List.Nodup
import TraceMining.Distinct

/-
  This file shows what is left of a list without repetitions,
  also of two lists in a row.  It is what the first
  appearances of texts are, and what items come to that are
  added unless they are there.

  Key theorems include:
    * `Distinct.eraseDups_eq_self`
    * `Distinct.eraseDups_concat`
    * `Distinct.nodup_eraseDups`
    * `Distinct.pairwise_idxOf_eraseDups`
    * `Distinct.eraseDups_append_eq`
    * `Distinct.foldl_add`
    * `Distinct.firstsBeyond_map`
    * `Distinct.firsts_eq_self`
    * `Distinct.find?_firsts`
    * `Distinct.texts_eq_eraseDups`
    * `Distinct.map_firsts`
-/

------------------------------------------------------------
-- Repetitions
------------------------------------------------------------

namespace TraceMining

namespace Distinct

variable {α : Type}
variable [BEq α] [LawfulBEq α]

/- A list without repetitions stays as it is. -/
theorem eraseDups_eq_self
    {as : List α}
    (hDistinct : as.Nodup) :
    as.eraseDups = as := by
  induction as with
  | nil => exact List.eraseDups_nil
  | cons a as ih =>
      rcases List.nodup_cons.mp hDistinct with ⟨hNew, hRest⟩
      have hOthers :
          (as.filter fun b => !b == a) = as := by
        rw [List.filter_eq_self]
        intro b hMember
        have hOther : b ≠ a := fun hSame =>
          hNew (hSame ▸ hMember)
        simpa using hOther
      rw [List.eraseDups_cons, hOthers, ih hRest]

/- An item at the end is kept if it is new. -/
theorem eraseDups_concat
    (as : List α)
    (a : α)
    [Decidable (a ∈ as)] :
    (as ++ [a]).eraseDups =
      if a ∈ as then as.eraseDups
      else as.eraseDups ++ [a] := by
  rw [List.eraseDups_append, List.removeAll]
  split
  · rename_i hOld
    have hNone :
        ([a].filter fun b => !List.elem b as) = [] := by
      simp [hOld]
    rw [hNone, List.eraseDups_nil, List.append_nil]
  · rename_i hNew
    have hSelf :
        ([a].filter fun b => !List.elem b as) = [a] := by
      simp [hNew]
    rw [hSelf, List.eraseDups_cons, List.filter_nil,
      List.eraseDups_nil]

/- Nothing is left twice. -/
theorem nodup_eraseDups
    (as : List α) :
    as.eraseDups.Nodup := by
  classical
  induction as using List.reverseRecOn with
  | nil => simp
  | append_singleton as a ih =>
      rw [eraseDups_concat]
      split
      · exact ih
      · rename_i hNew
        have hApart : a ∉ as.eraseDups :=
          mt List.mem_eraseDups.mp hNew
        rw [← List.concat_eq_append]
        exact List.Nodup.concat hApart ih

/- Items are left in the order in which they first came. -/
theorem pairwise_idxOf_eraseDups
    (as : List α) :
    as.eraseDups.Pairwise fun a b =>
      as.idxOf a < as.idxOf b := by
  classical
  induction as using List.reverseRecOn with
  | nil => simp
  | append_singleton as a ih =>
      have hBefore :
          as.eraseDups.Pairwise fun b c =>
            (as ++ [a]).idxOf b < (as ++ [a]).idxOf c := by
        refine ih.imp_of_mem ?_
        intro b c hFirst hSecond hLess
        rw [List.mem_eraseDups] at hFirst hSecond
        rwa [List.idxOf_append_of_mem hFirst,
          List.idxOf_append_of_mem hSecond]
      rw [eraseDups_concat]
      split
      · exact hBefore
      · rename_i hNew
        rw [List.pairwise_append]
        refine ⟨hBefore, List.pairwise_singleton _ a, ?_⟩
        intro b hOld c hLast
        rw [List.mem_eraseDups] at hOld
        rw [List.mem_singleton.mp hLast,
          List.idxOf_append_of_mem hOld,
          List.idxOf_append_of_notMem hNew]
        exact Nat.lt_add_right _
          (List.idxOf_lt_length_of_mem hOld)

/- Items may be taken out before repetitions or after them. -/
theorem eraseDups_filter
    (p : α → Bool)
    (as : List α) :
    (as.filter p).eraseDups = as.eraseDups.filter p := by
  classical
  induction as using List.reverseRecOn with
  | nil => simp
  | append_singleton as a ih =>
      rw [List.filter_append, eraseDups_concat]
      by_cases hKept : p a = true
      · have hIff : a ∈ as.filter p ↔ a ∈ as := by
          rw [List.mem_filter, and_iff_left hKept]
        have hHere : [a].filter p = [a] :=
          List.filter_cons_of_pos hKept
        rw [hHere, eraseDups_concat, ih]
        split
        · rw [if_pos (hIff.mp ‹_›)]
        · rw [if_neg (mt hIff.mpr ‹_›), List.filter_append,
            hHere]
      · have hNone : [a].filter p = [] :=
          List.filter_cons_of_neg hKept
        rw [hNone, List.append_nil, ih]
        split
        · rfl
        · rw [List.filter_append, hNone, List.append_nil]

/- Of a second list, what the first has not is left as well. -/
theorem eraseDups_append_eq
    (as : List α)
    (bs : List α) :
    (as ++ bs).eraseDups =
      as.eraseDups ++
        bs.eraseDups.filter fun b =>
          !as.eraseDups.contains b := by
  have hSame :
      ∀ b, as.eraseDups.contains b = as.contains b := by
    intro b
    rw [Bool.eq_iff_iff, List.contains_iff_mem,
      List.contains_iff_mem, List.mem_eraseDups]
  rw [List.eraseDups_append, List.removeAll,
    eraseDups_filter]
  simp only [hSame]

/- Adding items one by one leaves out repetitions. -/
theorem foldl_add
    (as : List α)
    (bs : List α) :
    bs.foldl add as.eraseDups = (as ++ bs).eraseDups := by
  classical
  induction bs using List.reverseRecOn with
  | nil => rw [List.append_nil, List.foldl_nil]
  | append_singleton bs b ih =>
      rw [List.foldl_append, ih, ← List.append_assoc,
        eraseDups_concat]
      simp only [List.foldl_cons, List.foldl_nil, add,
        List.contains_iff_mem, List.mem_eraseDups]

/- So it does from nothing on. -/
theorem foldl_add_nil
    (as : List α) :
    as.foldl add [] = as.eraseDups := by
  have hAll := foldl_add [] as
  rwa [List.eraseDups_nil, List.nil_append] at hAll

end Distinct

end TraceMining

------------------------------------------------------------
-- Names
------------------------------------------------------------

namespace TraceMining

namespace Distinct

variable {α β : Type}

/- First appearances among images are told from the items. -/
theorem firstsBeyond_map
    (f : α → β)
    (name : β → String)
    (seen : List String)
    (as : List α) :
    firstsBeyond name seen (as.map f) =
      (firstsBeyond (name ∘ f) seen as).map f := by
  induction as generalizing seen with
  | nil => rfl
  | cons a as ih =>
      rw [List.map_cons, firstsBeyond, firstsBeyond,
        Function.comp]
      split
      · exact ih seen
      · rw [List.map_cons, ih]

variable {name : α → String}

/- Items whose names are new and differ stay as they are. -/
theorem firstsBeyond_eq_self
    {seen : List String}
    {as : List α}
    (hNew : ∀ a ∈ as, name a ∉ seen)
    (hDistinct : (as.map name).Nodup) :
    firstsBeyond name seen as = as := by
  induction as generalizing seen with
  | nil => rfl
  | cons a as ih =>
      rw [List.map_cons, List.nodup_cons] at hDistinct
      rcases hDistinct with ⟨hApart, hDistinct⟩
      rcases List.forall_mem_cons.mp hNew with ⟨hFirst, hRest⟩
      rw [firstsBeyond, if_neg hFirst, ih _ hDistinct]
      intro b hMember hSeen
      rcases List.mem_cons.mp hSeen with hSame | hSeen
      · exact hApart (hSame ▸ List.mem_map_of_mem hMember)
      · exact hRest b hMember hSeen

/- So a list without a repeated name is its own. -/
theorem firsts_eq_self
    {as : List α}
    (hDistinct : (as.map name).Nodup) :
    firsts name as = as :=
  firstsBeyond_eq_self (fun _ _ => List.not_mem_nil) hDistinct

/- The first item of a name not yet seen is kept. -/
theorem find?_firstsBeyond
    {seen : List String}
    {s : String}
    (hNew : s ∉ seen)
    (as : List α) :
    (firstsBeyond name seen as).find? (fun a => name a == s) =
      as.find? fun a => name a == s := by
  induction as generalizing seen with
  | nil => rfl
  | cons a as ih =>
      rw [firstsBeyond]
      by_cases hHere : name a = s
      · rw [if_neg (hHere ▸ hNew)]
        simp [hHere]
      · have hLater : s ∉ name a :: seen := by
          simp [Ne.symm hHere, hNew]
        split
        · simpa [hHere] using ih hNew
        · simpa [hHere] using ih hLater

/- So is the first item of every name. -/
theorem find?_firsts
    (s : String)
    (as : List α) :
    (firsts name as).find? (fun a => name a == s) =
      as.find? fun a => name a == s :=
  find?_firstsBeyond List.not_mem_nil as

end Distinct

end TraceMining

------------------------------------------------------------
-- Texts
------------------------------------------------------------

namespace TraceMining

namespace Distinct

/- What was seen before is left out from the start. -/
theorem firstsBeyond_eq_eraseDups
    (seen : List String)
    (ss : List String) :
    firstsBeyond id seen ss =
      (ss.filter fun s => !seen.contains s).eraseDups := by
  induction ss generalizing seen with
  | nil => rfl
  | cons s ss ih =>
      rw [firstsBeyond, ih, ih]
      split
      · rename_i hOld
        rw [List.filter_cons_of_neg (by simpa using hOld)]
      · rename_i hNew
        rw [List.filter_cons_of_pos (by simpa using hNew),
          List.eraseDups_cons, List.filter_filter]
        have hBoth :
            (ss.filter fun t => !(s :: seen).contains t) =
              ss.filter fun t =>
                !t == s && !seen.contains t := by
          apply List.filter_congr
          intro t _
          rw [List.contains_cons, Bool.not_or]
        exact congrArg (s :: List.eraseDups ·) hBoth

/- First appearances are what is left without repetitions. -/
theorem texts_eq_eraseDups
    (ss : List String) :
    texts ss = ss.eraseDups := by
  rw [texts, firsts, firstsBeyond_eq_eraseDups]
  exact congrArg List.eraseDups
    (List.filter_eq_self.mpr fun _ _ => rfl)

/- The names of first appearances are those of all items. -/
theorem map_firsts
    {α : Type}
    (name : α → String)
    (as : List α) :
    (firsts name as).map name = (as.map name).eraseDups := by
  rw [← texts_eq_eraseDups]
  exact (firstsBeyond_map name id [] as).symm

end Distinct

end TraceMining
