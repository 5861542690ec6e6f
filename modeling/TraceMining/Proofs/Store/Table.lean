import Mathlib.Data.List.Induction
import TraceMining.Proofs.Distinct
import TraceMining.Table

/-
  This file shows what is in a table after values were put and
  taken away.  Where every value stands under its own name, a
  table is a roster: a list of items with different names, in
  which a new item takes the place of the one with its name or
  goes to the end.

  Key definitions include:
    * `Roster.stored`
    * `Roster.removed`
    * `Table.IsNamed`

  Key theorems include:
    * `Table.mem_values_put`
    * `Table.mem_values_of_get?`
    * `Table.entries_eq_map_keys`
    * `Table.entries_put_of_fresh`
    * `Table.keys_putAll`
    * `Table.get?_putAll`
    * `Roster.foldl_stored_of_nodup`
    * `Table.IsNamed.get?_of_mem`
    * `Table.IsNamed.values_put`
    * `Table.IsNamed.values_erase`
    * `Table.IsNamed.values_putAll`
-/

------------------------------------------------------------
-- Entries
------------------------------------------------------------

namespace TraceMining

namespace Entries

variable {α : Type}

/- An entry is the one that was put, or it was there. -/
theorem mem_put
    {es : List (String × α)}
    {key : String}
    {a : α}
    {e : String × α}
    (hMember : e ∈ put es key a) :
    e = (key, a) ∨ e ∈ es := by
  induction es with
  | nil =>
      exact Or.inl (List.mem_singleton.mp hMember)
  | cons first es ih =>
      rcases first with ⟨k, b⟩
      by_cases hKey : k = key
      · rw [put, if_pos hKey, List.mem_cons, hKey] at hMember
        exact hMember.imp_right (List.mem_cons_of_mem _)
      · rw [put, if_neg hKey, List.mem_cons] at hMember
        rcases hMember with rfl | hMember
        · exact Or.inr List.mem_cons_self
        · exact (ih hMember).imp_right (List.mem_cons_of_mem _)

/- An entry is what is found under its key. -/
theorem get?_of_mem
    {es : List (String × α)}
    (hKeys : (keys es).Nodup)
    {e : String × α}
    (hMember : e ∈ es) :
    get? es e.1 = some e.2 := by
  induction es with
  | nil => exact absurd hMember List.not_mem_nil
  | cons first es ih =>
      rcases first with ⟨k, b⟩
      rw [keys, List.map_cons, List.nodup_cons] at hKeys
      rw [get?_cons]
      rcases List.mem_cons.mp hMember with rfl | hLater
      · rw [if_pos rfl]
      · have hHere : e.1 ∈ es.map Prod.fst :=
          List.mem_map_of_mem hLater
        have hOther : e.1 ≠ k := by
          rintro rfl
          exact hKeys.1 hHere
        rw [if_neg hOther]
        exact ih hKeys.2 hLater

/- What is found under a key is an entry. -/
theorem mem_of_get?
    {es : List (String × α)}
    {key : String}
    {a : α}
    (hValue : get? es key = some a) :
    (key, a) ∈ es := by
  rcases List.lookup_eq_some_iff.mp hValue with
    ⟨before, after, hEntries, _⟩
  rw [hEntries]
  simp

/- Nothing is found under what is no key. -/
theorem get?_eq_none_iff
    {es : List (String × α)}
    {key : String} :
    get? es key = none ↔ key ∉ keys es := by
  induction es with
  | nil => simp [get?_nil, keys]
  | cons first es ih =>
      rcases first with ⟨k, b⟩
      rw [get?_cons, keys, List.map_cons, List.mem_cons,
        not_or]
      by_cases hKey : key = k
      · simp [hKey]
      · rw [if_neg hKey, ih]
        simp [hKey, keys]

/- A key is looked up in one list and then in the next. -/
theorem get?_append
    (es fs : List (String × α))
    (key : String) :
    get? (es ++ fs) key = (get? es key).or (get? fs key) :=
  List.lookup_append

/- A key that was taken away has no value. -/
theorem get?_erase_self
    (es : List (String × α))
    (key : String) :
    get? (erase es key) key = none := by
  rw [get?_eq_none_iff]
  intro hKey
  rcases List.mem_map.mp hKey with ⟨e, hMember, hSame⟩
  have hOther := (List.mem_filter.mp hMember).2
  rw [hSame] at hOther
  simp at hOther

/- Every other key keeps its value then. -/
theorem get?_erase_of_ne
    (es : List (String × α))
    {key other : String}
    (hOther : other ≠ key) :
    get? (erase es key) other = get? es other := by
  induction es with
  | nil => rfl
  | cons first es ih =>
      rcases first with ⟨k, b⟩
      rw [erase] at ih ⊢
      by_cases hKey : k = key
      · subst hKey
        rw [List.filter_cons_of_neg (by simp), ih, get?_cons,
          if_neg hOther]
      · rw [List.filter_cons_of_pos (by simpa using hKey),
          get?_cons, get?_cons, ih]

/- A key that is not there is put at the end. -/
theorem put_of_not_mem
    {es : List (String × α)}
    {key : String}
    (hFresh : key ∉ keys es)
    (a : α) :
    put es key a = es ++ [(key, a)] := by
  induction es with
  | nil => rfl
  | cons first es ih =>
      rcases first with ⟨k, b⟩
      rw [keys, List.map_cons, List.mem_cons, not_or]
        at hFresh
      rw [put, if_neg (Ne.symm hFresh.1), ih hFresh.2,
        List.cons_append]

/- One that is there has its value changed, and no other. -/
theorem put_of_mem
    {es : List (String × α)}
    (hKeys : (keys es).Nodup)
    {key : String}
    (hMember : key ∈ keys es)
    (a : α) :
    put es key a =
      es.map fun e => if e.1 = key then (key, a) else e := by
  induction es with
  | nil => exact absurd hMember List.not_mem_nil
  | cons first es ih =>
      rcases first with ⟨k, b⟩
      rw [keys, List.map_cons, List.nodup_cons] at hKeys
      by_cases hHere : k = key
      · have hRest :
            (es.map fun e =>
              if e.1 = key then (key, a) else e) = es := by
          refine (List.map_congr_left fun e hLater => ?_).trans
            (List.map_id es)
          have hThere : e.1 ∈ es.map Prod.fst :=
            List.mem_map_of_mem hLater
          refine if_neg fun hSame => hKeys.1 ?_
          rwa [hHere, ← hSame]
        rw [put, if_pos hHere, List.map_cons, hRest,
          if_pos hHere, hHere]
      · rw [keys, List.map_cons, List.mem_cons] at hMember
        have hLater :=
          hMember.resolve_left (Ne.symm hHere)
        rw [put, if_neg hHere, ih hKeys.2 hLater,
          List.map_cons, if_neg hHere]

end Entries

end TraceMining

------------------------------------------------------------
-- Tables
------------------------------------------------------------

namespace TraceMining

namespace Table

variable {α : Type}

/- Putting a value puts an entry. -/
@[simp] theorem entries_put
    (t : Table α)
    (key : String)
    (a : α) :
    (t.put key a).entries = Entries.put t.entries key a :=
  rfl

/- Taking a key away takes its entry away. -/
@[simp] theorem entries_erase
    (t : Table α)
    (key : String) :
    (t.erase key).entries =
      t.entries.filter fun e => e.1 != key :=
  rfl

/- A value is the one that was put, or it was there. -/
theorem mem_values_put
    {t : Table α}
    {key : String}
    {a b : α}
    (hMember : b ∈ (t.put key a).values) :
    b = a ∨ b ∈ t.values := by
  rcases List.mem_map.mp hMember with ⟨e, hEntry, rfl⟩
  rcases Entries.mem_put hEntry with rfl | hOld
  · exact Or.inl rfl
  · exact Or.inr (List.mem_map_of_mem hOld)

/- What is under a key is an entry. -/
theorem mem_entries_of_get?
    {t : Table α}
    {key : String}
    {a : α}
    (hValue : t.get? key = some a) :
    (key, a) ∈ t.entries :=
  Entries.mem_of_get? hValue

/- So it is a value. -/
theorem mem_values_of_get?
    {t : Table α}
    {key : String}
    {a : α}
    (hValue : t.get? key = some a) :
    a ∈ t.values :=
  List.mem_map_of_mem (f := Prod.snd)
    (mem_entries_of_get? hValue)

/- A key is present if it is one of the keys. -/
theorem has_iff_mem_keys
    {t : Table α}
    {key : String} :
    t.has key = true ↔ key ∈ t.keys := by
  rw [← Decidable.not_iff_not, has, Bool.not_eq_true,
    Option.isSome_eq_false_iff, Option.isNone_iff_eq_none]
  exact Entries.get?_eq_none_iff

/- A table is told from its keys and what is under them. -/
theorem entries_eq_map_keys
    {t : Table α}
    {f : String → α}
    (hValues : ∀ k ∈ t.keys, t.get? k = some (f k)) :
    t.entries = t.keys.map fun k => (k, f k) := by
  rw [keys, Entries.keys, List.map_map]
  refine (List.map_id t.entries).symm.trans ?_
  apply List.map_congr_left
  intro e hEntry
  have hHere : t.get? e.1 = some e.2 :=
    Entries.get?_of_mem t.nodup hEntry
  rw [hValues e.1 (List.mem_map_of_mem hEntry)] at hHere
  rw [Function.comp, Option.some.inj hHere, id]

/- A table is nothing but its entries. -/
theorem ext_entries
    {t u : Table α}
    (hEntries : t.entries = u.entries) :
    t = u := by
  cases t
  cases u
  simpa using hEntries

/- A new key goes to the end. -/
theorem entries_put_of_fresh
    {t : Table α}
    {key : String}
    (hFresh : key ∉ t.keys)
    (a : α) :
    (t.put key a).entries = t.entries ++ [(key, a)] :=
  Entries.put_of_not_mem hFresh a

/- The last value of a list is put last. -/
theorem putAll_concat
    (name : α → String)
    (t : Table α)
    (as : List α)
    (a : α) :
    putAll name t (as ++ [a]) =
      (putAll name t as).put (name a) a :=
  List.foldl_append

/- Keys stand in the order in which they first came. -/
theorem keys_putAll
    (name : α → String)
    (t : Table α)
    (as : List α) :
    (putAll name t as).keys =
      (t.keys ++ as.map name).eraseDups := by
  induction as using List.reverseRecOn with
  | nil =>
      rw [List.map_nil, List.append_nil]
      exact (Distinct.eraseDups_eq_self t.nodup).symm
  | append_singleton as a ih =>
      rw [putAll_concat, keys_put, ih, List.map_append,
        List.map_singleton, ← List.append_assoc,
        Distinct.eraseDups_concat]
      simp only [List.mem_eraseDups]

/- A value was among those that were put, or it was there. -/
theorem mem_values_putAll
    {name : α → String}
    {t : Table α}
    {as : List α}
    {b : α}
    (hMember : b ∈ (putAll name t as).values) :
    b ∈ as ∨ b ∈ t.values := by
  induction as generalizing t with
  | nil => exact Or.inr hMember
  | cons a as ih =>
      rcases ih hMember with hRest | hBefore
      · exact Or.inl (List.mem_cons_of_mem a hRest)
      · rcases mem_values_put hBefore with rfl | hOld
        · exact Or.inl List.mem_cons_self
        · exact Or.inr hOld

/- The last value that was put under a name is there. -/
theorem get?_putAll
    (name : α → String)
    (t : Table α)
    (as : List α)
    (key : String) :
    (putAll name t as).get? key =
      (as.filter fun a => name a == key).getLast?.or
        (t.get? key) := by
  induction as using List.reverseRecOn with
  | nil => rfl
  | append_singleton as a ih =>
      rw [putAll_concat, List.filter_append]
      by_cases hKey : name a = key
      · rw [hKey, get?_put_self,
          List.filter_cons_of_pos (by simpa using hKey),
          List.filter_nil, List.getLast?_concat]
        rfl
      · rw [get?_put_of_ne _ a (Ne.symm hKey), ih,
          List.filter_cons_of_neg (by simpa using hKey),
          List.filter_nil, List.append_nil]

end Table

end TraceMining

------------------------------------------------------------
-- Rosters
------------------------------------------------------------

namespace TraceMining

namespace Roster

variable {α : Type}

/-
  The items after one is stored: in the place of the one with
  its name, or at the end.
-/
def stored
    (name : α → String)
    (as : List α)
    (a : α) : List α :=
  if name a ∈ as.map name then
    as.map fun b => if name b = name a then a else b
  else as ++ [a]

/- The items without the one of a name. -/
def removed
    (name : α → String)
    (as : List α)
    (s : String) : List α :=
  as.filter fun a => name a != s

variable {name : α → String}
variable {as : List α}

/- One that was taken away and comes again is the last. -/
theorem stored_removed
    (name : α → String)
    (as : List α)
    (a : α) :
    stored name (removed name as (name a)) a =
      removed name as (name a) ++ [a] := by
  refine if_neg fun hMember => ?_
  rcases List.mem_map.mp hMember with ⟨b, hLeft, hSame⟩
  have hOther := (List.mem_filter.mp hLeft).2
  rw [hSame, bne_self_eq_false] at hOther
  cases hOther

/- Items with different names are stored in a row. -/
theorem foldl_stored_of_nodup
    {bs : List α}
    (hNames : ((as ++ bs).map name).Nodup) :
    bs.foldl (stored name) as = as ++ bs := by
  induction bs generalizing as with
  | nil => exact (List.append_nil as).symm
  | cons b bs ih =>
      have hAll : as ++ b :: bs = (as ++ [b]) ++ bs := by simp
      have hNew : name b ∉ as.map name := by
        intro hOld
        rw [List.map_append, List.nodup_append] at hNames
        exact hNames.2.2 (name b) hOld (name b)
          List.mem_cons_self rfl
      rw [List.foldl_cons, stored, if_neg hNew, hAll]
      exact ih (hAll ▸ hNames)

end Roster

end TraceMining

------------------------------------------------------------
-- Named Values
------------------------------------------------------------

namespace TraceMining

namespace Table

variable {α : Type}
variable {name : α → String}
variable {t : Table α}

/- Every value stands under its own name. -/
def IsNamed
    (name : α → String)
    (t : Table α) : Prop :=
  ∀ e ∈ t.entries, e.1 = name e.2

namespace IsNamed

/- It does if there is none. -/
theorem empty :
    (Table.empty : Table α).IsNamed name := by
  intro e hEntry
  exact absurd hEntry List.not_mem_nil

/- It still does when a value is put under its name. -/
theorem put
    (hNamed : t.IsNamed name)
    (a : α) :
    (t.put (name a) a).IsNamed name := by
  intro e hEntry
  rcases Entries.mem_put hEntry with rfl | hOld
  · rfl
  · exact hNamed e hOld

/- So it does when many are. -/
theorem putAll
    (hNamed : t.IsNamed name)
    (as : List α) :
    (Table.putAll name t as).IsNamed name := by
  induction as generalizing t with
  | nil => exact hNamed
  | cons a as ih => exact ih (hNamed.put a)

/- It still does when a name is taken away. -/
theorem erase
    (hNamed : t.IsNamed name)
    (key : String) :
    (t.erase key).IsNamed name := by
  intro e hEntry
  exact hNamed e (List.mem_filter.mp hEntry).1

/- The keys are the names. -/
theorem keys_eq
    (hNamed : t.IsNamed name) :
    t.keys = t.values.map name := by
  rw [keys, Entries.keys, values, List.map_map]
  exact List.map_congr_left hNamed

/- So no two values have the same name. -/
theorem nodup_names
    (hNamed : t.IsNamed name) :
    (t.values.map name).Nodup := by
  rw [← hNamed.keys_eq]
  exact t.nodup

/- A value is found under its name. -/
theorem get?_of_mem
    (hNamed : t.IsNamed name)
    {a : α}
    (hStored : a ∈ t.values) :
    t.get? (name a) = some a := by
  rcases List.mem_map.mp hStored with ⟨e, hEntry, rfl⟩
  rw [← hNamed e hEntry]
  exact Entries.get?_of_mem t.nodup hEntry

/- A value that is put is stored in the roster. -/
theorem values_put
    (hNamed : t.IsNamed name)
    (a : α) :
    (t.put (name a) a).values =
      Roster.stored name t.values a := by
  have hKeys := hNamed.keys_eq
  rw [Roster.stored, ← hKeys]
  split
  · rename_i hMember
    rw [values, entries_put,
      Entries.put_of_mem t.nodup hMember, values,
      List.map_map, List.map_map]
    apply List.map_congr_left
    intro e hEntry
    rw [Function.comp_apply, Function.comp_apply,
      hNamed e hEntry]
    split
    · rfl
    · rfl
  · rename_i hFresh
    rw [values, entries_put, Entries.put_of_not_mem hFresh,
      List.map_append]
    rfl

/- A name that is taken away is removed from it. -/
theorem values_erase
    (hNamed : t.IsNamed name)
    (key : String) :
    (t.erase key).values =
      Roster.removed name t.values key := by
  rw [values, entries_erase, Roster.removed, values,
    List.filter_map]
  congr 1
  apply List.filter_congr
  intro e hEntry
  rw [Function.comp_apply, hNamed e hEntry]

/- Values that are put in turn are stored in turn. -/
theorem values_putAll
    (hNamed : t.IsNamed name)
    (as : List α) :
    (Table.putAll name t as).values =
      as.foldl (Roster.stored name) t.values := by
  induction as generalizing t with
  | nil => rfl
  | cons a as ih =>
      rw [List.foldl_cons, ← hNamed.values_put a]
      exact ih (hNamed.put a)

end IsNamed

end Table

end TraceMining
