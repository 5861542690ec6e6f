/-
  This file defines keyed entries in order.  Putting a value
  under a key that is present changes it in place, so the
  order is that of first appearance.

  Key definitions include:
    * `Entries.get?`
    * `Entries.put`
    * `Entries.erase`

  Key theorems include:
    * `Entries.get?_put_self`
    * `Entries.get?_put_of_ne`
    * `Entries.keys_put`
    * `Entries.nodup_keys_put`
-/

------------------------------------------------------------
-- Operations
------------------------------------------------------------

namespace TraceMining

namespace Entries

variable {α : Type}

/- The keys, in order. -/
def keys
    (es : List (String × α)) : List String :=
  es.map Prod.fst

/- The value under a key. -/
def get?
    (es : List (String × α))
    (key : String) : Option α :=
  es.lookup key

/- Put a value at its key's place, or at the end. -/
def put
    (es : List (String × α))
    (key : String)
    (a : α) : List (String × α) :=
  match es with
  | [] => [(key, a)]
  | (k, b) :: rest =>
      if k = key then (k, a) :: rest
      else (k, b) :: put rest key a

/- Take a key away. -/
def erase
    (es : List (String × α))
    (key : String) : List (String × α) :=
  es.filter fun e => e.1 != key

end Entries

end TraceMining

------------------------------------------------------------
-- Looking Up
------------------------------------------------------------

namespace TraceMining

namespace Entries

variable {α : Type}

/- No entries have nothing under any key. -/
theorem get?_nil
    (key : String) :
    get? ([] : List (String × α)) key = none :=
  rfl

/- The first entry with the key decides. -/
theorem get?_cons
    (k : String)
    (a : α)
    (es : List (String × α))
    (key : String) :
    get? ((k, a) :: es) key =
      if key = k then some a else get? es key := by
  by_cases h : key = k
  · simp [get?, h]
  · have h' : (key == k) = false := by simp [h]
    simp [get?, List.lookup_cons, h, h']

/- A key that was just put has the new value. -/
theorem get?_put_self
    (es : List (String × α))
    (key : String)
    (a : α) :
    get? (put es key a) key = some a := by
  induction es with
  | nil => simp [put, get?_cons]
  | cons e es ih =>
      obtain ⟨k, b⟩ := e
      by_cases h : k = key
      · simp [put, h, get?_cons]
      · simp [put, h, get?_cons, Ne.symm h, ih]

/- Every other key keeps its value. -/
theorem get?_put_of_ne
    (es : List (String × α))
    {key other : String}
    (a : α)
    (h : other ≠ key) :
    get? (put es key a) other = get? es other := by
  induction es with
  | nil => simp [put, get?_cons, h]
  | cons e es ih =>
      obtain ⟨k, b⟩ := e
      by_cases hk : k = key
      · subst hk
        simp [put, get?_cons, h]
      · simp [put, hk, get?_cons, ih]

end Entries

end TraceMining

------------------------------------------------------------
-- Keys
------------------------------------------------------------

namespace TraceMining

namespace Entries

variable {α : Type}

/- Putting keeps the keys, or adds one at the end. -/
theorem keys_put
    (es : List (String × α))
    (key : String)
    (a : α) :
    keys (put es key a) =
      if key ∈ keys es then keys es
      else keys es ++ [key] := by
  induction es with
  | nil => simp [put, keys]
  | cons e es ih =>
      obtain ⟨k, b⟩ := e
      by_cases h : k = key
      · simp [put, h, keys]
      · simp only [keys] at ih
        have h' : ¬ key = k := Ne.symm h
        by_cases hm : key ∈ es.map Prod.fst
        · simp [put, h, keys, ih, hm]
        · simp [put, h, keys, ih, hm, h']

/- Putting does not repeat a key. -/
theorem nodup_keys_put
    {es : List (String × α)}
    (h : (keys es).Nodup)
    (key : String)
    (a : α) :
    (keys (put es key a)).Nodup := by
  rw [keys_put]
  split
  · exact h
  · rename_i hm
    rw [List.nodup_append]
    refine ⟨h, by simp, ?_⟩
    intro x hx y hy
    rw [List.mem_singleton] at hy
    subst hy
    intro hxy
    exact hm (hxy ▸ hx)

/- Taking a key away does not repeat another. -/
theorem nodup_keys_erase
    {es : List (String × α)}
    (h : (keys es).Nodup)
    (key : String) :
    (keys (erase es key)).Nodup :=
  h.sublist (List.filter_sublist.map Prod.fst)

end Entries

end TraceMining
