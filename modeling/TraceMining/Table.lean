import TraceMining.Entries

/-
  This file defines tables: values under distinct keys, in
  the order in which the keys first came.  All stores of this
  library are tables, as is every grouping by name.

  Key definitions include:
    * `Table`
    * `Table.get?`
    * `Table.put`
    * `Table.adjust`
    * `Table.erase`
    * `Table.values`
-/

------------------------------------------------------------
-- Tables
------------------------------------------------------------

namespace TraceMining

/- Values under distinct keys, in order. -/
structure Table (α : Type) where
  entries : List (String × α)
  nodup : (Entries.keys entries).Nodup

namespace Table

variable {α : Type}

/- The table without keys. -/
def empty : Table α :=
  { entries := []
    nodup := by simp [Entries.keys] }

instance : Inhabited (Table α) where
  default := empty

/- The keys, in order. -/
def keys
    (t : Table α) : List String :=
  Entries.keys t.entries

/- The values, in the order of their keys. -/
def values
    (t : Table α) : List α :=
  t.entries.map Prod.snd

/- The value under a key. -/
def get?
    (t : Table α)
    (key : String) : Option α :=
  Entries.get? t.entries key

/- The key is present. -/
def has
    (t : Table α)
    (key : String) : Bool :=
  (t.get? key).isSome

/- Put a value under a key, in place if it is present. -/
def put
    (t : Table α)
    (key : String)
    (a : α) : Table α :=
  { entries := Entries.put t.entries key a
    nodup := Entries.nodup_keys_put t.nodup key a }

/- Change the value under a key, or one to start from. -/
def adjust
    (t : Table α)
    (key : String)
    (start : α)
    (f : α → α) : Table α :=
  t.put key (f ((t.get? key).getD start))

/- Take a key away. -/
def erase
    (t : Table α)
    (key : String) : Table α :=
  { entries := Entries.erase t.entries key
    nodup := Entries.nodup_keys_erase t.nodup key }

/- Put every value of a list under its own key. -/
def putAll
    (key : α → String)
    (t : Table α)
    (as : List α) : Table α :=
  as.foldl (fun t a => t.put (key a) a) t

end Table

end TraceMining

------------------------------------------------------------
-- Laws
------------------------------------------------------------

namespace TraceMining

namespace Table

variable {α : Type}

/- The empty table has nothing. -/
@[simp] theorem get?_empty
    (key : String) :
    (empty : Table α).get? key = none :=
  rfl

/- A key that was just put has the new value. -/
@[simp] theorem get?_put_self
    (t : Table α)
    (key : String)
    (a : α) :
    (t.put key a).get? key = some a :=
  Entries.get?_put_self t.entries key a

/- Every other key keeps its value. -/
theorem get?_put_of_ne
    (t : Table α)
    {key other : String}
    (a : α)
    (h : other ≠ key) :
    (t.put key a).get? other = t.get? other :=
  Entries.get?_put_of_ne t.entries a h

/- Putting keeps the keys, or adds one at the end. -/
theorem keys_put
    (t : Table α)
    (key : String)
    (a : α) :
    (t.put key a).keys =
      if key ∈ t.keys then t.keys else t.keys ++ [key] :=
  Entries.keys_put t.entries key a

end Table

end TraceMining
