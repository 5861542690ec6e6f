import TraceMining.Proofs.Store.Table
import TraceMining.Store.Catalog

/-
  This file shows what is in a catalog, and what is loaded
  from it: the active definitions that the check accepts, in
  the order of the catalog.

  Key definitions include:
    * `Catalog.listing`

  Key theorems include:
    * `Definition.check_eq_ok_iff`
    * `Catalog.isNamed_ofList`
    * `Catalog.values_ofList`
    * `Catalog.loadable_eq_filter`
    * `Catalog.loadable_eq_active`
-/

------------------------------------------------------------
-- Checks
------------------------------------------------------------

namespace TraceMining

namespace Definition

variable {d : Definition}

/- The check accepts what can be matched. -/
theorem check_eq_ok_iff :
    d.check = .ok () ↔ d.isValid = true := by
  rw [check, Draft.check, isValid, Option.isNone_iff_eq_none]
  cases d.draft.fault? with
  | none => simp
  | some fault => simp

/- It gives this as its answer. -/
theorem isOk_check
    (d : Definition) :
    d.check.isOk = d.isValid := by
  rw [Bool.eq_iff_iff, ← check_eq_ok_iff]
  cases d.check with
  | ok done => simp [Except.isOk, Except.toBool]
  | error what => simp [Except.isOk, Except.toBool]

end Definition

end TraceMining

------------------------------------------------------------
-- Catalogs
------------------------------------------------------------

namespace TraceMining

namespace Catalog

/- The definitions of a list, each stored in its turn. -/
def listing
    (ds : List Definition) : List Definition :=
  ds.foldl (Roster.stored Definition.id) []

/- The catalog of a list has each under its identity. -/
theorem isNamed_ofList
    (ds : List Definition) :
    (ofList ds).IsNamed Definition.id :=
  Table.IsNamed.empty.putAll ds

/- It has what was stored in turn. -/
theorem values_ofList
    (ds : List Definition) :
    (ofList ds).values = listing ds :=
  Table.IsNamed.empty.values_putAll ds

/- What is loaded is active and accepted. -/
theorem loadable_eq_filter
    (c : Catalog) :
    c.loadable =
      c.values.filter fun d => d.isActive && d.check.isOk := by
  rw [loadable, active, List.filter_filter]
  apply List.filter_congr
  intro d _
  rw [Definition.isOk_check, Bool.and_comm]

/- If all are accepted, nothing active is passed over. -/
theorem loadable_eq_active
    {c : Catalog}
    (hAccepted : ∀ d ∈ c.values, d.check = .ok ()) :
    c.loadable = c.active := by
  rw [loadable, List.filter_eq_self]
  intro d hActive
  exact Definition.check_eq_ok_iff.mp
    (hAccepted d (List.mem_filter.mp hActive).1)

end Catalog

end TraceMining
