import TraceMining.Proofs.Model.EntityGroup
import TraceMining.Proofs.Naming.Plain

/-
  This file shows when the names of entities tell them apart.
  Entities are grouped by what patterns say and have the
  identifier of that as their name, so two of them have the
  same name just if what is said differs and its identifier
  does not.  Plain names are their own identifiers and never
  clash.

  Key theorems include:
    * `Entity.names_derive`
    * `Entity.names_derive_of_plain`
    * `Entity.names_derive_distinct`
-/

------------------------------------------------------------
-- Names
------------------------------------------------------------

namespace TraceMining

namespace Entity

variable {ps : List Pattern}

/- No name is said twice. -/
theorem nodup_subjects
    (ps : List Pattern) :
    (subjects ps).Nodup :=
  Distinct.nodup_eraseDups _

/- What a pattern is about has an entity. -/
theorem mem_subjects
    {k : String} :
    k ∈ subjects ps ↔ ∃ p ∈ ps, p.subject? = some k := by
  rw [subjects, List.mem_eraseDups, List.mem_filterMap]

/- Names are the identifiers of what is said. -/
theorem names_derive
    (ps : List Pattern) :
    (derive ps).map name =
      (subjects ps).map Naming.camel := by
  rw [derive_eq_map, List.map_map]
  rfl

/- They are what is said if that is plain. -/
theorem names_derive_of_plain
    (hPlain : ∀ k ∈ subjects ps, Naming.IsPlain k) :
    (derive ps).map name = subjects ps := by
  rw [names_derive]
  refine (List.map_congr_left ?_).trans (List.map_id _)
  intro k hMember
  exact Naming.camel_of_plain (hPlain k hMember)

/-
  Entities have different names just if different names that
  patterns say have different identifiers, as they do if they
  are plain.  Then what a screen is linked to is the name of
  exactly one entity.
-/
theorem names_derive_distinct
    (ps : List Pattern) :
    (((derive ps).map name).Nodup ↔
        ∀ k ∈ subjects ps, ∀ l ∈ subjects ps,
          Naming.camel k = Naming.camel l → k = l) ∧
      ((∀ k ∈ subjects ps, Naming.IsPlain k) →
        ((derive ps).map name).Nodup) ∧
      (((derive ps).map name).Nodup →
        ∀ s ∈ Screen.derive (derive ps) ps, ∀ n,
          s.entity = some n →
            ((derive ps).map name).count n = 1) := by
  refine ⟨?_, ?_, ?_⟩
  · rw [names_derive]
    exact List.nodup_map_iff_inj_on (nodup_subjects ps)
  · intro hPlain
    rw [names_derive_of_plain hPlain]
    exact nodup_subjects ps
  · intro hDistinct s hScreen n hLinked
    rcases Screen.exists_entity_of_derive hScreen hLinked with
      ⟨e, hEntity, rfl⟩
    exact List.count_eq_one_of_mem hDistinct
      (List.mem_map_of_mem hEntity)

/- Orders by name and by path, between customers. -/
def plainVisits : List Pattern :=
  [ .saying "crud_create"
      [("entityName", .text "order"), ("path", .text "/orders")]
  , .saying "list_view" [("path", .text "/customers")]
  , .saying "crud_read" [("path", .text "/orders/5")] ]

/- They are about two entities with plain names. -/
theorem subjects_plainVisits :
    subjects plainVisits = ["order", "customer"] := by
  decide

/- So the entities have different names. -/
theorem names_derive_distinct_plainVisits :
    (∀ k ∈ subjects plainVisits, Naming.IsPlain k) ∧
      ((derive plainVisits).map name).Nodup ∧
      (derive plainVisits).map name = ["order", "customer"] := by
  have hPlain :
      ∀ k ∈ subjects plainVisits, Naming.IsPlain k := by
    rw [subjects_plainVisits]
    simp only [List.forall_mem_cons]
    exact ⟨by decide, by decide, nofun⟩
  refine ⟨hPlain, ?_, ?_⟩
  · exact (names_derive_distinct plainVisits).2.1 hPlain
  · rw [names_derive_of_plain hPlain, subjects_plainVisits]

/- An order by its name, and another one by its path. -/
def capitalVisits : List Pattern :=
  [ .saying "crud_create" [("entityName", .text "Order")]
  , .saying "crud_read" [("path", .text "/orders/5")] ]

/- Their entities have the same name. -/
theorem not_names_derive_distinct_capitalVisits :
    ¬ ((derive capitalVisits).map name).Nodup := by
  rw [names_derive]
  decide

end Entity

end TraceMining
