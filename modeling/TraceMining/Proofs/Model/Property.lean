import TraceMining.Model.Property
import TraceMining.Proofs.Distinct

/-
  This file shows what the normal form of a property list is.
  The identity stands in front and the time stamps at the end,
  each required and with the last default that it was given;
  between them is the first property of every other name, in
  the order in which the names first came.  The lists of this
  form are just those that the normal form leaves as they are.

  Key definitions include:
    * `Property.around`
    * `Property.IsMandatory`
    * `Property.IsNormal`
    * `Property.lastDefault`

  Key theorems include:
    * `Property.names_normalize`
    * `Property.standard_default`
    * `Property.find?_normalize`
    * `Property.normalize_eq_self_iff`
    * `Property.normalize_spec`
-/

------------------------------------------------------------
-- Names
------------------------------------------------------------

namespace TraceMining

namespace Property

/- The standard names around others, each of which is once. -/
def around
    (ss : List String) : List String :=
  "id" ::
    ((ss.filter fun s =>
        !standardNames.contains s).eraseDups ++
      ["createdAt", "updatedAt"])

/- Among them are the standard names and all others. -/
theorem mem_around
    {ss : List String}
    {s : String} :
    s ∈ around ss ↔ s ∈ standardNames ∨ s ∈ ss := by
  simp only [around, standardNames, List.mem_cons,
    List.mem_append, List.mem_eraseDups, List.mem_filter,
    List.not_mem_nil, or_false, Bool.not_eq_true',
    List.contains_eq_mem, decide_eq_false_iff_not]
  tauto

/- No name is there twice. -/
theorem nodup_around
    (ss : List String) :
    (around ss).Nodup := by
  have hOther :
      ∀ s ∈ standardNames,
        s ∉ (ss.filter fun s =>
          !standardNames.contains s).eraseDups := by
    intro s hStandard hShown
    rw [List.mem_eraseDups, List.mem_filter] at hShown
    simp [hStandard] at hShown
  have hFirst := hOther "id" (by decide)
  have hCreated := hOther "createdAt" (by decide)
  have hUpdated := hOther "updatedAt" (by decide)
  rw [around, List.nodup_cons, List.nodup_append,
    List.mem_append, not_or]
  refine
    ⟨⟨hFirst, by decide⟩, Distinct.nodup_eraseDups _,
      by decide, ?_⟩
  intro s hShown t hStamp hSame
  rw [hSame] at hShown
  rcases List.mem_pair.mp hStamp with rfl | rfl
  · exact hCreated hShown
  · exact hUpdated hShown

/- The other names of a list, each once. -/
theorem names_others
    (given : List Property) :
    (others given).map name =
      ((given.map name).filter fun s =>
        !standardNames.contains s).eraseDups := by
  rw [others, Distinct.map_firsts, List.filter_map]
  rfl

/- In normal form, the standard names are around them. -/
theorem names_normalize
    (given : List Property) :
    (normalize given).map name = around (given.map name) := by
  rw [normalize, List.map_cons, List.map_append, names_others]
  rfl

/- They stay in the order in which they first came. -/
theorem pairwise_others
    (given : List Property) :
    (others given).Pairwise fun p q =>
      (given.map name).idxOf p.name <
        (given.map name).idxOf q.name := by
  have hOrder :=
    (Distinct.pairwise_idxOf_eraseDups (given.map name)).filter
      fun s => !standardNames.contains s
  rw [← Distinct.eraseDups_filter, ← names_others,
    List.pairwise_map] at hOrder
  exact hOrder

/- The first property of every other name stays as it is. -/
theorem find?_normalize
    (given : List Property)
    {s : String}
    (hOther : s ∉ standardNames) :
    (normalize given).find? (fun p => p.name == s) =
      given.find? fun p => p.name == s := by
  have hApart : ∀ t ∈ standardNames, (t == s) = false := by
    intro t hStandard
    rw [beq_eq_false_iff_ne]
    rintro rfl
    exact hOther hStandard
  have hFirst := hApart "id" (by decide)
  have hCreated := hApart "createdAt" (by decide)
  have hUpdated := hApart "updatedAt" (by decide)
  have hKept :
      (others given).find? (fun p => p.name == s) =
        given.find? fun p => p.name == s := by
    rw [others, Distinct.find?_firsts, List.find?_filter]
    congr 1
    funext p
    by_cases hHere : p.name = s
    · simp [hHere, hOther]
    · simp [hHere]
  simp [normalize, standard, hFirst, hCreated, hUpdated,
    List.find?_append, hKept]

end Property

end TraceMining

------------------------------------------------------------
-- Normal Lists
------------------------------------------------------------

namespace TraceMining

namespace Property

/- A property that every entity has, with any default. -/
structure IsMandatory
    (name type : String)
    (p : Property) : Prop where
  name : p.name = name
  type : p.type = type
  required : p.required = true

/-
  The identity stands in front, the time stamps at the end,
  and no name is there twice.
-/
structure IsNormal
    (ps : List Property) : Prop where
  ends :
    ∃ ident middle created updated,
      ps = ident :: (middle ++ [created, updated]) ∧
        IsMandatory "id" "string" ident ∧
        IsMandatory "createdAt" "datetime" created ∧
        IsMandatory "updatedAt" "datetime" updated
  distinct : (ps.map name).Nodup

/- The default that the last property of a name has. -/
def lastDefault
    (given : List Property)
    (name : String) : Value :=
  ((given.filter fun p => p.name == name).getLast?.map
    default).getD .null

/- A standard property takes it over. -/
theorem standard_default
    (given : List Property)
    (name type : String) :
    (standard given name type).default =
      lastDefault given name := by
  rw [standard, lastDefault, List.getLast?_eq_head?_reverse,
    ← List.filter_reverse, List.head?_filter]

/- A mandatory property whose name is there once stays. -/
theorem standard_eq_of_mem
    {ps : List Property}
    (hDistinct : (ps.map Property.name).Nodup)
    {p : Property}
    (hMember : p ∈ ps)
    {name type : String}
    (hMandatory : IsMandatory name type p) :
    standard ps name type = p := by
  have hLast :
      (ps.reverse.find? fun q => q.name == name) = some p := by
    cases hFind : ps.reverse.find? fun q => q.name == name with
    | none =>
        rw [List.find?_eq_none] at hFind
        exact absurd (beq_iff_eq.mpr hMandatory.name)
          (hFind p (List.mem_reverse.mpr hMember))
    | some q =>
        have hFound : q ∈ ps :=
          List.mem_reverse.mp (List.mem_of_find?_eq_some hFind)
        have hName : q.name = name := by
          simpa using List.find?_some hFind
        have hSame : q = p :=
          List.inj_on_of_nodup_map hDistinct hFound hMember
            (hName.trans hMandatory.name.symm)
        rw [hSame]
  rcases p with ⟨pName, pType, pRequired, pDefault⟩
  rcases hMandatory with ⟨rfl, rfl, rfl⟩
  simp [standard, hLast]

/- What stands between the ends of a normal list. -/
theorem others_eq_of_ends
    {ident created updated : Property}
    {middle : List Property}
    (hIdent : IsMandatory "id" "string" ident)
    (hCreated : IsMandatory "createdAt" "datetime" created)
    (hUpdated : IsMandatory "updatedAt" "datetime" updated)
    (hDistinct :
      ((ident :: (middle ++ [created, updated])).map
        name).Nodup) :
    others (ident :: (middle ++ [created, updated])) =
      middle := by
  simp only [List.map_cons, List.map_append, List.map_nil,
    hIdent.name, hCreated.name, hUpdated.name,
    List.nodup_cons, List.nodup_append, List.mem_append,
    not_or] at hDistinct
  rcases hDistinct with ⟨⟨hNoId, _⟩, hMiddle, _, hNoStamp⟩
  have hOther :
      ∀ p ∈ middle,
        (!standardNames.contains p.name) = true := by
    intro p hMember
    -- A standard name is at one of the ends already.
    have hName := List.mem_map_of_mem (f := name) hMember
    have hId : p.name ≠ "id" := fun hSame =>
      hNoId (hSame ▸ hName)
    have hStamp := hNoStamp p.name hName
    simp only [List.mem_cons, List.not_mem_nil, or_false,
      forall_eq_or_imp, forall_eq] at hStamp
    simp [standardNames, hId, hStamp]
  have hKept :
      ((ident :: (middle ++ [created, updated])).filter
        fun p => !standardNames.contains p.name) = middle := by
    have hFront :
        ¬ (!standardNames.contains ident.name) = true := by
      simp [hIdent.name, standardNames]
    rw [List.filter_cons, if_neg hFront, List.filter_append,
      List.filter_eq_self.mpr hOther]
    simp [hCreated.name, hUpdated.name, standardNames]
  rw [others, hKept, Distinct.firsts_eq_self hMiddle]

/- So a normal list is its own normal form. -/
theorem IsNormal.normalize_eq_self
    {ps : List Property}
    (hNormal : IsNormal ps) :
    normalize ps = ps := by
  rcases hNormal with
    ⟨⟨ident, middle, created, updated, rfl, hIdent, hCreated,
      hUpdated⟩, hDistinct⟩
  rw [normalize,
    others_eq_of_ends hIdent hCreated hUpdated hDistinct,
    standard_eq_of_mem hDistinct (by simp) hIdent,
    standard_eq_of_mem hDistinct (by simp) hCreated,
    standard_eq_of_mem hDistinct (by simp) hUpdated]

/- The normal form of every list is normal. -/
theorem isNormal_normalize
    (given : List Property) :
    IsNormal (normalize given) where
  ends :=
    ⟨_, _, _, _, rfl, ⟨rfl, rfl, rfl⟩, ⟨rfl, rfl, rfl⟩,
      ⟨rfl, rfl, rfl⟩⟩
  distinct := by
    rw [names_normalize]
    exact nodup_around _

/- Just the normal lists are left as they are. -/
theorem normalize_eq_self_iff
    {ps : List Property} :
    normalize ps = ps ↔ IsNormal ps := by
  constructor
  · intro hSame
    rw [← hSame]
    exact isNormal_normalize ps
  · exact IsNormal.normalize_eq_self

end Property

end TraceMining

------------------------------------------------------------
-- Normal Form
------------------------------------------------------------

namespace TraceMining

namespace Property

/-
  The normal form starts with the identity and ends with the
  time stamps, which are required, of their types, and have
  the last default that was given under their names.  It has
  these names and those given, each once; of every other name
  it keeps the first property, in the order in which the names
  first came.  To bring it into normal form once more changes
  nothing.
-/
theorem normalize_spec
    (given : List Property) :
    (∃ ident middle created updated,
        normalize given =
            ident :: (middle ++ [created, updated]) ∧
          IsMandatory "id" "string" ident ∧
          IsMandatory "createdAt" "datetime" created ∧
          IsMandatory "updatedAt" "datetime" updated ∧
          (∀ p ∈ [ident, created, updated],
            p.default = lastDefault given p.name) ∧
          middle.Pairwise fun p q =>
            (given.map name).idxOf p.name <
              (given.map name).idxOf q.name) ∧
      ((normalize given).map name).Nodup ∧
      (∀ s,
        s ∈ (normalize given).map name ↔
          s ∈ standardNames ∨ s ∈ given.map name) ∧
      (∀ s ∉ standardNames,
        (normalize given).find? (fun p => p.name == s) =
          given.find? fun p => p.name == s) ∧
      normalize (normalize given) = normalize given := by
  have hNormal := isNormal_normalize given
  refine
    ⟨⟨_, others given, _, _, rfl, ⟨rfl, rfl, rfl⟩,
        ⟨rfl, rfl, rfl⟩, ⟨rfl, rfl, rfl⟩, ?_,
        pairwise_others given⟩,
      hNormal.distinct, ?_, ?_, hNormal.normalize_eq_self⟩
  · simp only [List.forall_mem_cons, standard_default]
    exact ⟨rfl, rfl, rfl, nofun⟩
  · intro s
    rw [names_normalize]
    exact mem_around
  · intro s hOther
    exact find?_normalize given hOther

end Property

end TraceMining
