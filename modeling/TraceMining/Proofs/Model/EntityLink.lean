import TraceMining.Proofs.Model.EntityName
import TraceMining.Proofs.Model.ScreenGroup

/-
  This file shows which entities of some patterns the screens
  of the same patterns are linked to.  An entity answers to a
  label that is its name or its own label, the first one that
  does is found, and the last label of the group of a screen
  that is found decides.  So the screen is linked to the
  entity that was made for the last of all labels just if what
  is found has the same name, as it always does if that label
  is plain.

  Key definitions include:
    * `Entity.made?`
    * `Entity.answering?`
    * `Screen.labels`
    * `Screen.answered?`

  Key theorems include:
    * `Entity.made?_of_mem`
    * `Entity.findEntity?_derive`
    * `Screen.entity_of_derive`
    * `Entity.camel_of_answering?_plain`
    * `Screen.entity_eq_made_iff`
-/

------------------------------------------------------------
-- Making
------------------------------------------------------------

namespace TraceMining

namespace Entity

/- The entity that patterns add up to under a name. -/
def made?
    (ps : List Pattern)
    (k : String) : Option Entity :=
  ((ps.foldl fold Table.empty).get? k).map settled

/- It is that of the group, if there is one. -/
theorem made?_of_mem
    {ps : List Pattern}
    {k : String}
    (hSubject : k ∈ subjects ps) :
    made? ps k = some (ofGroup k (group ps k)) := by
  have hEntry :
      (k,
          (group ps k).foldl (fun e p => e.absorb p)
            (named k)) ∈
        (ps.foldl fold Table.empty).entries := by
    rw [entries_foldl_fold]
    exact List.mem_map_of_mem hSubject
  have hValue := Entries.get?_of_mem
    (ps.foldl fold Table.empty).nodup hEntry
  rw [made?, Table.get?, hValue, Option.map_some,
    settled_foldl_absorb]

end Entity

end TraceMining

------------------------------------------------------------
-- Answers
------------------------------------------------------------

namespace TraceMining

namespace Entity

/- The entity made for a name has the label as one of its. -/
def answers
    (label : String)
    (k : String) : Bool :=
  Naming.camel k == label || Naming.display k == label

/- The first of some names whose entity answers to a label. -/
def answering?
    (ks : List String)
    (label : String) : Option String :=
  ks.find? (answers label)

variable {ks : List String}
variable {k label : String}

/- What answers to a plain label has it for its name. -/
theorem camel_of_answering?_plain
    (hPlain : Naming.IsPlain label)
    (hFound : answering? ks label = some k) :
    Naming.camel k = label := by
  have hAnswers := List.find?_some hFound
  rw [answers, Bool.or_eq_true, beq_iff_eq, beq_iff_eq]
    at hAnswers
  rcases hAnswers with hName | hLabel
  · exact hName
  · rw [← hLabel] at hPlain ⊢
    have hSame := Naming.eq_of_display_plain hPlain
    rw [hSame] at hPlain ⊢
    exact Naming.camel_of_plain hPlain

/- A plain label that has an entity is answered to. -/
theorem exists_answering?_plain
    (hPlain : Naming.IsPlain label)
    (hMember : label ∈ ks) :
    ∃ k, answering? ks label = some k := by
  rw [← Option.isSome_iff_exists, answering?, List.find?_isSome]
  refine ⟨label, hMember, ?_⟩
  rw [answers, Naming.camel_of_plain hPlain, beq_self_eq_true,
    Bool.true_or]

/- Among the entities of patterns the first one is found. -/
theorem findEntity?_derive
    (ps : List Pattern)
    (label : String) :
    ScreenDraft.findEntity? (derive ps) label =
      (answering? (subjects ps) label).map fun k =>
        ofGroup k (group ps k) := by
  rw [ScreenDraft.findEntity?, derive_eq_map, List.find?_map]
  rfl

end Entity

end TraceMining

------------------------------------------------------------
-- Links
------------------------------------------------------------

namespace TraceMining

namespace Screen

/- The labels of entities in the group of a screen, in order. -/
def labels
    (ps : List Pattern)
    (path : String) : List String :=
  (group ps path).filterMap fun p => p.name? "entityName"

/- What answers to the last of some labels that is found. -/
def answered?
    (ks : List String)
    (labels : List String) : Option String :=
  labels.reverse.findSome? (Entity.answering? ks)

/- The last label goes before the others. -/
theorem answered?_concat
    (ks : List String)
    (labels : List String)
    (label : String) :
    answered? ks (labels ++ [label]) =
      (Entity.answering? ks label).or (answered? ks labels) := by
  rw [answered?, answered?, List.reverse_append,
    List.findSome?_append]
  congr 1
  simp

/- The last pattern decides whose label is found. -/
theorem answered?_labels
    (ks : List String)
    (ps : List Pattern)
    (path : String) :
    answered? ks (labels ps path) =
      (group ps path).reverse.findSome? fun p =>
        (p.name? "entityName").bind (Entity.answering? ks) := by
  rw [answered?, labels, ← List.filterMap_reverse,
    ← List.head?_filterMap, List.filterMap_filterMap,
    List.head?_filterMap]

variable {ps : List Pattern}
variable {s : Screen}

/- Patterns link to what answers to their labels. -/
theorem linked?_derive
    (ps : List Pattern)
    (p : Pattern) :
    ScreenDraft.linked? (Entity.derive ps) p =
      ((p.name? "entityName").bind
        (Entity.answering? (Entity.subjects ps))).map
          Naming.camel := by
  rw [ScreenDraft.linked?]
  cases p.name? "entityName" with
  | none => rfl
  | some label =>
      rw [Option.bind_some, Option.bind_some,
        Entity.findEntity?_derive, Option.map_map]
      rfl

/- A screen is linked to what answers to its labels. -/
theorem entity_of_derive
    (hScreen : s ∈ derive (Entity.derive ps) ps) :
    s.entity =
      (answered? (Entity.subjects ps) (labels ps s.path)).map
        Naming.camel := by
  rw [derive, foldl_fold_eq] at hScreen
  rcases List.mem_map.mp hScreen with ⟨d, hDraft, rfl⟩
  rcases exists_ofGroup_of_mem hDraft with
    ⟨p, path, _, _, _, hGroup⟩
  have hEntity :
      d.finish.entity =
        (group ps d.path).reverse.findSome?
          (ScreenDraft.linked? (Entity.derive ps)) := by
    rw [hGroup]
    rfl
  have hPath : d.finish.path = d.path := rfl
  rw [hEntity, hPath, answered?_labels, List.map_findSome?]
  congr 1
  funext p
  exact linked?_derive ps p

/- Labels in a group are said by patterns, with an entity. -/
theorem mem_subjects_of_mem_labels
    {path label : String}
    (hLabel : label ∈ labels ps path) :
    label ∈ Entity.subjects ps := by
  rcases List.mem_filterMap.mp hLabel with
    ⟨p, hMember, hName⟩
  exact Entity.mem_subjects.mpr
    ⟨p, List.mem_of_mem_filter hMember,
      Pattern.subject?_of_name? hName⟩

/-
  The last label of a group has an entity that was made for
  it.  The screen is linked to the name of that entity just if
  what answers to the label first, or else to an earlier one,
  has the same name; to a plain label nothing else answers.
-/
theorem entity_eq_made_iff
    (hScreen : s ∈ derive (Entity.derive ps) ps)
    {earlier : List String}
    {label : String}
    (hLabels : labels ps s.path = earlier ++ [label]) :
    ∃ e ∈ Entity.derive ps,
      Entity.made? ps label = some e ∧
        (s.entity = some e.name ↔
          ∃ k,
            (Entity.answering? (Entity.subjects ps) label).or
                (answered? (Entity.subjects ps) earlier) =
              some k ∧
              Naming.camel k = Naming.camel label) ∧
        (Naming.IsPlain label → s.entity = some e.name) := by
  have hLast : label ∈ labels ps s.path := by
    simp [hLabels]
  have hSubject := mem_subjects_of_mem_labels hLast
  have hEntity := entity_of_derive hScreen
  rw [hLabels, answered?_concat] at hEntity
  refine
    ⟨Entity.ofGroup label (Entity.group ps label), ?_,
      Entity.made?_of_mem hSubject, ?_, ?_⟩
  · rw [Entity.derive_eq_map]
    exact List.mem_map_of_mem hSubject
  · rw [hEntity, Option.map_eq_some_iff]
    rfl
  · intro hPlain
    rcases Entity.exists_answering?_plain hPlain hSubject with
      ⟨k, hFound⟩
    rw [hEntity, hFound, Option.some_or, Option.map_some,
      Entity.camel_of_answering?_plain hPlain hFound]
    exact congrArg some (Naming.camel_of_plain hPlain).symm

/- The first label has words apart, the last one is found. -/
def menuVisits : List Pattern :=
  [ .saying "list_view"
      [("entityName", .text "order_line"), ("path", .text "/menu")]
  , .saying "crud_read"
      [ ("entityName", .text "Menu Item")
      , ("path", .text "/menu/5") ] ]

/- So their screen is linked to what was made for the last. -/
theorem entity_eq_made_iff_menuVisits :
    ∃ s ∈ derive (Entity.derive menuVisits) menuVisits,
      labels menuVisits s.path = ["order_line", "Menu Item"] ∧
        ∃ e ∈ Entity.derive menuVisits,
          Entity.made? menuVisits "Menu Item" = some e ∧
            s.entity = some e.name := by
  have hPath :
      "/menu" ∈
        (derive (Entity.derive menuVisits) menuVisits).map
          path := by
    rw [paths_derive]
    decide
  rcases List.mem_map.mp hPath with ⟨s, hScreen, hHere⟩
  have hLabels :
      labels menuVisits s.path =
        ["order_line"] ++ ["Menu Item"] := by
    rw [hHere]
    decide
  rcases entity_eq_made_iff hScreen hLabels with
    ⟨e, hEntity, hMade, hLinked, _⟩
  refine ⟨s, hScreen, hLabels, e, hEntity, hMade, ?_⟩
  exact hLinked.mpr ⟨"Menu Item", by decide +kernel, rfl⟩

/- A visit whose label is written with a hump. -/
def humpVisits : List Pattern :=
  [ .saying "crud_read"
      [ ("entityName", .text "menuItem")
      , ("path", .text "/menu/5") ] ]

/-
  Its entity has neither that name nor that label, and its
  screen is not linked.
-/
theorem not_entity_eq_made_humpVisits :
    ¬ ∀ s ∈ derive (Entity.derive humpVisits) humpVisits,
        ∀ earlier label e,
          labels humpVisits s.path = earlier ++ [label] →
            Entity.made? humpVisits label = some e →
              s.entity = some e.name := by
  intro hClaim
  have hPath :
      "/menu" ∈
        (derive (Entity.derive humpVisits) humpVisits).map
          path := by
    rw [paths_derive]
    decide
  rcases List.mem_map.mp hPath with ⟨s, hScreen, hHere⟩
  have hLabels :
      labels humpVisits s.path = [] ++ ["menuItem"] := by
    rw [hHere]
    decide
  have hSubject :
      "menuItem" ∈ Entity.subjects humpVisits := by
    decide
  have hMade := Entity.made?_of_mem hSubject
  have hLinked :=
    hClaim s hScreen [] "menuItem" _ hLabels hMade
  rw [entity_of_derive hScreen, hLabels] at hLinked
  have hNone :
      answered? (Entity.subjects humpVisits)
        ([] ++ ["menuItem"]) = none := by
    decide +kernel
  rw [hNone] at hLinked
  cases hLinked

end Screen

end TraceMining
