import Mathlib.Data.List.Basic
import TraceMining.Proofs.Distinct
import TraceMining.Proofs.Model.Screen

/-
  This file shows what is on each screen that follows from
  patterns.  A screen is told from the patterns of its group
  alone, which are those that visit a path with its base: the
  first of them decides its kind, the last one that resolves
  to an entity decides the entity, and each part is there once
  and shows what all of the group bring, whether they come
  before the pattern that adds the part or after it.

  Key definitions include:
    * `Pattern.place?`
    * `Screen.group`
    * `ComponentKind.CalledBy`
    * `ComponentKind.Precedes`
    * `Entity.AnswersTo`
    * `Pattern.ResolvesTo`
    * `ScreenDraft.ofGroup`
    * `Screen.partProps`
    * `Screen.Describes`

  Key theorems include:
    * `Screen.mem_group`
    * `ComponentKind.any_words_iff`
    * `ComponentKind.pairwise_ofTypes`
    * `ScreenDraft.findEntity?_eq_some_iff`
    * `ScreenDraft.findSome?_linked?_eq_some_iff`
    * `ScreenDraft.foldl_absorb_opened`
    * `Screen.describes_finish`
    * `Screen.derive_spec`
-/

------------------------------------------------------------
-- Groups
------------------------------------------------------------

namespace TraceMining

/- The base of the path that a pattern visits, if it does. -/
def Pattern.place?
    (p : Pattern) : Option String :=
  (p.name? "path").map Naming.basePath

namespace Screen

/- The patterns that visit a path with some base, in order. -/
def group
    (ps : List Pattern)
    (k : String) : List Pattern :=
  ps.filter fun p => p.place? == some k

/- They are those that have a path with that base. -/
theorem mem_group
    {ps : List Pattern}
    {k : String}
    {p : Pattern} :
    p ∈ group ps k ↔
      p ∈ ps ∧
        ∃ path,
          p.metadata.getD "path" = .text path ∧
            path ≠ "" ∧ Naming.basePath path = k := by
  rw [group, List.mem_filter, beq_iff_eq, Pattern.place?,
    Option.map_eq_some_iff]
  simp only [Pattern.name?, Value.name?_eq_some_iff, and_assoc]

/- Visits are to the places of their patterns. -/
theorem map_base_visits
    (ps : List Pattern) :
    (visits ps).map base = ps.filterMap Pattern.place? := by
  rw [visits, List.map_filterMap]
  congr 1
  funext p
  rw [Pattern.place?, Option.map_map]
  rfl

/- So the visits to a base are by the patterns of its group. -/
theorem map_fst_filter_visits
    (ps : List Pattern)
    (k : String) :
    ((visits ps).filter fun v => base v == k).map Prod.fst =
      group ps k :=
  Table.map_fst_filter_keyed _ Naming.basePath ps k

end Screen

end TraceMining

------------------------------------------------------------
-- Parts
------------------------------------------------------------

namespace TraceMining

namespace ComponentKind

/- What a pattern type has in it if it calls for a part. -/
def CalledBy :
    ComponentKind → String → Prop
  | .dataTable, type => Text.Contains type "list"
  | .form, type =>
      Text.Contains type "create" ∨ Text.Contains type "update"
  | .filterPanel, type => Text.Contains type "filter"
  | .searchInput, type => Text.Contains type "search"

/- The words of a part are those that call for it. -/
theorem any_words_iff
    {k : ComponentKind}
    {type : String} :
    k.words.any (Text.mentions type) = true ↔
      k.CalledBy type := by
  cases k
  all_goals simp [words, CalledBy, Text.mentions_iff]

instance
    (k : ComponentKind)
    (type : String) :
    Decidable (k.CalledBy type) :=
  decidable_of_iff _ any_words_iff

/- The place of the first of some types that does. -/
def firstIn
    (types : List String)
    (k : ComponentKind) : Nat :=
  types.findIdx fun type => decide (k.CalledBy type)

/- The place of a part among those that one type adds. -/
def rank :
    ComponentKind → Nat
  | .dataTable => 0
  | .form => 1
  | .filterPanel => 2
  | .searchInput => 3

/-
  A part comes before another if it is called for earlier, or
  by the same type with a lower rank.
-/
def Precedes
    (types : List String)
    (k : ComponentKind)
    (l : ComponentKind) : Prop :=
  k.firstIn types < l.firstIn types ∨
    k.firstIn types = l.firstIn types ∧ k.rank < l.rank

/- The parts that some types call for, in turn. -/
def ofTypes
    (types : List String) : List ComponentKind :=
  (types.flatMap ofType).eraseDups

/- A type adds the parts that it calls for. -/
theorem mem_ofType
    {k : ComponentKind}
    {type : String} :
    k ∈ ofType type ↔ k.CalledBy type := by
  have hAll : k ∈ all := by
    cases k <;> decide
  rw [ofType, List.mem_filter, and_iff_right hAll]
  exact any_words_iff

/- It adds them by their rank. -/
theorem pairwise_ofType
    (type : String) :
    (ofType type).Pairwise fun k l => k.rank < l.rank := by
  have hAll : all.Pairwise fun k l => k.rank < l.rank := by
    decide
  exact hAll.filter _

/- So it adds none of them twice. -/
theorem nodup_ofType
    (type : String) :
    (ofType type).Nodup := by
  apply (pairwise_ofType type).imp
  intro k l hRank hSame
  rw [hSame] at hRank
  exact Nat.lt_irrefl _ hRank

/- The first type adds its parts, and others add the rest. -/
theorem ofTypes_cons
    (type : String)
    (types : List String) :
    ofTypes (type :: types) =
      ofType type ++
        (ofTypes types).filter fun k =>
          !(ofType type).contains k := by
  rw [ofTypes, List.flatMap_cons, Distinct.eraseDups_append_eq,
    Distinct.eraseDups_eq_self (nodup_ofType type)]
  rfl

/- Each part is added just if some type calls for it. -/
theorem mem_ofTypes
    {k : ComponentKind}
    {types : List String} :
    k ∈ ofTypes types ↔
      ∃ type ∈ types, k.CalledBy type := by
  rw [ofTypes, List.mem_eraseDups, List.mem_flatMap]
  simp only [mem_ofType]

/- A part that the first type calls for comes first. -/
theorem firstIn_cons_of_calledBy
    {k : ComponentKind}
    {type : String}
    (hCalled : k.CalledBy type)
    (types : List String) :
    k.firstIn (type :: types) = 0 := by
  simp [firstIn, List.findIdx_cons, hCalled]

/- Any other part comes one place later. -/
theorem firstIn_cons_of_not_calledBy
    {k : ComponentKind}
    {type : String}
    (hOther : ¬ k.CalledBy type)
    (types : List String) :
    k.firstIn (type :: types) = k.firstIn types + 1 := by
  simp [firstIn, List.findIdx_cons, hOther]

/- Parts are in the order in which they are called for. -/
theorem pairwise_ofTypes
    (types : List String) :
    (ofTypes types).Pairwise (Precedes types) := by
  induction types with
  | nil => exact List.Pairwise.nil
  | cons type types ih =>
      have hHere :
          ∀ {k}, k ∈ ofType type →
            k.firstIn (type :: types) = 0 := by
        intro k hMember
        exact firstIn_cons_of_calledBy
          (mem_ofType.mp hMember) types
      have hLater :
          ∀ {k},
            k ∈ (ofTypes types).filter
                (fun k => !(ofType type).contains k) →
              k.firstIn (type :: types) =
                k.firstIn types + 1 := by
        intro k hMember
        have hNew := (List.mem_filter.mp hMember).2
        apply firstIn_cons_of_not_calledBy
        rw [← mem_ofType]
        simpa using hNew
      rw [ofTypes_cons, List.pairwise_append]
      refine ⟨?_, ?_, ?_⟩
      · apply (pairwise_ofType type).imp_of_mem
        intro k l hFirst hSecond hRank
        refine Or.inr ⟨?_, hRank⟩
        rw [hHere hFirst, hHere hSecond]
      · apply (ih.filter _).imp_of_mem
        intro k l hFirst hSecond hBefore
        unfold Precedes at hBefore ⊢
        rw [hLater hFirst, hLater hSecond]
        omega
      · intro k hFirst l hSecond
        left
        rw [hHere hFirst, hLater hSecond]
        exact Nat.succ_pos _

end ComponentKind

end TraceMining

------------------------------------------------------------
-- Entities
------------------------------------------------------------

namespace TraceMining

/-
  An entity answers to a text if it is the first one with that
  name, or that label.
-/
def Entity.AnswersTo
    (entities : List Entity)
    (e : Entity)
    (label : String) : Prop :=
  ∃ before after,
    entities = before ++ e :: after ∧
      (e.name = label ∨ e.displayName = label) ∧
      ∀ f ∈ before, f.name ≠ label ∧ f.displayName ≠ label

/- A pattern resolves to what answers to the text it says. -/
def Pattern.ResolvesTo
    (entities : List Entity)
    (p : Pattern)
    (e : Entity) : Prop :=
  ∃ label,
    p.metadata.getD "entityName" = .text label ∧
      label ≠ "" ∧ e.AnswersTo entities label

namespace ScreenDraft

variable {entities : List Entity}

/- What is found is what answers. -/
theorem findEntity?_eq_some_iff
    {label : String}
    {e : Entity} :
    findEntity? entities label = some e ↔
      e.AnswersTo entities label := by
  rw [findEntity?, List.find?_eq_some_iff_append]
  constructor
  · rintro ⟨hHere, before, after, hAll, hNone⟩
    refine ⟨before, after, hAll, by simpa using hHere, ?_⟩
    intro f hMember
    simpa using hNone f hMember
  · rintro ⟨before, after, hAll, hHere, hNone⟩
    refine ⟨by simpa using hHere, before, after, hAll, ?_⟩
    intro f hMember
    simpa using hNone f hMember

/- A draft is linked to the entity that a pattern resolves to. -/
theorem linked?_eq_some_iff
    {p : Pattern}
    {name : String} :
    linked? entities p = some name ↔
      ∃ e, p.ResolvesTo entities e ∧ e.name = name := by
  simp only [linked?, Option.map_eq_some_iff,
    Option.bind_eq_some_iff, Pattern.name?,
    Value.name?_eq_some_iff, findEntity?_eq_some_iff,
    Pattern.ResolvesTo, and_assoc]

/- It is linked to nothing if there is none. -/
theorem linked?_eq_none_iff
    {p : Pattern} :
    linked? entities p = none ↔
      ¬ ∃ e, p.ResolvesTo entities e := by
  rw [Option.eq_none_iff_forall_ne_some]
  constructor
  · intro hNone hResolved
    rcases hResolved with ⟨e, hResolved⟩
    exact hNone e.name
      (linked?_eq_some_iff.mpr ⟨e, hResolved, rfl⟩)
  · intro hNone name hLinked
    rcases linked?_eq_some_iff.mp hLinked with
      ⟨e, hResolved, _⟩
    exact hNone ⟨e, hResolved⟩

/- The last pattern that resolves to an entity decides it. -/
theorem findSome?_linked?_eq_some_iff
    {ps : List Pattern}
    {name : String} :
    ps.reverse.findSome? (linked? entities) = some name ↔
      ∃ before p after e,
        ps = before ++ p :: after ∧
          p.ResolvesTo entities e ∧ e.name = name ∧
          ∀ q ∈ after, ¬ ∃ e, q.ResolvesTo entities e := by
  rw [List.findSome?_eq_some_iff]
  constructor
  · intro hFound
    rcases hFound with ⟨after, p, before, hAll, hHere, hNone⟩
    rcases linked?_eq_some_iff.mp hHere with
      ⟨e, hResolved, hName⟩
    refine
      ⟨before.reverse, p, after.reverse, e, ?_, hResolved,
        hName, ?_⟩
    · rw [← List.reverse_reverse ps, hAll]
      simp
    · intro q hMember
      rw [← linked?_eq_none_iff]
      exact hNone q (List.mem_reverse.mp hMember)
  · intro hFound
    rcases hFound with
      ⟨before, p, after, e, hAll, hResolved, hName, hNone⟩
    refine ⟨after.reverse, p, before.reverse, ?_, ?_, ?_⟩
    · rw [hAll]
      simp
    · exact linked?_eq_some_iff.mpr ⟨e, hResolved, hName⟩
    · intro q hMember
      rw [linked?_eq_none_iff]
      exact hNone q (List.mem_reverse.mp hMember)

end ScreenDraft

end TraceMining

------------------------------------------------------------
-- Drafts
------------------------------------------------------------

namespace TraceMining

namespace ScreenDraft

/- What a draft comes to as it absorbs patterns in order. -/
theorem foldl_absorb
    (entities : List Entity)
    (ps : List Pattern)
    (s : ScreenDraft) :
    ps.foldl (fun s p => s.absorb entities p) s =
      { s with
        actions :=
          (ps.map Pattern.type).foldl Distinct.add s.actions
        entity :=
          (ps.reverse.findSome? (linked? entities)).or s.entity
        fields :=
          (ps.flatMap Pattern.fieldNames).foldl Distinct.add
            s.fields
        sortable :=
          s.sortable ||
            ps.any fun p => Text.mentions p.type "sort"
        filterable :=
          s.filterable ||
            ps.any fun p => Text.mentions p.type "filter"
        components :=
          ((ps.map Pattern.type).flatMap
            ComponentKind.ofType).foldl Distinct.add
              s.components } := by
  induction ps generalizing s with
  | nil => simp
  | cons p ps ih =>
      rw [List.foldl_cons, ih]
      simp [absorb, List.findSome?_append, List.foldl_append,
        Bool.or_assoc, Option.or_assoc]

/- The draft of all patterns of a group. -/
def ofGroup
    (entities : List Entity)
    (k : String)
    (kind : ScreenKind)
    (ps : List Pattern) : ScreenDraft :=
  { name := Naming.pathLabel k
    path := k
    kind := kind
    actions := (ps.map Pattern.type).eraseDups
    entity := ps.reverse.findSome? (linked? entities)
    components := ComponentKind.ofTypes (ps.map Pattern.type)
    fields := (ps.flatMap Pattern.fieldNames).eraseDups
    sortable := ps.any fun p => Text.mentions p.type "sort"
    filterable :=
      ps.any fun p => Text.mentions p.type "filter" }

/- A draft that is opened comes to that in the end. -/
theorem foldl_absorb_opened
    (entities : List Entity)
    (k : String)
    (type : String)
    (path : String)
    (ps : List Pattern) :
    ps.foldl (fun s p => s.absorb entities p)
        (opened k type path) =
      ofGroup entities k (ScreenKind.infer type path) ps := by
  rw [foldl_absorb]
  simp only [opened, Distinct.foldl_add_nil, Option.or_none,
    Bool.false_or]
  rfl

/- A finished screen has the parts of its draft. -/
theorem kinds_finish
    (s : ScreenDraft) :
    s.finish.components.map Component.kind = s.components := by
  rw [finish, List.map_map]
  exact List.map_id s.components

/- Each part is set as in the draft. -/
theorem props_of_mem_finish
    {s : ScreenDraft}
    {c : Component}
    (hMember : c ∈ s.finish.components) :
    c.props = s.props c.kind := by
  rcases List.mem_map.mp hMember with ⟨k, _, rfl⟩
  rfl

end ScreenDraft

end TraceMining

------------------------------------------------------------
-- Screens
------------------------------------------------------------

namespace TraceMining

namespace Screen

variable {entities : List Entity}
variable {ps : List Pattern}

/- Some pattern mentions what some pattern has in its type. -/
theorem any_mentions_eq
    (ps : List Pattern)
    (word : String) :
    (ps.any fun p => Text.mentions p.type word) =
      decide (∃ p ∈ ps, Text.Contains p.type word) := by
  rw [Bool.eq_iff_iff, List.any_eq_true, decide_eq_true_iff]
  simp only [Text.mentions_iff]

/- The settings of a part on the screen of a group. -/
def partProps
    (ps : List Pattern) :
    ComponentKind → Fields
  | .dataTable =>
      [ ("sortable",
          .bool
            (decide (∃ p ∈ ps, Text.Contains p.type "sort")))
      , ("filterable",
          .bool
            (decide
              (∃ p ∈ ps, Text.Contains p.type "filter"))) ]
  | .form =>
      [ ("fields",
          .ofTexts (ps.flatMap Pattern.fieldNames).eraseDups) ]
  | .filterPanel => []
  | .searchInput => []

/- What a screen is, told from the patterns of its group. -/
structure Describes
    (entities : List Entity)
    (ps : List Pattern)
    (s : Screen) : Prop where
  name : s.name = Naming.pathLabel s.path
  kind :
    ∃ p path,
      ps.head? = some p ∧
        p.metadata.getD "path" = .text path ∧ path ≠ "" ∧
          s.kind = ScreenKind.infer p.type path
  actions : s.actions = (ps.map Pattern.type).eraseDups
  entity :
    ∀ name,
      s.entity = some name ↔
        ∃ before p after e,
          ps = before ++ p :: after ∧
            p.ResolvesTo entities e ∧ e.name = name ∧
            ∀ q ∈ after, ¬ ∃ e, q.ResolvesTo entities e
  distinct : (s.components.map Component.kind).Nodup
  shown :
    ∀ k,
      k ∈ s.components.map Component.kind ↔
        ∃ p ∈ ps, k.CalledBy p.type
  order :
    (s.components.map Component.kind).Pairwise
      (ComponentKind.Precedes (ps.map Pattern.type))
  props : ∀ c ∈ s.components, c.props = partProps ps c.kind

/- The screen of a group is what the group describes. -/
theorem describes_finish
    {p : Pattern}
    {path : String}
    (hHead : ps.head? = some p)
    (hPath : p.metadata.getD "path" = .text path)
    (hText : path ≠ "")
    (k : String) :
    Describes entities ps
      (ScreenDraft.ofGroup entities k
        (ScreenKind.infer p.type path) ps).finish where
  name := rfl
  kind := ⟨p, path, hHead, hPath, hText, rfl⟩
  actions := rfl
  entity := fun _ =>
    ScreenDraft.findSome?_linked?_eq_some_iff
  distinct := by
    rw [ScreenDraft.kinds_finish]
    exact Distinct.nodup_eraseDups _
  shown := by
    intro l
    rw [ScreenDraft.kinds_finish, ScreenDraft.ofGroup,
      ComponentKind.mem_ofTypes]
    simp only [List.mem_map, exists_exists_and_eq_and]
  order := by
    rw [ScreenDraft.kinds_finish]
    exact ComponentKind.pairwise_ofTypes _
  props := by
    intro c hMember
    rw [ScreenDraft.props_of_mem_finish hMember]
    cases c.kind with
    | dataTable =>
        simp only [ScreenDraft.props, ScreenDraft.ofGroup,
          partProps, any_mentions_eq]
    | form => rfl
    | filterPanel => rfl
    | searchInput => rfl

/- A draft is what its group comes to. -/
theorem exists_ofGroup_of_mem
    {d : ScreenDraft}
    (hDraft : d ∈ (drafts entities (visits ps)).values) :
    ∃ p path,
      (group ps d.path).head? = some p ∧
        p.metadata.getD "path" = .text path ∧ path ≠ "" ∧
          d =
            ScreenDraft.ofGroup entities d.path
              (ScreenKind.infer p.type path)
              (group ps d.path) := by
  have hAmount :=
    (isNamed_drafts entities (visits ps)).get?_of_mem hDraft
  rw [drafts, Table.get?_gathered] at hAmount
  rcases Option.map_eq_some_iff.mp hAmount with
    ⟨v, hHead, hTotal⟩
  rcases v with ⟨p, path⟩
  rcases List.mem_filter.mp (List.mem_of_head? hHead) with
    ⟨hVisit, hBase⟩
  rcases mem_visits.mp hVisit with ⟨_, hPath, hText⟩
  have hSame : base (p, path) = d.path := beq_iff_eq.mp hBase
  simp only [hSame] at hTotal
  refine ⟨p, path, ?_, hPath, hText, ?_⟩
  · rw [← map_fst_filter_visits, List.head?_map, hHead]
    rfl
  · rw [← ScreenDraft.foldl_absorb_opened,
      ← map_fst_filter_visits, List.foldl_map]
    exact hTotal.symm

/-
  The screens of patterns are one for each group, in the order
  of the first patterns of the groups, and each is told from
  the patterns of its group.
-/
theorem derive_spec
    (entities : List Entity)
    (ps : List Pattern) :
    (derive entities ps).map path =
        (ps.filterMap Pattern.place?).eraseDups ∧
      ∀ s ∈ derive entities ps,
        Describes entities (group ps s.path) s := by
  constructor
  · rw [paths_derive, map_base_visits]
  · intro s hScreen
    rw [derive, foldl_fold_eq] at hScreen
    rcases List.mem_map.mp hScreen with ⟨d, hDraft, rfl⟩
    rcases exists_ofGroup_of_mem hDraft with
      ⟨p, path, hHead, hPath, hText, hGroup⟩
    have hPathHere : d.finish.path = d.path := rfl
    rw [hPathHere, hGroup]
    exact describes_finish hHead hPath hText d.path

/-
  Orders that are searched, filtered and then changed, with a
  list of customers and a pattern without a path in between.
-/
def orderVisits : List Pattern :=
  [ .saying "search_sort" [("path", .text "/orders/7")]
  , .saying "list_view" [("path", .text "/customers/all")]
  , .saying "list_filter" [("path", .text "/orders/new")]
  , .saying "crud_read" [("entityName", .text "order")]
  , .saying "crud_update"
      [ ("path", .text "/orders/edit")
      , ("entityName", .text "order")
      , ("fields",
          .list
            [ .text "total", .int 3, .text "note", .text ""
            , .text "total" ]) ] ]

/-
  Their screens.  The table of orders can be sorted for what
  came before it, and the form has each field once.
-/
theorem derive_spec_orderVisits :
    (derive [.named "order"] orderVisits).map path =
        ["/orders", "/customers"] ∧
      (∀ s ∈ derive [.named "order"] orderVisits,
        Describes [.named "order"]
          (group orderVisits s.path) s) ∧
      (derive [.named "order"] orderVisits).map toValue =
        [ .object
            [ ("name", .text "Orders")
            , ("path", .text "/orders")
            , ("type", .text "detail")
            , ("components",
                .list
                  [ .object
                      [ ("type", .text "SearchInput")
                      , ("props", .object [])
                      , ("children", .null) ]
                  , .object
                      [ ("type", .text "DataTable")
                      , ("props",
                          .object
                            [ ("sortable", .bool true)
                            , ("filterable", .bool true) ])
                      , ("children", .null) ]
                  , .object
                      [ ("type", .text "FilterPanel")
                      , ("props", .object [])
                      , ("children", .null) ]
                  , .object
                      [ ("type", .text "Form")
                      , ("props",
                          .object
                            [ ("fields",
                                .ofTexts ["total", "note"]) ])
                      , ("children", .null) ] ])
            , ("actions",
                .ofTexts
                  [ "search_sort", "list_filter"
                  , "crud_update" ])
            , ("entity", .text "order") ]
        , .object
            [ ("name", .text "Customers")
            , ("path", .text "/customers")
            , ("type", .text "list")
            , ("components",
                .list
                  [ .object
                      [ ("type", .text "DataTable")
                      , ("props",
                          .object
                            [ ("sortable", .bool false)
                            , ("filterable", .bool false) ])
                      , ("children", .null) ] ])
            , ("actions", .ofTexts ["list_view"])
            , ("entity", .null) ] ] := by
  have hSpec := derive_spec [.named "order"] orderVisits
  refine ⟨hSpec.1.trans ?_, hSpec.2, ?_⟩
  · decide
  · rfl

end Screen

end TraceMining
