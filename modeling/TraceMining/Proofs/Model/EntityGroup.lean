import TraceMining.Model.Entity
import TraceMining.Proofs.Model.Property
import TraceMining.Proofs.Model.Screen

/-
  This file shows which entities follow from patterns and what
  they are.  There is one for each name that a pattern says or
  that the path it visits leads to, in the order in which the
  names first came.  An entity is told from the patterns with
  its name alone: it has the operations that they perform and
  the fields that they show, each once, between the properties
  that every entity has.  Metadata of any other form is passed
  over.

  Key definitions include:
    * `Pattern.subject?`
    * `Pattern.Shows`
    * `Entity.subjects`
    * `Entity.group`
    * `Property.ofFields`
    * `Entity.ofGroup`
    * `Entity.Describes`

  Key theorems include:
    * `Property.normalize_observed`
    * `Entity.foldl_absorb`
    * `Entity.entries_foldl_fold`
    * `Entity.derive_eq_map`
    * `Entity.describes_ofGroup`
    * `Entity.derive_described`
-/

------------------------------------------------------------
-- Groups
------------------------------------------------------------

namespace TraceMining

namespace Pattern

/- The entity of a pattern, unless its name is empty. -/
def subject?
    (p : Pattern) : Option String :=
  p.entity?.filter fun s => !s.isEmpty

/- A pattern shows a field if its list of fields names it. -/
def Shows
    (p : Pattern)
    (field : String) : Prop :=
  ∃ vs,
    p.metadata.getD "fields" = .list vs ∧
      .text field ∈ vs ∧ field ≠ ""

/- A pattern that says the name of an entity is about it. -/
theorem subject?_of_name?
    {p : Pattern}
    {name : String}
    (hName : p.name? "entityName" = some name) :
    p.subject? = some name := by
  have hText : name ≠ "" :=
    (Value.name?_eq_some_iff.mp hName).2
  rw [subject?, entity?, hName]
  exact Option.filter_some_pos (by simpa using hText)

/- The fields that are shown are in the list of fields. -/
theorem mem_fieldNames
    {p : Pattern}
    {field : String} :
    field ∈ p.fieldNames ↔ p.Shows field := by
  unfold fieldNames Shows
  split
  · rename_i vs hFields
    rw [List.mem_filterMap]
    simp only [Value.name?_eq_some_iff]
    constructor
    · rintro ⟨v, hMember, rfl, hText⟩
      exact ⟨vs, hFields, hMember, hText⟩
    · rintro ⟨us, hSame, hMember, hText⟩
      rw [hFields] at hSame
      obtain rfl := Value.list.inj hSame
      exact ⟨.text field, hMember, rfl, hText⟩
  · rename_i hOther
    constructor
    · intro hNone
      exact absurd hNone List.not_mem_nil
    · rintro ⟨vs, hFields, _⟩
      exact absurd hFields (hOther vs)

end Pattern

namespace Entity

/- The names under which patterns are grouped, in order. -/
def subjects
    (ps : List Pattern) : List String :=
  (ps.filterMap Pattern.subject?).eraseDups

/- The patterns that are about an entity, in order. -/
def group
    (ps : List Pattern)
    (k : String) : List Pattern :=
  ps.filter fun p => p.subject? == some k

/- The fold over patterns gathers those with a subject. -/
theorem foldl_fold_eq
    (ps : List Pattern) :
    ps.foldl fold Table.empty =
      Table.gathered Prod.snd (fun v => named v.2)
        (fun v => absorb v.1)
        (Table.keyed Pattern.subject? ps) := by
  rw [Table.gathered, Table.keyed, List.foldl_filterMap]
  congr 1
  funext groups p
  rw [fold, Pattern.subject?]
  cases p.entity? with
  | none => rfl
  | some k =>
      cases hEmpty : k.isEmpty with
      | true => simp [hEmpty, Option.filter]
      | false => simp [hEmpty, Option.filter]

end Entity

end TraceMining

------------------------------------------------------------
-- Properties
------------------------------------------------------------

namespace TraceMining

namespace Property

/- A property that every entity has, without a default. -/
def mandatory
    (name : String)
    (type : String) : Property :=
  { name := name
    type := type
    required := true
    default := .null }

/- A property that was shown, of the type its name implies. -/
def optional
    (name : String) : Property :=
  { name := name
    type := propertyType name
    required := false
    default := .null }

/-
  The properties of an entity of which fields were shown: the
  fields that are not standard, each once, between those that
  every entity has.
-/
def ofFields
    (fields : List String) : List Property :=
  mandatory "id" "string" ::
    ((fields.filter fun f =>
        !(["id", "createdAt", "updatedAt"].contains f)
      ).eraseDups.map optional ++
      [ mandatory "createdAt" "datetime"
      , mandatory "updatedAt" "datetime" ])

/- Fields are observed as such properties. -/
theorem observed_eq_optional :
    Entity.observed = optional :=
  rfl

/- Observed fields pass no default on. -/
theorem standard_observed
    (fields : List String)
    (name : String)
    (type : String) :
    standard (fields.map Entity.observed) name type =
      mandatory name type := by
  rw [standard, mandatory, ← List.map_reverse, List.find?_map]
  cases fields.reverse.find?
      ((fun p : Property => p.name == name) ∘
        Entity.observed) with
  | none => rfl
  | some f => rfl

/- Of observed fields those that are not standard stay. -/
theorem others_observed
    (fields : List String) :
    others (fields.map Entity.observed) =
      (fields.filter fun f =>
        !standardNames.contains f).eraseDups.map
          optional := by
  rw [others, List.filter_map, Distinct.firsts,
    Distinct.firstsBeyond_map, ← Distinct.texts_eq_eraseDups,
    observed_eq_optional]
  rfl

/- So this is their normal form. -/
theorem normalize_observed
    (fields : List String) :
    normalize (fields.map Entity.observed) =
      ofFields fields := by
  rw [normalize, others_observed, standard_observed,
    standard_observed, standard_observed]
  rfl

/- A field that was shown before changes nothing. -/
theorem ofFields_eraseDups
    (fields : List String) :
    ofFields fields.eraseDups = ofFields fields := by
  unfold ofFields
  rw [← Distinct.eraseDups_filter,
    Distinct.eraseDups_eq_self (Distinct.nodup_eraseDups _)]

/- The names are the standard ones around those shown. -/
theorem names_ofFields
    (fields : List String) :
    (ofFields fields).map name = around fields := by
  rw [← normalize_observed, names_normalize, List.map_map]
  exact congrArg around (List.map_id _)

/- Each standard name and each field that was shown is one. -/
theorem mem_names_ofFields
    {fields : List String}
    {s : String} :
    s ∈ (ofFields fields).map name ↔
      s ∈ standardNames ∨ s ∈ fields := by
  rw [names_ofFields]
  exact mem_around

/- No two properties have the same name. -/
theorem nodup_names_ofFields
    (fields : List String) :
    ((ofFields fields).map name).Nodup := by
  rw [names_ofFields]
  exact nodup_around fields

end Property

end TraceMining

------------------------------------------------------------
-- Entities
------------------------------------------------------------

namespace TraceMining

namespace Entity

/- The entity of a name that some patterns add up to. -/
def ofGroup
    (k : String)
    (ps : List Pattern) : Entity :=
  { name := Naming.camel k
    displayName := Naming.display k
    properties :=
      Property.ofFields (ps.flatMap Pattern.fieldNames)
    operations :=
      (ps.filterMap fun p =>
        Operation.ofType? p.type).eraseDups }

/- Adding an observed field leaves out repetitions. -/
theorem addField_observed
    (fields : List String)
    (field : String) :
    addField (fields.map observed) field =
      (Distinct.add fields field).map observed := by
  have hKnown :
      ((fields.map observed).any fun p => p.name == field) =
        fields.contains field := by
    rw [List.any_map, List.contains_eq_any_beq]
    congr 1
    funext f
    exact BEq.comm
  rw [addField, Distinct.add, hKnown]
  split
  · rfl
  · rw [List.map_append, List.map_singleton]

/- So does adding one field after the other. -/
theorem foldl_addField
    (fields : List String)
    (more : List String) :
    more.foldl addField (fields.map observed) =
      (more.foldl Distinct.add fields).map observed := by
  induction more generalizing fields with
  | nil => rfl
  | cons f more ih =>
      rw [List.foldl_cons, addField_observed, ih,
        List.foldl_cons]

/- What an entity comes to as it absorbs patterns in order. -/
theorem foldl_absorb
    (ps : List Pattern)
    (e : Entity) :
    ps.foldl (fun e p => e.absorb p) e =
      { e with
        operations :=
          (ps.filterMap fun p =>
            Operation.ofType? p.type).foldl Distinct.add
              e.operations
        properties :=
          (ps.flatMap Pattern.fieldNames).foldl addField
            e.properties } := by
  induction ps generalizing e with
  | nil => rfl
  | cons p ps ih =>
      rw [List.foldl_cons, ih, List.flatMap_cons,
        List.foldl_append, absorb, List.filterMap_cons]
      cases Operation.ofType? p.type with
      | none => rfl
      | some op => rfl

/- An entity with its properties in normal form. -/
def settled
    (e : Entity) : Entity :=
  { e with properties := Property.normalize e.properties }

/- A new entity that absorbs a group is that of the group. -/
theorem settled_foldl_absorb
    (k : String)
    (ps : List Pattern) :
    (ps.foldl (fun e p => e.absorb p) (named k)).settled =
      ofGroup k ps := by
  have hFields :=
    foldl_addField [] (ps.flatMap Pattern.fieldNames)
  rw [List.map_nil, Distinct.foldl_add_nil] at hFields
  rw [foldl_absorb, named]
  simp only [settled, hFields, Property.normalize_observed,
    Property.ofFields_eraseDups, Distinct.foldl_add_nil]
  rfl

/- The patterns that are gathered are those of the groups. -/
theorem map_fst_filter_keyed_subject?
    (ps : List Pattern)
    (k : String) :
    ((Table.keyed Pattern.subject? ps).filter fun v =>
        v.2 == k).map Prod.fst = group ps k := by
  refine (Table.map_fst_filter_keyed Pattern.subject? id ps
    k).trans ?_
  simp only [group, Option.map_id, id]

/- Under each name is what its group comes to. -/
theorem entries_foldl_fold
    (ps : List Pattern) :
    (ps.foldl fold Table.empty).entries =
      (subjects ps).map fun k =>
        (k,
          (group ps k).foldl (fun e p => e.absorb p)
            (named k)) := by
  rw [foldl_fold_eq, Table.entries_gathered named,
    Table.map_snd_keyed, subjects]
  apply List.map_congr_left
  intro k _
  rw [← map_fst_filter_keyed_subject?, List.foldl_map]

/- The entities are those of the groups, one for each. -/
theorem derive_eq_map
    (ps : List Pattern) :
    derive ps =
      (subjects ps).map fun k => ofGroup k (group ps k) := by
  have hDerive :
      derive ps =
        ((ps.foldl fold Table.empty).entries.map
          Prod.snd).map settled :=
    rfl
  rw [hDerive, entries_foldl_fold, List.map_map, List.map_map]
  apply List.map_congr_left
  intro k _
  exact settled_foldl_absorb k (group ps k)

end Entity

end TraceMining

------------------------------------------------------------
-- Descriptions
------------------------------------------------------------

namespace TraceMining

namespace Entity

/- What an entity is, told from the patterns of its group. -/
structure Describes
    (k : String)
    (ps : List Pattern)
    (e : Entity) : Prop where
  name : e.name = Naming.camel k
  label : e.displayName = Naming.display k
  operations :
    e.operations =
      (ps.filterMap fun p =>
        Operation.ofType? p.type).eraseDups
  properties :
    e.properties =
      Property.ofFields (ps.flatMap Pattern.fieldNames)
  distinct : (e.properties.map Property.name).Nodup
  once :
    ∀ p ∈ ps, ∀ field,
      p.Shows field →
        (e.properties.map Property.name).count field = 1
  only :
    ∀ s ∈ e.properties.map Property.name,
      s ∈ Property.standardNames ∨ ∃ p ∈ ps, p.Shows s

/- The entity of a group is what the group describes. -/
theorem describes_ofGroup
    (k : String)
    (ps : List Pattern) :
    Describes k ps (ofGroup k ps) where
  name := rfl
  label := rfl
  operations := rfl
  properties := rfl
  distinct := Property.nodup_names_ofFields _
  once := by
    intro p hMember field hShows
    apply List.count_eq_one_of_mem
      (Property.nodup_names_ofFields _)
    rw [Property.mem_names_ofFields, List.mem_flatMap]
    exact Or.inr
      ⟨p, hMember, Pattern.mem_fieldNames.mpr hShows⟩
  only := by
    intro s hName
    rw [ofGroup, Property.mem_names_ofFields,
      List.mem_flatMap] at hName
    simpa only [Pattern.mem_fieldNames] using hName

/-
  The entities of patterns are one for each name that is not
  empty, in the order in which the names first came, and each
  is told from the patterns with its name.
-/
theorem derive_described
    (ps : List Pattern) :
    List.Forall₂ (fun k e => Describes k (group ps k) e)
      (subjects ps) (derive ps) := by
  rw [derive_eq_map, List.forall₂_map_right_iff,
    List.forall₂_same]
  intro k _
  exact describes_ofGroup k (group ps k)

end Entity

end TraceMining
