import Mathlib.Data.List.Basic
import TraceMining.Matching.Summary
import TraceMining.Proofs.Distinct
import TraceMining.Proofs.Matching.Outcome
import TraceMining.Proofs.Store.Table

/-
  This file shows that the metadata of events can be told from
  that of a first and a second part of them: what the second
  part says last goes before what the first says, fields and
  steps of the first part stand before those of the second,
  and counts add up.

  Key definitions include:
    * `Matching.Summary.joined`
    * `Matching.Summary.rows`
    * `Matching.Lists`
    * `Matching.IsSingle`
    * `Matching.IsJoined`

  Key theorems include:
    * `Matching.Summary.ofEvents_append`
    * `Matching.Summary.get?_toFields`
    * `Matching.isSingle_ofEvents`
    * `Matching.isJoined_ofEvents`
    * `Matching.metadata_append`
-/

------------------------------------------------------------
-- Summaries
------------------------------------------------------------

namespace TraceMining

namespace Matching

variable {as : List Event}
variable {bs : List Event}

/- The latest reading is in the second part, if any is. -/
theorem latest_append
    {α : Type}
    (reading : Event → Option α)
    (as : List Event)
    (bs : List Event) :
    latest reading (as ++ bs) =
      (latest reading bs).or (latest reading as) := by
  unfold latest
  rw [List.reverse_append, List.findSome?_append]

/- The two parts begin with the first and end with the last. -/
theorem elapsed_append
    {first : Event}
    {last : Event}
    (hFirst : as.head? = some first)
    (hLast : bs.getLast? = some last) :
    elapsed (as ++ bs) = last.timestamp - first.timestamp := by
  unfold elapsed
  rw [List.head?_append, List.getLast?_append, hFirst, hLast]
  rfl

/- The summary of one event is what the event says. -/
theorem Summary.ofEvents_single
    (d : Definition)
    (e : Event) :
    ofEvents d [e] =
      { patternType := d.type
        patternName := d.name
        eventCount := 1
        duration := 0
        entityName := e.entityName?
        entityId := e.entityId?
        path := e.path?
        workflowName := e.workflowName?
        fieldNames := e.fieldName?.toList
        steps := e.currentStep?.toList } := by
  have hLatest {α : Type} (reading : Event → Option α) :
      latest reading [e] = reading e := by
    simp [latest]
  have hOne {α : Type} (reading : Event → Option α) :
      [e].filterMap reading = (reading e).toList := by
    cases hReading : reading e with
    | none => simp [hReading]
    | some a => simp [hReading]
  have hNames :
      e.fieldName?.toList.eraseDups = e.fieldName?.toList := by
    apply Distinct.eraseDups_eq_self
    cases e.fieldName? with
    | none => exact List.nodup_nil
    | some f => exact List.nodup_singleton f
  have hElapsed : elapsed [e] = 0 := Int.sub_self _
  simp only [ofEvents, hLatest, hOne, hNames, hElapsed]
  rfl

/- Two summaries of events in a row, which took some time. -/
def Summary.joined
    (s : Summary)
    (t : Summary)
    (duration : Int) : Summary :=
  { patternType := s.patternType
    patternName := s.patternName
    eventCount := s.eventCount + t.eventCount
    duration := duration
    entityName := t.entityName.or s.entityName
    entityId := t.entityId.or s.entityId
    path := t.path.or s.path
    workflowName := t.workflowName.or s.workflowName
    fieldNames :=
      s.fieldNames ++
        t.fieldNames.filter fun f => !s.fieldNames.contains f
    steps := s.steps ++ t.steps }

/- That is the summary of all these events. -/
theorem Summary.ofEvents_append
    (d : Definition)
    (as : List Event)
    (bs : List Event) :
    ofEvents d (as ++ bs) =
      (ofEvents d as).joined (ofEvents d bs)
        (elapsed (as ++ bs)) := by
  simp only [ofEvents, joined, latest_append,
    List.length_append, List.filterMap_append,
    Distinct.eraseDups_append_eq]

end Matching

end TraceMining

------------------------------------------------------------
-- Rows
------------------------------------------------------------

namespace TraceMining

namespace Matching

/- Items as one value, if there are some. -/
def listed?
    (vs : List Value) : Option Value :=
  if vs.isEmpty then none else some (.list vs)

/- A key with a value is a field; without one it is none. -/
def rowFields
    (row : String × Option Value) : Fields :=
  entry? row.1 row.2

/- The field of a row is found under its key. -/
theorem get?_rowFields
    (row : String × Option Value)
    (key : String) :
    Entries.get? (rowFields row) key =
      if key = row.1 then row.2 else none := by
  rcases row with ⟨k, v⟩
  unfold rowFields entry?
  cases v with
  | none => simp [Entries.get?_nil]
  | some v => simp [Entries.get?_cons, Entries.get?_nil]

/- Items are the field of a row with their list. -/
theorem entries?_eq_rowFields
    (key : String)
    (vs : List Value) :
    entries? key vs = rowFields (key, listed? vs) := by
  cases vs with
  | nil => rfl
  | cons v vs => rfl

/- Rows with different keys are found one by one. -/
theorem get?_flatMap_rowFields
    {rows : List (String × Option Value)}
    (hKeys : (Entries.keys rows).Nodup)
    (key : String) :
    Entries.get? (rows.flatMap rowFields) key =
      (Entries.get? rows key).join := by
  induction rows with
  | nil => rfl
  | cons row rows ih =>
      rcases row with ⟨k, v⟩
      rw [Entries.keys, List.map_cons, List.nodup_cons]
        at hKeys
      rcases hKeys with ⟨hNew, hRest⟩
      rw [List.flatMap_cons, Entries.get?_append,
        get?_rowFields, Entries.get?_cons, ih hRest]
      by_cases hHere : key = k
      · have hNone : Entries.get? rows key = none := by
          rw [Entries.get?_eq_none_iff, hHere]
          exact hNew
        rw [if_pos hHere, if_pos hHere, hNone]
        exact Option.or_none
      · rw [if_neg hHere, if_neg hHere]
        exact Option.none_or

namespace Summary

/- What a summary has to say under each key of metadata. -/
def rows
    (s : Summary) : List (String × Option Value) :=
  [ ("patternType", some (.text s.patternType))
  , ("patternName", some (.text s.patternName))
  , ("eventCount", some (.int s.eventCount))
  , ("duration", some (.int s.duration))
  , ("entityName", s.entityName.map .text)
  , ("entityId", s.entityId)
  , ("path", s.path.map .text)
  , ("workflowName", s.workflowName.map .text)
  , ("fields", listed? (s.fieldNames.map .text))
  , ("steps", listed? s.steps) ]

/- The keys of metadata. -/
def keys : List String :=
  [ "patternType", "patternName", "eventCount", "duration"
  , "entityName", "entityId", "path", "workflowName"
  , "fields", "steps" ]

/- Those under which the last reading stands. -/
def latestKeys : List String :=
  ["entityName", "entityId", "path", "workflowName"]

/- Every summary has its rows under these keys. -/
theorem keys_rows
    (s : Summary) :
    Entries.keys s.rows = keys :=
  rfl

/- No two rows have the same key. -/
theorem nodup_keys_rows
    (s : Summary) :
    (Entries.keys s.rows).Nodup := by
  rw [keys_rows]
  decide

/- Metadata is the rows that say something. -/
theorem toFields_eq_flatMap
    (s : Summary) :
    s.toFields = s.rows.flatMap rowFields := by
  simp only [toFields, rows, List.flatMap_cons,
    List.flatMap_nil, List.append_nil, List.append_assoc,
    entries?_eq_rowFields]
  rfl

/- So metadata has under each key what the row says. -/
theorem get?_toFields
    (s : Summary)
    (key : String) :
    s.toFields.get? key = (Entries.get? s.rows key).join := by
  rw [toFields_eq_flatMap, Fields.get?]
  exact get?_flatMap_rowFields s.nodup_keys_rows key

end Summary

end Matching

end TraceMining

------------------------------------------------------------
-- Metadata
------------------------------------------------------------

namespace TraceMining

namespace Matching

/- Items are what is listed under a key, or there are none. -/
def Lists
    (fs : Fields)
    (key : String)
    (vs : List Value) : Prop :=
  fs.get? key = listed? vs

/- Metadata of one event, which has what the event says. -/
structure IsSingle
    (d : Definition)
    (e : Event)
    (c : Fields) : Prop where
  patternType : c.get? "patternType" = some (.text d.type)
  patternName : c.get? "patternName" = some (.text d.name)
  eventCount : c.get? "eventCount" = some (.int 1)
  duration : c.get? "duration" = some (.int 0)
  entityName : c.get? "entityName" = e.entityName?.map .text
  entityId : c.get? "entityId" = e.entityId?
  path : c.get? "path" = e.path?.map .text
  workflowName :
    c.get? "workflowName" = e.workflowName?.map .text
  fields : Lists c "fields" (e.fieldName?.toList.map .text)
  steps : Lists c "steps" e.currentStep?.toList

/-
  Metadata of events that are two parts in a row, beside the
  metadata of each part, where the first event of all and the
  last are given.
-/
structure IsJoined
    (d : Definition)
    (first : Event)
    (last : Event)
    (a : Fields)
    (b : Fields)
    (c : Fields) : Prop where
  patternType : c.get? "patternType" = some (.text d.type)
  patternName : c.get? "patternName" = some (.text d.name)
  eventCount :
    ∃ m n,
      a.get? "eventCount" = some (.int m) ∧
        b.get? "eventCount" = some (.int n) ∧
        c.get? "eventCount" = some (.int (m + n))
  duration :
    c.get? "duration" =
      some (.int (last.timestamp - first.timestamp))
  latest :
    ∀ key ∈ Summary.latestKeys,
      c.get? key = (b.get? key).or (a.get? key)
  fields :
    ∃ ss ts : List String,
      Lists a "fields" (ss.map .text) ∧
        Lists b "fields" (ts.map .text) ∧
        Lists c "fields"
          ((ss ++ ts.filter fun t => !ss.contains t).map
            .text) ∧
        (ss ++ ts.filter fun t => !ss.contains t).Nodup
  steps :
    ∃ us vs,
      Lists a "steps" us ∧ Lists b "steps" vs ∧
        Lists c "steps" (us ++ vs)
  keys : ∀ key ∉ Summary.keys, c.get? key = none

namespace Summary

/- A row is what metadata has under its key. -/
theorem get?_toFields_of_mem
    {s : Summary}
    {key : String}
    {v : Option Value}
    (hRow : (key, v) ∈ s.rows) :
    s.toFields.get? key = v := by
  have hValue : Entries.get? s.rows key = some v :=
    Entries.get?_of_mem s.nodup_keys_rows hRow
  rw [get?_toFields, hValue, Option.join_some]

/- There is nothing under any other key. -/
theorem get?_toFields_of_not_mem
    (s : Summary)
    {key : String}
    (hKey : key ∉ keys) :
    s.toFields.get? key = none := by
  have hNone : Entries.get? s.rows key = none :=
    Entries.get?_eq_none_iff.mpr hKey
  rw [get?_toFields, hNone, Option.join_none]

/- All fields are listed. -/
theorem lists_fields
    (s : Summary) :
    Lists s.toFields "fields" (s.fieldNames.map .text) :=
  get?_toFields_of_mem (by simp [rows])

/- All steps are listed. -/
theorem lists_steps
    (s : Summary) :
    Lists s.toFields "steps" s.steps :=
  get?_toFields_of_mem (by simp [rows])

/- What is read last in the second part goes first. -/
theorem get?_toFields_joined
    (s : Summary)
    (t : Summary)
    (duration : Int)
    {key : String}
    (hKey : key ∈ latestKeys) :
    (s.joined t duration).toFields.get? key =
      (t.toFields.get? key).or (s.toFields.get? key) := by
  simp only [latestKeys, List.mem_cons, List.not_mem_nil,
    or_false] at hKey
  rcases hKey with rfl | rfl | rfl | rfl
  all_goals
    simp [get?_toFields, rows, joined, Entries.get?_cons,
      Option.map_or]

end Summary

/- Metadata of one event says what the event says. -/
theorem isSingle_ofEvents
    (d : Definition)
    (e : Event) :
    IsSingle d e (Summary.ofEvents d [e]).toFields := by
  rw [Summary.ofEvents_single]
  constructor
  all_goals
    apply Summary.get?_toFields_of_mem
    simp [Summary.rows]

/- That of two parts in a row is that of each part joined. -/
theorem isJoined_ofEvents
    (d : Definition)
    {as : List Event}
    {bs : List Event}
    (hFirst : as ≠ [])
    (hSecond : bs ≠ []) :
    IsJoined d (as.head hFirst) (bs.getLast hSecond)
      (Summary.ofEvents d as).toFields
      (Summary.ofEvents d bs).toFields
      (Summary.ofEvents d (as ++ bs)).toFields := by
  have hElapsed :=
    elapsed_append (List.head?_eq_some_head hFirst)
      (List.getLast?_eq_some_getLast hSecond)
  have hNames :
      (Summary.ofEvents d (as ++ bs)).fieldNames.Nodup :=
    Distinct.nodup_eraseDups _
  rw [Summary.ofEvents_append, hElapsed] at hNames ⊢
  exact
    { patternType :=
        Summary.get?_toFields_of_mem List.mem_cons_self
      patternName :=
        Summary.get?_toFields_of_mem
          (List.mem_cons_of_mem _ List.mem_cons_self)
      eventCount :=
        ⟨_, _, Summary.get?_eventCount _,
          Summary.get?_eventCount _,
          Summary.get?_eventCount _⟩
      duration := Summary.get?_duration _
      latest := fun _ => Summary.get?_toFields_joined _ _ _
      fields :=
        ⟨_, _, Summary.lists_fields _, Summary.lists_fields _,
          Summary.lists_fields _, hNames⟩
      steps :=
        ⟨_, _, Summary.lists_steps _, Summary.lists_steps _,
          Summary.lists_steps _⟩
      keys := fun _ => Summary.get?_toFields_of_not_mem _ }

/-
  Metadata is told from the metadata of parts: for one event
  it says what the event says, and for events that are any two
  parts in a row it is that of both parts joined.
-/
theorem metadata_append
    (d : Definition)
    {as : List Event}
    {bs : List Event}
    (hFirst : as ≠ [])
    (hSecond : bs ≠ []) :
    (∀ e, IsSingle d e (Summary.ofEvents d [e]).toFields) ∧
      IsJoined d (as.head hFirst) (bs.getLast hSecond)
        (Summary.ofEvents d as).toFields
        (Summary.ofEvents d bs).toFields
        (Summary.ofEvents d (as ++ bs)).toFields :=
  ⟨isSingle_ofEvents d, isJoined_ofEvents d hFirst hSecond⟩

/- A visit in which two fields are filled in. -/
def visitOfOrders : List Event :=
  [ { Event.tick "a" 0 with
      data :=
        [ ("path", .text "/orders"), ("to", .text "/")
        , ("entityName", .text "Order") ] }
  , { Event.tick "b" 10 with
      data :=
        [ ("fieldName", .text "total")
        , ("currentStep", .int 1) ] }
  , { Event.tick "c" 20 with
      data := [("fieldName", .text "note")] } ]

/- A visit elsewhere, in which one of them comes again. -/
def visitOfInvoices : List Event :=
  [ { Event.tick "d" 30 with
      data :=
        [ ("fieldName", .text "total"), ("entityId", .int 7) ] }
  , { Event.tick "e" 45 with
      data :=
        [ ("to", .text "/invoices")
        , ("fieldName", .text "due")
        , ("currentStep", .text "sent") ] } ]

/- One after the other they end where the second one ends. -/
theorem metadata_append_visits :
    visitOfOrders ≠ [] ∧ visitOfInvoices ≠ [] ∧
      ∃ c,
        (Summary.ofEvents (.pair 1000)
            (visitOfOrders ++ visitOfInvoices)).toFields = c ∧
          c.get? "path" = some (.text "/invoices") ∧
          c.get? "entityName" = some (.text "Order") ∧
          c.get? "entityId" = some (.int 7) ∧
          c.get? "workflowName" = none ∧
          Lists c "fields"
            [.text "total", .text "note", .text "due"] ∧
          Lists c "steps" [.int 1, .text "sent"] ∧
          c.get? "duration" = some (.int 45) := by
  have hFirst : visitOfOrders ≠ [] := List.cons_ne_nil _ _
  have hSecond : visitOfInvoices ≠ [] := List.cons_ne_nil _ _
  have hJoined :=
    (metadata_append (.pair 1000) hFirst hSecond).2
  refine
    ⟨hFirst, hSecond, _, rfl, ?_, ?_, ?_, ?_, rfl, rfl,
      hJoined.duration⟩
  all_goals
    rw [hJoined.latest _ (by decide)]
    rfl

end Matching

end TraceMining
