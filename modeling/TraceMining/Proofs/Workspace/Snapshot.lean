import Mathlib.Data.List.DropRight
import TraceMining.Proofs.Store.Catalog
import TraceMining.Proofs.Workspace.Failures

/-
  This file shows by which definitions a session is analyzed:
  by those that were active and accepted when definitions were
  loaded last, in the order that the catalog had then.  What
  is done to the catalog afterwards does not matter until it
  is loaded again.

  Key definitions include:
    * `Workspace.Operation.edit`
    * `Workspace.upToReload`
    * `Workspace.snapshot`

  Key theorems include:
    * `Workspace.isNamed_catalog_run`
    * `Workspace.catalog_values_run`
    * `Workspace.loaded_run_eq_loadable`
    * `Workspace.loaded_run_eq_snapshot`
    * `Workspace.analyze_fst_eq_recognize`
    * `Workspace.exists_run_edits_eq`
    * `Workspace.analyze_snapshot`
-/

------------------------------------------------------------
-- Catalogs of Runs
------------------------------------------------------------

namespace TraceMining

namespace Workspace

/- What an operation makes of the definitions of a catalog. -/
def Operation.edit
    (ds : List Definition) :
    Operation → List Definition
  | .upsert d => Roster.stored Definition.id ds d
  | .delete id => Roster.removed Definition.id ds id
  | _ => ds

/- The operation changes the catalog on its own. -/
def Operation.isEdit :
    Operation → Bool
  | .upsert _ => true
  | .delete _ => true
  | _ => false

variable {w : Workspace}

/- It makes this of the catalog of a workspace. -/
theorem catalog_perform
    (hNamed : w.catalog.IsNamed Definition.id)
    (op : Operation) :
    (w.perform op).catalog.IsNamed Definition.id ∧
      (w.perform op).catalog.values =
        op.edit w.catalog.values := by
  cases op with
  | upsert d => exact ⟨hNamed.put d, hNamed.values_put d⟩
  | delete id => exact ⟨hNamed.erase id, hNamed.values_erase id⟩
  | analyze sessionId =>
      rcases exists_analyze_snd_eq w sessionId with
        ⟨archive, hNext⟩
      rw [perform, hNext]
      exact ⟨hNamed, rfl⟩
  | startSession userId id => exact ⟨hNamed, rfl⟩
  | append e => exact ⟨hNamed, rfl⟩
  | reload => exact ⟨hNamed, rfl⟩
  | refuse fault => exact ⟨hNamed, rfl⟩

/- Through a run, definitions stand under their identities. -/
theorem isNamed_catalog_run
    (hNamed : w.catalog.IsNamed Definition.id)
    (ops : List Operation) :
    (w.run ops).catalog.IsNamed Definition.id := by
  induction ops generalizing w with
  | nil => exact hNamed
  | cons op ops ih => exact ih (catalog_perform hNamed op).1

/- The catalog has what the operations make of it in turn. -/
theorem catalog_values_run
    (hNamed : w.catalog.IsNamed Definition.id)
    (ops : List Operation) :
    (w.run ops).catalog.values =
      ops.foldl Operation.edit w.catalog.values := by
  induction ops generalizing w with
  | nil => rfl
  | cons op ops ih =>
      rcases catalog_perform hNamed op with ⟨hNext, hValues⟩
      rw [List.foldl_cons, ← hValues]
      exact ih hNext

/- Edits change the catalog and nothing else. -/
theorem exists_run_edits_eq
    (w : Workspace)
    {edits : List Operation}
    (hEdits : ∀ op ∈ edits, op.isEdit = true) :
    ∃ catalog, w.run edits = { w with catalog := catalog } := by
  induction edits generalizing w with
  | nil => exact ⟨w.catalog, rfl⟩
  | cons op edits ih =>
      rcases List.forall_mem_cons.mp hEdits with
        ⟨hFirst, hRest⟩
      rcases ih (w.perform op) hRest with ⟨catalog, hRun⟩
      refine ⟨catalog, hRun.trans ?_⟩
      cases op with
      | upsert d => rfl
      | delete id => rfl
      | startSession userId id => cases hFirst
      | append e => cases hFirst
      | reload => cases hFirst
      | analyze sessionId => cases hFirst
      | refuse fault => cases hFirst

end Workspace

end TraceMining

------------------------------------------------------------
-- Loading
------------------------------------------------------------

namespace TraceMining

namespace Workspace

/- The operation loads definitions. -/
def Operation.isReload :
    Operation → Bool
  | .reload => true
  | _ => false

/- Only one does. -/
theorem Operation.isReload_eq_false
    {op : Operation}
    (hOther : op ≠ .reload) :
    op.isReload = false := by
  cases op with
  | reload => exact absurd rfl hOther
  | startSession userId id => rfl
  | append e => rfl
  | upsert d => rfl
  | delete id => rfl
  | analyze sessionId => rfl
  | refuse fault => rfl

/- Operations up to the last one that loads definitions. -/
def upToReload
    (ops : List Operation) : List Operation :=
  ops.rdropWhile fun op => !op.isReload

/-
  The definitions that are active and accepted, as the catalog
  of a list had them when they were loaded last.
-/
def snapshot
    (ds : List Definition)
    (ops : List Operation) : List Definition :=
  ((upToReload ops).foldl Operation.edit
      (Catalog.listing ds)).filter
    fun d => d.isActive && d.check.isOk

/- What is loaded comes from the catalog of that time. -/
theorem loaded_run_eq_loadable
    (catalog : Catalog)
    (now : Int)
    (version : String)
    (ops : List Operation) :
    ((ofCatalog catalog now version).run ops).loaded =
      ((ofCatalog catalog now version).run
        (upToReload ops)).catalog.loadable := by
  induction ops using List.reverseRecOn with
  | nil => rfl
  | append_singleton ops op ih =>
      by_cases hReload : op = .reload
      · have hAll :
            upToReload (ops ++ [op]) = ops ++ [op] := by
          rw [hReload]
          exact List.rdropWhile_concat_neg _ _ _ (by
            simp [Operation.isReload])
        rw [hAll, run_append, hReload]
        rfl
      · have hEarlier :
            upToReload (ops ++ [op]) = upToReload ops := by
          refine List.rdropWhile_concat_pos _ _ _ ?_
          rw [Operation.isReload_eq_false hReload]
          rfl
        rw [run_append, hEarlier, ← ih]
        exact loaded_perform _ hReload

/- These are the definitions of the snapshot. -/
theorem loaded_run_eq_snapshot
    (ds : List Definition)
    (now : Int)
    (version : String)
    (ops : List Operation) :
    ((ofCatalog (Catalog.ofList ds) now version).run
      ops).loaded = snapshot ds ops := by
  rw [loaded_run_eq_loadable, Catalog.loadable_eq_filter,
    catalog_values_run (Catalog.isNamed_ofList ds), snapshot,
    ← Catalog.values_ofList]
  rfl

end Workspace

end TraceMining

------------------------------------------------------------
-- Analyses
------------------------------------------------------------

namespace TraceMining

namespace Workspace

variable {w : Workspace}
variable {sessionId : String}

/- Only one operation changes what the archive refuses. -/
theorem archiveFault_perform
    (w : Workspace)
    {op : Operation}
    (hOther : ∀ fault, op ≠ .refuse fault) :
    (w.perform op).archiveFault = w.archiveFault := by
  cases op with
  | refuse fault => exact absurd rfl (hOther fault)
  | analyze sessionId =>
      rcases exists_analyze_snd_eq w sessionId with
        ⟨archive, hNext⟩
      rw [perform, hNext]
  | startSession userId id => rfl
  | append e => rfl
  | upsert d => rfl
  | delete id => rfl
  | reload => rfl

/- An archive that is not told to refuses nothing. -/
theorem archiveFault_run
    (w : Workspace)
    {ops : List Operation}
    (hSaving : ∀ fault, Operation.refuse fault ∉ ops) :
    (w.run ops).archiveFault = w.archiveFault := by
  induction ops generalizing w with
  | nil => rfl
  | cons op ops ih =>
      have hFirst : ∀ fault, op ≠ .refuse fault := by
        rintro fault rfl
        exact hSaving fault List.mem_cons_self
      have hRest : ∀ fault, Operation.refuse fault ∉ ops :=
        fun fault hLater =>
          hSaving fault (List.mem_cons_of_mem op hLater)
      exact (ih (w.perform op) hRest).trans
        (archiveFault_perform w hFirst)

/- Then what is recognized is what is answered. -/
theorem analyze_fst_eq_recognize
    (hValid : w.AllValid)
    (hFault : w.archiveFault = Archive.WriteFault.none) :
    (w.analyze sessionId).1 =
      recognize w.loaded (w.log.listEvents sessionId) := by
  cases hFound :
      recognize w.loaded (w.log.listEvents sessionId) with
  | ok ps =>
      rw [analyze_eq_outcome hValid hFound, outcome, hFault]
      simp [Archive.WriteFault.refuses,
        Archive.WriteFault.none]
  | error what =>
      have hMeans :
          ¬ ∀ d ∈ w.loaded,
            d.HasMeans (w.log.listEvents sessionId) := by
        rw [← exists_recognize_iff hValid, hFound]
        rintro ⟨ps, hOther⟩
        cases hOther
      rw [analyze_eq_error hValid hMeans, ← hFound,
        recognize_eq_error hValid hMeans]

/- That is what the definitions find, one after another. -/
theorem recognize_eq_map
    (ds : List Definition)
    (es : List Event) :
    recognize ds es =
      (ds.mapM fun d : Definition => d.findMatches es).map
        List.flatten := by
  unfold recognize
  cases ds.mapM fun d => d.findMatches es with
  | ok found => rfl
  | error what => rfl

/- Something is recognized if each of them finds something. -/
theorem exists_recognize_iff_findMatches
    (ds : List Definition)
    (es : List Event) :
    (∃ ps, recognize ds es = .ok ps) ↔
      ∀ d ∈ ds, ∃ ps, d.findMatches es = .ok ps := by
  rw [recognize_eq_map, ← Batch.exists_mapM_eq_ok_iff]
  cases ds.mapM fun d => d.findMatches es with
  | ok found => simp [Except.map]
  | error what => simp [Except.map]

/-
  After operations from the catalog of a list on, in an
  archive that refuses nothing, the catalog has what these
  operations make of the list.  A definition that is stored
  takes the place of the one with its identity, and is the
  last if that was deleted before.  What is loaded are the
  active and accepted definitions that the catalog had when
  definitions were loaded last.  An analysis answers with all
  that they find, in their order, and fails only if one of
  them does.  Later edits do not matter to it.
-/
theorem analyze_snapshot
    (ds : List Definition)
    (now : Int)
    (version : String)
    {ops : List Operation}
    (hSaving : ∀ fault, Operation.refuse fault ∉ ops)
    {w : Workspace}
    (hRun :
      (ofCatalog (Catalog.ofList ds) now version).run ops = w)
    (sessionId : String) :
    w.catalog.values =
        ops.foldl Operation.edit (Catalog.listing ds) ∧
      (∀ d, d.id ∈ w.catalog.values.map Definition.id →
        (w.upsert d).catalog.values =
          w.catalog.values.map fun e =>
            if e.id = d.id then d else e) ∧
      (∀ d,
        ((w.delete d.id).2.upsert d).catalog.values =
          (w.catalog.values.filter fun e => e.id != d.id) ++
            [d]) ∧
      w.loaded = snapshot ds ops ∧
      (w.analyze sessionId).1 =
        ((snapshot ds ops).mapM fun d : Definition =>
          d.findMatches (w.log.listEvents sessionId)).map
            List.flatten ∧
      ((∃ ps, (w.analyze sessionId).1 = .ok ps) ↔
        ∀ d ∈ snapshot ds ops,
          ∃ ps,
            d.findMatches (w.log.listEvents sessionId) =
              .ok ps) ∧
      ∀ edits, (∀ op ∈ edits, op.isEdit = true) →
        (w.run edits).loaded = w.loaded ∧
          ((w.run edits).analyze sessionId).1 =
            (w.analyze sessionId).1 := by
  have hStart := Catalog.isNamed_ofList ds
  have hNamed : w.catalog.IsNamed Definition.id := by
    rw [← hRun]
    exact isNamed_catalog_run hStart ops
  have hValues :
      w.catalog.values =
        ops.foldl Operation.edit (Catalog.listing ds) := by
    rw [← hRun, ← Catalog.values_ofList]
    exact catalog_values_run hStart ops
  have hLoaded : w.loaded = snapshot ds ops := by
    rw [← hRun]
    exact loaded_run_eq_snapshot ds now version ops
  have hValid : w.AllValid := by
    rw [← hRun]
    exact allValid_run (allValid_reload _) ops
  have hFault : w.archiveFault = Archive.WriteFault.none := by
    rw [← hRun]
    exact archiveFault_run _ hSaving
  have hAnswer :
      (w.analyze sessionId).1 =
        recognize w.loaded (w.log.listEvents sessionId) :=
    analyze_fst_eq_recognize hValid hFault
  refine ⟨hValues, ?_, ?_, hLoaded, ?_, ?_, ?_⟩
  · intro d hMember
    exact (hNamed.values_put d).trans (if_pos hMember)
  · intro d
    have hDeleted := hNamed.erase d.id
    refine (hDeleted.values_put d).trans ?_
    rw [hNamed.values_erase, Roster.stored_removed]
    rfl
  · rw [hAnswer, hLoaded, recognize_eq_map]
  · rw [hAnswer, hLoaded, exists_recognize_iff_findMatches]
  · intro edits hEdits
    rcases exists_run_edits_eq w hEdits with ⟨catalog, hNext⟩
    rw [hNext, hAnswer]
    exact ⟨rfl, analyze_fst_eq_recognize hValid hFault⟩

/- A definition under another name. -/
def renamed
    (id : String)
    (d : Definition) : Definition :=
  { d with id := id }

/- Definitions, one of which is not active. -/
def manyPairs : List Definition :=
  [ Definition.pair 1000
  , renamed "other" (Definition.pair 1000)
  , renamed "idle"
      { Definition.pair 1000 with isActive := false } ]

/-
  One is deleted and comes again, one is replaced, and one
  that is not accepted is stored before all are loaded.  Then
  two ticks come, and the first definition is deleted.
-/
def changes : List Operation :=
  [ .delete "pair"
  , .upsert (renamed "backward" (Definition.pair (-1)))
  , .upsert (Definition.pair 500)
  , .upsert (renamed "other" (Definition.pair 500))
  , .reload
  , .append (Event.tick "a" 0)
  , .append (Event.tick "b" 200)
  , .delete "other" ]

/- The workspace that they lead to. -/
def changedPairs : Workspace :=
  (ofCatalog (Catalog.ofList manyPairs) 0 "1").run changes

/- Those that were loaded find the ticks in their new order. -/
theorem analyze_snapshot_changedPairs :
    (snapshot manyPairs changes).map Definition.id =
        ["other", "pair"] ∧
      changedPairs.catalog.keys =
        ["idle", "backward", "pair"] ∧
      (changedPairs.analyze "s").1 =
        ((snapshot manyPairs changes).mapM
          fun d : Definition =>
            d.findMatches (Event.ticks 200)).map
              List.flatten ∧
      ∃ ps, (changedPairs.analyze "s").1 = .ok ps := by
  have hSaving :
      ∀ fault, Operation.refuse fault ∉ changes := by
    simp [changes]
  rcases analyze_snapshot manyPairs 0 "1" hSaving
      (w := changedPairs) rfl "s" with
    ⟨_, _, _, _, hAnswer, hSome, _⟩
  have hEvents :
      changedPairs.log.listEvents "s" = Event.ticks 200 :=
    EventLog.byTime_eq_self (by decide)
  rw [hEvents] at hAnswer hSome
  have hAccepted :
      ∀ d ∈ snapshot manyPairs changes,
        d.isValid = true ∧
          d.rules.timeout < Binary.overflow := by
    decide +kernel
  refine ⟨by decide +kernel, by decide +kernel, hAnswer,
    hSome.mpr ?_⟩
  intro d hMember
  rcases hAccepted d hMember with ⟨hValid, hTimeout⟩
  exact (Definition.exists_findMatches_iff hValid).mpr
    (Definition.hasMeans_of_timeout_lt hValid (by decide)
      hTimeout)

end Workspace

end TraceMining
