import TraceMining.Proofs.Matching.Outcome
import TraceMining.Workspace.Analysis

/-
  This file shows what the analysis of a session comes to when
  all loaded definitions are valid: the patterns of each in
  turn, unless the archive refuses them or some match has no
  mean interval.  It changes nothing but the archive.

  Key definitions include:
    * `Workspace.matched`
    * `Workspace.AllValid`
    * `Workspace.outcome`

  Key theorems include:
    * `Workspace.recognize_eq_mapM`
    * `Workspace.exists_recognize_iff`
    * `Workspace.recognize_eq_ok`
    * `Workspace.recognize_eq_error`
    * `Workspace.analyze_eq_outcome`
    * `Workspace.analyze_eq_error`
    * `Workspace.recognize_of_analyze`
    * `Workspace.exists_analyze_snd_eq`
    * `Workspace.analyze_snd_eq_save`
    * `Workspace.analyze_snd_eq_write`
    * `Workspace.analyze_fst_archive`
    * `Workspace.allValid_reload`
-/

------------------------------------------------------------
-- Recognition
------------------------------------------------------------

namespace TraceMining

namespace Workspace

variable {ds : List Definition}
variable {es : List Event}

/- The matches of definitions, one definition after another. -/
def matched
    (ds : List Definition)
    (es : List Event) : List (Definition × List Event) :=
  ds.flatMap fun d =>
    (d.matchedEvents es).map fun found => (d, found)

/- A match is one of some definition. -/
theorem mem_matched_iff
    {m : Definition × List Event} :
    m ∈ matched ds es ↔
      m.1 ∈ ds ∧ m.2 ∈ m.1.matchedEvents es := by
  rcases m with ⟨d, found⟩
  simp only [matched, List.mem_flatMap, List.mem_map,
    Prod.mk.injEq]
  constructor
  · rintro ⟨_, hMember, _, hFound, rfl, rfl⟩
    exact ⟨hMember, hFound⟩
  · rintro ⟨hMember, hFound⟩
    exact ⟨d, hMember, found, hFound, rfl, rfl⟩

/- Each of them has a mean if all of each definition do. -/
theorem forall_hasMeans_iff :
    (∀ d ∈ ds, d.HasMeans es) ↔
      ∀ m ∈ matched ds es, Matching.HasMean m.2 := by
  constructor
  · intro hMeans m hMember
    rcases mem_matched_iff.mp hMember with ⟨hLoaded, hFound⟩
    exact hMeans m.1 hLoaded m.2 hFound
  · intro hMeans d hLoaded found hFound
    exact hMeans (d, found)
      (mem_matched_iff.mpr ⟨hLoaded, hFound⟩)

/- Valid definitions turn their matches into patterns. -/
theorem recognize_eq_mapM
    (hValid : ∀ d ∈ ds, d.isValid = true) :
    recognize ds es =
      (matched ds es).mapM fun m =>
        Matching.toPattern m.1 m.2 := by
  induction ds with
  | nil => rfl
  | cons d ds ih =>
      rcases List.forall_mem_cons.mp hValid with
        ⟨hFirst, hRest⟩
      have hTail := ih hRest
      rw [matched] at hTail
      rw [matched, List.flatMap_cons, List.mapM_append,
        ← hTail, List.mapM_map, recognize, recognize,
        List.mapM_cons, Definition.findMatches_eq_mapM hFirst]
      simp [Function.comp_def]

/- They are found if every match becomes a pattern. -/
theorem recognize_eq_ok_iff
    (hValid : ∀ d ∈ ds, d.isValid = true)
    {ps : List Pattern} :
    recognize ds es = .ok ps ↔
      List.Forall₂
        (fun m p => Matching.toPattern m.1 m.2 = .ok p)
        (matched ds es) ps := by
  rw [recognize_eq_mapM hValid, Batch.mapM_eq_ok_iff]

/- That is if every match has a mean interval. -/
theorem exists_recognize_iff
    (hValid : ∀ d ∈ ds, d.isValid = true) :
    (∃ ps, recognize ds es = .ok ps) ↔
      ∀ d ∈ ds, d.HasMeans es := by
  rw [recognize_eq_mapM hValid, Batch.exists_mapM_eq_ok_iff,
    forall_hasMeans_iff]
  simp only [Matching.exists_toPattern_iff]

/- The patterns of each definition are put in a row. -/
theorem recognize_eq_ok
    {found : List (List Pattern)}
    (hEach :
      List.Forall₂ (fun d ps => d.findMatches es = .ok ps)
        ds found) :
    recognize ds es = .ok found.flatten := by
  have hAll :
      ds.mapM (fun d => d.findMatches es) = .ok found :=
    Batch.mapM_eq_ok_iff.mpr hEach
  unfold recognize
  rw [hAll]
  rfl

/- Without a mean interval for every match there are none. -/
theorem recognize_eq_error
    (hValid : ∀ d ∈ ds, d.isValid = true)
    (hMeans : ¬ ∀ d ∈ ds, d.HasMeans es) :
    recognize ds es = .error .unboundedMean := by
  rw [recognize_eq_mapM hValid]
  apply Batch.mapM_eq_error
  · intro m _
    by_cases hMean : Matching.HasMean m.2
    · exact Or.inl (Matching.exists_toPattern_iff.mpr hMean)
    · exact Or.inr (Matching.toPattern_eq_error hMean)
  · simp only [Matching.exists_toPattern_iff]
    rwa [← forall_hasMeans_iff]

/- Valid definitions have no patterns without events. -/
theorem recognize_nil
    (hValid : ∀ d ∈ ds, d.isValid = true) :
    recognize ds [] = .ok [] := by
  have hNone : matched ds [] = [] :=
    List.flatMap_eq_nil_iff.mpr fun _ _ => rfl
  rw [recognize_eq_mapM hValid, hNone]
  rfl

end Workspace

end TraceMining

------------------------------------------------------------
-- Analysis
------------------------------------------------------------

namespace TraceMining

namespace Workspace

variable {w : Workspace}
variable {sessionId : String}

/- The loaded definitions can be matched. -/
def AllValid
    (w : Workspace) : Prop :=
  ∀ d ∈ w.loaded, d.isValid = true

/- What becomes of patterns that are found in a session. -/
def outcome
    (w : Workspace)
    (sessionId : String)
    (ps : List Pattern) : Except Failure (List Pattern) :=
  if w.archiveFault.refuses ps then
    .error (refused sessionId Archive.diskFull)
  else .ok ps

/- Valid definitions are what is loaded. -/
theorem allValid_reload
    (w : Workspace) :
    w.reload.AllValid := by
  intro d hMember
  exact (List.mem_filter.mp hMember).2

/- An archive does not refuse a batch without patterns. -/
theorem outcome_nil
    (w : Workspace)
    (sessionId : String) :
    w.outcome sessionId [] = .ok [] := by
  simp [outcome, Archive.WriteFault.refuses]

/- What is found is handed out unless it is refused. -/
theorem analyze_eq_outcome
    (hValid : w.AllValid)
    {ps : List Pattern}
    (hFound :
      recognize w.loaded (w.log.listEvents sessionId) =
        .ok ps) :
    (w.analyze sessionId).1 = w.outcome sessionId ps := by
  unfold analyze
  simp only
  split
  · rename_i hEmpty
    rw [List.isEmpty_iff.mp hEmpty, recognize_nil hValid]
      at hFound
    rw [← Except.ok.inj hFound, outcome_nil]
  · rw [hFound]
    simp only
    split
    · rename_i hNone
      rw [List.isEmpty_iff.mp hNone, outcome_nil]
    · simp only [savePatterns, Archive.saveAll, outcome]
      by_cases hRefused : w.archiveFault.refuses ps = true
      · simp only [hRefused, if_true]
      · simp only [hRefused, if_false, Bool.false_eq_true]

/- The failure to find anything is handed out. -/
theorem analyze_eq_error
    (hValid : w.AllValid)
    (hMeans :
      ¬ ∀ d ∈ w.loaded,
        d.HasMeans (w.log.listEvents sessionId)) :
    (w.analyze sessionId).1 = .error .unboundedMean := by
  have hError := recognize_eq_error hValid hMeans
  unfold analyze
  simp only
  split
  · rename_i hEmpty
    rw [List.isEmpty_iff.mp hEmpty, recognize_nil hValid]
      at hError
    cases hError
  · rw [hError]

/- Patterns that are handed out were found and not refused. -/
theorem recognize_of_analyze
    (hValid : w.AllValid)
    {ps : List Pattern}
    (hAnswer : (w.analyze sessionId).1 = .ok ps) :
    recognize w.loaded (w.log.listEvents sessionId) =
        .ok ps ∧
      w.archiveFault.refuses ps = false := by
  cases hFound :
      recognize w.loaded (w.log.listEvents sessionId) with
  | error what =>
      have hMeans :
          ¬ ∀ d ∈ w.loaded,
            d.HasMeans (w.log.listEvents sessionId) := by
        rw [← exists_recognize_iff hValid, hFound]
        rintro ⟨qs, hOther⟩
        cases hOther
      rw [analyze_eq_error hValid hMeans] at hAnswer
      cases hAnswer
  | ok qs =>
      rw [analyze_eq_outcome hValid hFound, outcome]
        at hAnswer
      split at hAnswer
      · cases hAnswer
      · rename_i hFine
        cases hAnswer
        exact ⟨rfl, Bool.not_eq_true _ ▸ hFine⟩

/- An analysis changes nothing but the archive. -/
theorem exists_analyze_snd_eq
    (w : Workspace)
    (sessionId : String) :
    ∃ archive,
      (w.analyze sessionId).2 = { w with archive := archive } := by
  unfold analyze
  simp only
  split
  · exact ⟨w.archive, rfl⟩
  · split
    · exact ⟨w.archive, rfl⟩
    · split
      · exact ⟨w.archive, rfl⟩
      · split
        · rename_i hSaved
          exact ⟨_, (congrArg Prod.snd hSaved).symm⟩
        · rename_i hSaved
          exact ⟨_, (congrArg Prod.snd hSaved).symm⟩

/- An analysis changes neither the log nor what is loaded. -/
theorem analyze_log
    (w : Workspace)
    (sessionId : String) :
    (w.analyze sessionId).2.log = w.log ∧
      (w.analyze sessionId).2.loaded = w.loaded := by
  rcases exists_analyze_snd_eq w sessionId with
    ⟨archive, hNext⟩
  rw [hNext]
  exact ⟨rfl, rfl⟩

/- The archive is left with what saving the patterns leaves. -/
theorem analyze_snd_eq_save
    (hValid : w.AllValid)
    {ps : List Pattern}
    (hFound :
      recognize w.loaded (w.log.listEvents sessionId) =
        .ok ps) :
    (w.analyze sessionId).2 = (w.savePatterns ps).2 := by
  have hNothing : (w.savePatterns []).2 = w := rfl
  unfold analyze
  simp only
  split
  · rename_i hEmpty
    rw [List.isEmpty_iff.mp hEmpty, recognize_nil hValid]
      at hFound
    rw [← Except.ok.inj hFound, hNothing]
  · rw [hFound]
    simp only
    split
    · rename_i hNone
      rw [List.isEmpty_iff.mp hNone, hNothing]
    · split
      · rename_i hSaved
        exact (congrArg Prod.snd hSaved).symm
      · rename_i hSaved
        exact (congrArg Prod.snd hSaved).symm

/- That is all of them if the archive does not refuse them. -/
theorem analyze_snd_eq_write
    (hValid : w.AllValid)
    {ps : List Pattern}
    (hFound :
      recognize w.loaded (w.log.listEvents sessionId) =
        .ok ps)
    (hFine : w.archiveFault.refuses ps = false) :
    (w.analyze sessionId).2 =
      { w with archive := w.archive.write ps } := by
  rw [analyze_snd_eq_save hValid hFound]
  simp only [savePatterns, Archive.saveAll, hFine,
    Bool.false_eq_true, if_false]

/- A failure to find anything leaves the archive alone. -/
theorem analyze_snd_eq_self
    {what : Failure}
    (hFound :
      recognize w.loaded (w.log.listEvents sessionId) =
        .error what) :
    (w.analyze sessionId).2 = w := by
  unfold analyze
  simp only
  split
  · rfl
  · rw [hFound]

/- What an analysis comes to does not depend on the archive. -/
theorem analyze_fst_archive
    (w : Workspace)
    (archive : Archive)
    (sessionId : String) :
    (({ w with archive := archive } : Workspace).analyze
      sessionId).1 = (w.analyze sessionId).1 := by
  unfold analyze
  simp only [savePatterns, Archive.saveAll]
  split
  · rfl
  · split
    · rfl
    · split
      · rfl
      · rename_i ps _ _
        by_cases hRefused : w.archiveFault.refuses ps = true
        · simp only [hRefused, if_true]
        · simp only [hRefused, if_false, Bool.false_eq_true]

end Workspace

end TraceMining
