import TraceMining.Proofs.Workspace.Ownership

/-
  This file shows that it does not matter in which order
  sessions are analyzed, and how often each of them is: the
  archive is left with the same pattern under every identity,
  also where patterns of one session have an identity in
  common, and a session is answered the same every time.

  Key theorems include:
    * `Archive.getLast?_flatMap_of_owner`
    * `Archive.get?_write_flatMap_congr`
    * `Workspace.WellNamed.eq_of_written`
    * `Workspace.analyze_repeated`
-/

------------------------------------------------------------
-- Blocks
------------------------------------------------------------

namespace TraceMining

namespace Archive

variable {block : String → List Pattern}

/- If one block alone has patterns, its last is the last. -/
theorem getLast?_flatMap_of_owner
    {owner : String}
    (hOwner : ∀ key, block key ≠ [] → key = owner)
    (keys : List String) :
    (keys.flatMap block).getLast? =
      if owner ∈ keys then (block owner).getLast?
      else none := by
  induction keys using List.reverseRecOn with
  | nil => rfl
  | append_singleton keys key ih =>
      rw [List.flatMap_append, List.flatMap_singleton,
        List.getLast?_append, ih]
      simp only [List.mem_append, List.mem_singleton]
      by_cases hKey : key = owner
      · rw [hKey, if_pos (Or.inr rfl)]
        cases (block owner).getLast? with
        | none => simp
        | some p => rfl
      · have hNone : block key = [] :=
          Classical.not_not.mp fun hSome =>
            hKey (hOwner key hSome)
        rw [hNone, List.getLast?_nil, Option.none_or]
        simp only [Ne.symm hKey, or_false]

/- Blocks can be repeated and change places without overlap. -/
theorem get?_write_flatMap_congr
    (a : Archive)
    (hApart :
      ∀ s t, ∀ p ∈ block s, ∀ q ∈ block t,
        p.id = q.id → s = t)
    {keys others : List String}
    (hSame : ∀ key, key ∈ keys ↔ key ∈ others)
    (id : String) :
    (a.write (keys.flatMap block)).get? id =
      (a.write (others.flatMap block)).get? id := by
  rw [get?_write, get?_write, List.filter_flatMap,
    List.filter_flatMap]
  -- All patterns with the identity are in one block.
  by_cases hSome : ∃ owner, ∃ p ∈ block owner, p.id = id
  · rcases hSome with ⟨owner, p, hP, rfl⟩
    have hOwner :
        ∀ key,
          ((block key).filter fun q => q.id == p.id) ≠ [] →
            key = owner := by
      intro key hHere
      rcases List.exists_mem_of_ne_nil _ hHere with ⟨q, hQ⟩
      rw [List.mem_filter, beq_iff_eq] at hQ
      exact hApart key owner q hQ.1 p hP hQ.2
    rw [getLast?_flatMap_of_owner hOwner,
      getLast?_flatMap_of_owner hOwner]
    simp only [hSame]
  · have hNone :
        ∀ keys : List String,
          (keys.flatMap fun key =>
            (block key).filter fun q => q.id == id) = [] := by
      intro keys
      rw [List.flatMap_eq_nil_iff]
      intro key _
      rw [List.filter_eq_nil_iff]
      intro q hQ hId
      exact hSome ⟨key, q, hQ, eq_of_beq hId⟩
    rw [hNone, hNone]

end Archive

end TraceMining

------------------------------------------------------------
-- Analyses Again
------------------------------------------------------------

namespace TraceMining

namespace Workspace

variable {w : Workspace}

/- What different sessions write has different identities. -/
theorem WellNamed.eq_of_written
    (hNamed : w.WellNamed)
    (s t : String) :
    ∀ p ∈ w.written s, ∀ q ∈ w.written t,
      p.id = q.id → s = t := by
  intro p hP q hQ hId
  have hReachable := hNamed.reachable
  have hAgree := hNamed.agreeOn_written [s, t]
  rw [← sessionId_of_written hReachable hP,
    ← sessionId_of_written hReachable hQ]
  refine hAgree p ?_ q ?_ hId
  · simp [hP]
  · simp [hQ]

/-
  Whatever was done to a workspace before, analyses of some
  sessions, in any order and any number of times, leave the
  archive with the same pattern under each identity.  Each of
  them answers what it would answer alone.  That is a list of
  patterns if all matches have means and nothing is refused.
-/
theorem analyze_repeated
    (hNamed : w.WellNamed)
    {ids others : List String}
    (hSame : ∀ id, id ∈ ids ↔ id ∈ others) :
    (∀ id,
      (w.run (ids.map Operation.analyze)).archive.get? id =
        (w.run
          (others.map Operation.analyze)).archive.get? id) ∧
      (w.answers ids = ids.map fun id => (w.analyze id).1) ∧
      (w.answers others =
        others.map fun id => (w.analyze id).1) ∧
      (w.archiveFault = Archive.WriteFault.none →
        ∀ id, w.HasMeans id →
          ∃ ps, (w.analyze id).1 = .ok ps) := by
  have hValid := hNamed.reachable.allValid
  refine ⟨?_, answers_eq_map w ids, answers_eq_map w others,
    ?_⟩
  · intro id
    rw [run_analyze hValid, run_analyze hValid]
    exact Archive.get?_write_flatMap_congr w.archive
      hNamed.eq_of_written hSame id
  · intro hFault id hMeans
    exact exists_analyze_eq_ok hValid hMeans hFault

/- Sessions are analyzed in another order, and one of them twice. -/
theorem analyze_repeated_threeSessions :
    threeSessions.WellNamed ∧
      ∃ ps qs,
        ps.length = 1 ∧
          qs.length = 1 ∧
          threeSessions.answers ["s", "t", "s"] =
            [.ok ps, .ok qs, .ok ps] ∧
          threeSessions.answers ["t", "s"] =
            [.ok qs, .ok ps] ∧
          ∀ id,
            (threeSessions.run
                (["s", "t", "s"].map
                  Operation.analyze)).archive.get? id =
              (threeSessions.run
                (["t", "s"].map
                  Operation.analyze)).archive.get? id := by
  rcases count?_threeSessions with ⟨_, hMeans, hS, hT, _⟩
  have hSame :
      ∀ id, id ∈ ["s", "t", "s"] ↔ id ∈ ["t", "s"] := by
    intro id
    simp only [List.mem_cons, List.not_mem_nil]
    tauto
  rcases analyze_repeated wellNamed_threeSessions hSame with
    ⟨hStored, hFirst, hSecond, hSome⟩
  rcases hSome rfl "s" (hMeans "s") with ⟨ps, hPs⟩
  rcases hSome rfl "t" (hMeans "t") with ⟨qs, hQs⟩
  rw [count?, hPs] at hS
  rw [count?, hQs] at hT
  refine ⟨wellNamed_threeSessions, ps, qs, ?_, ?_, ?_, ?_,
    hStored⟩
  · exact (Prod.mk.inj (Option.some.inj hS)).2
  · exact (Prod.mk.inj (Option.some.inj hT)).2
  · rw [hFirst]
    simp only [List.map_cons, List.map_nil, hPs, hQs]
  · rw [hSecond]
    simp only [List.map_cons, List.map_nil, hPs, hQs]

end Workspace

end TraceMining
