import TraceMining.Proofs.Store.Log
import TraceMining.Proofs.Workspace.Analysis

/-
  This file defines the runs of a workspace: one operation
  after another, from a catalog on.  Through every run the log
  grows by the events that arrive, a stream holds events of
  its own session only, and what is loaded can be matched.

  Key definitions include:
    * `Workspace.Operation`
    * `Workspace.perform`
    * `Workspace.run`
    * `Workspace.arrivals`
    * `Workspace.Reachable`

  Key theorems include:
    * `Workspace.run_append`
    * `Workspace.grows_run`
    * `Workspace.loaded_run`
    * `Workspace.stream_run_ofCatalog`
    * `Workspace.Reachable.allValid`
    * `Workspace.Reachable.sessionId_eq`
-/

------------------------------------------------------------
-- Operations
------------------------------------------------------------

namespace TraceMining

namespace Workspace

/-
  What happens to a workspace.  Nobody asks for `refuse`: from
  there on the archive refuses to write for some sessions.
-/
inductive Operation where
  | startSession (userId : Option String) (id : Option String)
  | append (e : Event)
  | upsert (d : Definition)
  | delete (id : String)
  | reload
  | analyze (sessionId : String)
  | refuse (fault : Archive.WriteFault)

/- The workspace after an operation, whether it failed or not. -/
def perform
    (w : Workspace) :
    Operation → Workspace
  | .startSession userId id => (w.startSession userId id).2
  | .append e => (w.append e).2
  | .upsert d => w.upsert d
  | .delete id => (w.delete id).2
  | .reload => w.reload
  | .analyze sessionId => (w.analyze sessionId).2
  | .refuse fault => { w with archiveFault := fault }

/- The workspace after some operations in a row. -/
def run
    (w : Workspace)
    (ops : List Operation) : Workspace :=
  ops.foldl perform w

/- The event that an operation brings, if it brings one. -/
def Operation.arrival? :
    Operation → Option Event
  | .append e => some e
  | _ => none

/- The events that some operations bring. -/
def arrivals
    (ops : List Operation) : List Event :=
  ops.filterMap Operation.arrival?

/- A workspace that operations lead to from some catalog. -/
def Reachable
    (w : Workspace) : Prop :=
  ∃ catalog now version ops,
    w = (ofCatalog catalog now version).run ops

end Workspace

end TraceMining

------------------------------------------------------------
-- Runs
------------------------------------------------------------

namespace TraceMining

namespace Workspace

/- Operations in two parts are performed one after the other. -/
theorem run_append
    (w : Workspace)
    (first second : List Operation) :
    w.run (first ++ second) = (w.run first).run second :=
  List.foldl_append

/- The events of two parts come one after the other. -/
theorem arrivals_append
    (first second : List Operation) :
    arrivals (first ++ second) =
      arrivals first ++ arrivals second :=
  List.filterMap_append

/- Events that are appended are the ones that come. -/
theorem arrivals_map_append
    (es : List Event) :
    arrivals (es.map Operation.append) = es := by
  rw [arrivals, List.filterMap_map]
  exact List.filterMap_some

/- The log grows by the event that an operation brings. -/
theorem grows_perform
    {log : EventLog}
    {es : List Event}
    {w : Workspace}
    (hGrows : log.Grows es w.log)
    (op : Operation) :
    log.Grows (es ++ arrivals [op]) (w.perform op).log := by
  have hSame : log.Grows (es ++ []) w.log := by
    rw [List.append_nil]
    exact hGrows
  cases op with
  | startSession userId id =>
      exact hSame.startSession w.now userId id
  | append e => exact hGrows.append w.now e
  | analyze sessionId =>
      rw [perform, (analyze_log w sessionId).1]
      exact hSame
  | upsert d => exact hSame
  | delete id => exact hSame
  | reload => exact hSame
  | refuse fault => exact hSame

/- Over a run it grows by all the events that arrive. -/
theorem grows_run
    (w : Workspace)
    (ops : List Operation) :
    w.log.Grows (arrivals ops) (w.run ops).log := by
  induction ops using List.reverseRecOn with
  | nil => exact EventLog.Grows.refl
  | append_singleton ops op ih =>
      rw [arrivals_append, run_append]
      exact grows_perform ih op

/-
  Events of named sessions go to the ends of the streams of
  these sessions, and that is all.
-/
theorem exists_run_append_eq
    {w : Workspace}
    (hPaired : w.log.Paired)
    {es : List Event}
    (hNamed : ∀ e ∈ es, e.sessionId.isEmpty = false) :
    ∃ log,
      w.run (es.map Operation.append) =
          { w with log := log } ∧
        ∀ id,
          log.streams.get? id =
            if EventLog.ofSession es id = [] then
              w.log.streams.get? id
            else
              some
                (w.log.stream id ++
                  EventLog.ofSession es id) := by
  induction es using List.reverseRecOn with
  | nil => exact ⟨w.log, rfl, fun id => (if_pos rfl).symm⟩
  | append_singleton es e ih =>
      rw [List.forall_mem_append] at hNamed
      rcases ih hNamed.1 with ⟨log, hRun, hStreams⟩
      have hKept :=
        (grows_run w (es.map Operation.append)).paired hPaired
      rw [hRun] at hKept
      have hNext := (EventLog.append_named hKept w.now
        (hNamed.2 e List.mem_cons_self)).2
      refine ⟨(log.append w.now e).2, ?_, ?_⟩
      · rw [List.map_append, run_append, hRun]
        rfl
      · intro id
        rw [hNext, EventLog.ofSession, List.filter_append,
          ← EventLog.ofSession]
        by_cases hOwn : id = e.sessionId
        · -- The stream is there now, if it was not before.
          have hSelf :
              ([e].filter fun a => a.sessionId == id) =
                [e] := by
            simp [hOwn]
          rw [hSelf, if_pos hOwn, if_neg (by simp), ← hOwn,
            EventLog.stream, hStreams]
          split
          · rename_i hNone
            rw [hNone, List.nil_append]
            rfl
          · rw [Option.getD_some, List.append_assoc]
        · have hOther :
              ([e].filter fun a => a.sessionId == id) = [] := by
            simp [Ne.symm hOwn]
          rw [hOther, List.append_nil, if_neg hOwn, hStreams]

/- So each of their sessions reads what came for it. -/
theorem stream_run_append
    {w : Workspace}
    (hPaired : w.log.Paired)
    {es : List Event}
    (hNamed : ∀ e ∈ es, e.sessionId.isEmpty = false)
    (id : String) :
    (w.run (es.map Operation.append)).log.stream id =
      w.log.stream id ++ EventLog.ofSession es id := by
  rcases exists_run_append_eq hPaired hNamed with
    ⟨log, hRun, hStreams⟩
  rw [hRun, EventLog.stream, hStreams]
  split
  · rename_i hNone
    rw [hNone, List.append_nil]
    rfl
  · rfl

/- Only loading again changes what is loaded. -/
theorem loaded_perform
    (w : Workspace)
    {op : Operation}
    (hOther : op ≠ .reload) :
    (w.perform op).loaded = w.loaded := by
  cases op with
  | reload => exact absurd rfl hOther
  | analyze sessionId => exact (analyze_log w sessionId).2
  | startSession userId id => rfl
  | append e => rfl
  | upsert d => rfl
  | delete id => rfl
  | refuse fault => rfl

/- So a run without that goes by the same definitions. -/
theorem loaded_run
    (w : Workspace)
    {ops : List Operation}
    (hOther : Operation.reload ∉ ops) :
    (w.run ops).loaded = w.loaded := by
  induction ops generalizing w with
  | nil => rfl
  | cons op ops ih =>
      rw [List.mem_cons, not_or] at hOther
      exact (ih (w.perform op) hOther.2).trans
        (loaded_perform w (Ne.symm hOther.1))

/- Valid definitions are all that an operation leaves loaded. -/
theorem allValid_perform
    {w : Workspace}
    (hValid : w.AllValid)
    (op : Operation) :
    (w.perform op).AllValid := by
  cases op with
  | reload => exact allValid_reload w
  | analyze sessionId =>
      rw [perform, AllValid, (analyze_log w sessionId).2]
      exact hValid
  | startSession userId id => exact hValid
  | append e => exact hValid
  | upsert d => exact hValid
  | delete id => exact hValid
  | refuse fault => exact hValid

/- And all that a run leaves loaded. -/
theorem allValid_run
    {w : Workspace}
    (hValid : w.AllValid)
    (ops : List Operation) :
    (w.run ops).AllValid := by
  induction ops generalizing w with
  | nil => exact hValid
  | cons op ops ih => exact ih (allValid_perform hValid op)

end Workspace

end TraceMining

------------------------------------------------------------
-- What Can Be Reached
------------------------------------------------------------

namespace TraceMining

namespace Workspace

/- A stream holds events that arrived for its session. -/
theorem stream_run_ofCatalog
    (catalog : Catalog)
    (now : Int)
    (version : String)
    (ops : List Operation)
    (sessionId : String) :
    (((ofCatalog catalog now version).run ops).log.stream
        sessionId).Sublist (arrivals ops) ∧
      ∀ e ∈ ((ofCatalog catalog now version).run ops).log.stream
        sessionId, e.sessionId = sessionId := by
  rcases (grows_run (ofCatalog catalog now version)
      ops).exists_stream_eq (fun _ => rfl) sessionId with
    ⟨more, hStream, hArrived, hOwn⟩
  have hEmpty :
      (ofCatalog catalog now version).log.stream sessionId =
        [] := rfl
  rw [hStream, hEmpty, List.nil_append]
  exact ⟨hArrived, hOwn⟩

/- Events that arrive with different identities keep them. -/
theorem nodup_ids_listEvents
    (catalog : Catalog)
    (now : Int)
    (version : String)
    {ops : List Operation}
    (hIds : ((arrivals ops).map Event.id).Nodup)
    (sessionId : String) :
    ((((ofCatalog catalog now version).run
      ops).log.listEvents sessionId).map Event.id).Nodup :=
  EventLog.nodup_ids_byTime
    (hIds.sublist
      ((stream_run_ofCatalog catalog now version ops
        sessionId).1.map Event.id))

namespace Reachable

variable {w : Workspace}

/- Loaded definitions can be matched. -/
theorem allValid
    (hReachable : w.Reachable) :
    w.AllValid := by
  rcases hReachable with ⟨catalog, now, version, ops, rfl⟩
  exact allValid_run (allValid_reload _) ops

/- Sessions and streams go together. -/
theorem paired
    (hReachable : w.Reachable) :
    w.log.Paired := by
  rcases hReachable with ⟨catalog, now, version, ops, rfl⟩
  exact (grows_run _ ops).paired fun _ => rfl

/- The events that are read belong to the session. -/
theorem sessionId_eq
    (hReachable : w.Reachable)
    {sessionId : String}
    {e : Event}
    (hMember : e ∈ w.log.listEvents sessionId) :
    e.sessionId = sessionId := by
  rcases hReachable with ⟨catalog, now, version, ops, rfl⟩
  exact (stream_run_ofCatalog catalog now version ops
    sessionId).2 e (List.mem_mergeSort.mp hMember)

end Reachable

end Workspace

end TraceMining

------------------------------------------------------------
-- Pairs of Events
------------------------------------------------------------

namespace TraceMining

namespace Workspace

/- A workspace that looks for pairs. -/
def forPairs
    (timeout : Int) : Workspace :=
  ofCatalog (Catalog.ofList [Definition.pair timeout]) 0 "1"

/- Pairs are what it has loaded. -/
theorem loaded_forPairs
    {timeout : Int}
    (hTimeout : 0 ≤ timeout) :
    (forPairs timeout).loaded = [Definition.pair timeout] := by
  have hValid := Definition.pair_isValid hTimeout
  simp only [forPairs, ofCatalog, reload, Catalog.loadable]
  exact List.filter_cons_of_pos hValid

/- They stay so until something else is loaded. -/
theorem loaded_run_forPairs
    {timeout : Int}
    (hTimeout : 0 ≤ timeout)
    {ops : List Operation}
    (hOther : Operation.reload ∉ ops) :
    ((forPairs timeout).run ops).loaded =
      [Definition.pair timeout] :=
  (loaded_run _ hOther).trans (loaded_forPairs hTimeout)

/- It can be reached, and so can what follows. -/
theorem reachable_run_forPairs
    (timeout : Int)
    (ops : List Operation) :
    ((forPairs timeout).run ops).Reachable :=
  ⟨_, _, _, ops, rfl⟩

/- Two events in a row are matched if they are in time. -/
theorem matched_pair
    {timeout : Int}
    (hTimeout : 0 ≤ timeout)
    {a b : Event}
    (hTime : b.timestamp ≤ a.timestamp + timeout)
    (es : List Event) :
    matched [Definition.pair timeout] (a :: b :: es) =
      (Definition.pair timeout, [a, b]) ::
        matched [Definition.pair timeout] es := by
  simp only [matched, List.flatMap_cons, List.flatMap_nil,
    List.append_nil,
    Definition.matchedEvents_pair hTimeout hTime,
    List.map_cons]

/- The only match among two ticks is the pair of them. -/
theorem matched_ticks
    {timeout gap : Int}
    (hTimeout : 0 ≤ timeout)
    (hGap : gap ≤ timeout) :
    matched [Definition.pair timeout] (Event.ticks gap) =
      [(Definition.pair timeout, Event.ticks gap)] := by
  have hTime :
      (Event.tick "b" gap).timestamp ≤
        (Event.tick "a" 0).timestamp + timeout := by
    simp only [Event.tick]
    omega
  exact matched_pair hTimeout hTime []

end Workspace

end TraceMining
