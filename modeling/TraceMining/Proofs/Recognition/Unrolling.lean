import TraceMining.Proofs.Recognition.Optimality
import TraceMining.Proofs.Rule.Grammar
import TraceMining.Proofs.Store.Table

/-
  This file shows that asking for several events is asking
  for one event several times over.  An attempt depends on
  nothing but the rules that are owed, one for each event, and
  these are the same when a step that repeats is written out;
  so the same matches are found, and the patterns differ in
  their scores at most.

  Key definitions include:
    * `Rule.unrolled`
    * `Definition.unrolled`
    * `Pattern.Agrees`

  Key theorems include:
    * `Matching.collect_congr`
    * `Definition.claims_unrolled`
    * `Definition.matchedEvents_unrolled`
    * `Definition.toPattern_agrees`
    * `Definition.findMatches_unrolled`
-/

------------------------------------------------------------
-- Steps Written Out
------------------------------------------------------------

namespace TraceMining

namespace Rule

/- A step that says nothing of how many events it takes. -/
def single
    (r : Rule) : Rule :=
  ⟨Entries.erase r.fields "minOccurrences"⟩

/- A step, once for each event if it asks for a number. -/
def unrolled
    (r : Rule) : List Rule :=
  match r.fields.get? "minOccurrences" with
  | some (.int n) => List.replicate n.toNat r.single
  | _ => [r]

variable {r : Rule}

/- All other entries are those of the step. -/
theorem get?_single
    {key : String}
    (hKey : key ≠ "minOccurrences") :
    r.single.fields.get? key = r.fields.get? key :=
  Entries.get?_erase_of_ne r.fields hKey

/- There is no number of events. -/
theorem get?_single_self :
    r.single.fields.get? "minOccurrences" = none :=
  Entries.get?_erase_self r.fields "minOccurrences"

/- The constraints are the same. -/
theorem constraints_single :
    r.single.constraints = r.constraints := by
  unfold constraints single Entries.erase
  rw [List.filter_filter]
  apply List.filter_congr
  intro e _
  by_cases hKey : e.1 = "minOccurrences"
  · simp [hKey, reserved]
  · simp [hKey]

/- The step accepts the same events. -/
theorem accepts_single :
    r.single.accepts = r.accepts := by
  funext e
  unfold accepts acceptsType Fields.getD
  rw [constraints_single, get?_single (by decide)]

/- It takes one event. -/
theorem repetitions_single :
    r.single.repetitions = 1 := by
  unfold repetitions minOccurrences occurrences Fields.getD
  rw [get?_single_self]
  rfl

/- It is sound if the step is. -/
theorem IsSound.single
    (hSound : r.IsSound) :
    r.single.IsSound where
  type := by
    rw [get?_single (by decide)]
    exact hSound.type
  count := by
    rw [get?_single_self]
    simp
  constraints := by
    rw [constraints_single]
    exact hSound.constraints

/- So are the steps that are written out. -/
theorem IsSound.unrolled
    (hSound : r.IsSound) :
    ∀ s ∈ r.unrolled, s.IsSound := by
  intro s hMember
  unfold Rule.unrolled at hMember
  split at hMember
  · rw [List.eq_of_mem_replicate hMember]
    exact hSound.single
  · rw [List.mem_singleton.mp hMember]
    exact hSound

/- A sound step that asks for a number is repeated so often. -/
theorem IsSound.repetitions_eq
    (hSound : r.IsSound)
    {n : Int}
    (hCount :
      r.fields.get? "minOccurrences" = some (.int n)) :
    1 ≤ n ∧ r.repetitions = n.toNat := by
  rcases hSound.count _ hCount with hNull | ⟨m, hInt, hLarge⟩
  · cases hNull
  · cases hInt
    refine ⟨hLarge, ?_⟩
    -- Of all integers only zero is read as no number at all.
    have hTruthy : (Value.int n).isTruthy = true := by
      simp only [Value.isTruthy, bne_iff_ne]
      omega
    have hSame : r.minOccurrences = n := by
      unfold minOccurrences occurrences Fields.getD
      rw [hCount, Option.getD_some]
      simp only [hTruthy, if_true]
    have hFault : r.fault? 0 = none :=
      fault?_eq_none_iff.mpr hSound
    rw [Rule.repetitions_eq hFault]
    exact congrArg Int.toNat hSame

/- Something is written out of a sound step. -/
theorem IsSound.unrolled_ne_nil
    (hSound : r.IsSound) :
    r.unrolled ≠ [] := by
  unfold Rule.unrolled
  split
  · rename_i n hCount
    have hLarge := (hSound.repetitions_eq hCount).1
    rw [Ne, List.replicate_eq_nil_iff]
    omega
  · exact List.cons_ne_nil r []

end Rule

end TraceMining

------------------------------------------------------------
-- Claims
------------------------------------------------------------

namespace TraceMining

namespace Matching

/- Which events are asked for, one test for each of them. -/
def claims
    (qs : List Quota) : List (Event → Bool) :=
  (owed qs).map Rule.accepts

/- The first claim is that of the step at hand. -/
theorem claims_cons
    (q : Quota)
    (qs : List Quota) :
    claims (q :: qs) = q.rule.accepts :: claims (q.taken qs) := by
  unfold claims
  rw [owed_cons, List.map_cons]

/- Where something is claimed there is a step at hand. -/
theorem exists_cons_of_claims
    {qs : List Quota}
    {p : Quota}
    {ps : List Quota}
    (hClaims : claims qs = claims (p :: ps)) :
    ∃ q rest,
      qs = q :: rest ∧ q.rule.accepts = p.rule.accepts ∧
        claims (q.taken rest) = claims (p.taken ps) := by
  cases qs with
  | nil =>
      rw [claims_cons] at hClaims
      cases hClaims
  | cons q rest =>
      rw [claims_cons, claims_cons, List.cons.injEq]
        at hClaims
      exact ⟨q, rest, rfl, hClaims.1, hClaims.2⟩

/- Where nothing is claimed there is none. -/
theorem eq_nil_of_claims
    {qs : List Quota}
    (hClaims : claims qs = claims []) :
    qs = [] := by
  cases qs with
  | nil => rfl
  | cons q rest =>
      rw [claims_cons] at hClaims
      cases hClaims

/- Collecting depends on the claims alone. -/
theorem collect_congr
    (deadline : Int)
    (es : List Event)
    {qs ps : List Quota}
    (hClaims : claims qs = claims ps) :
    collect deadline es qs = collect deadline es ps := by
  induction es generalizing qs ps with
  | nil =>
      cases ps with
      | nil => rw [eq_nil_of_claims hClaims]
      | cons p ps =>
          rcases exists_cons_of_claims hClaims with
            ⟨q, rest, rfl, _⟩
          rfl
  | cons e es ih =>
      cases ps with
      | nil => rw [eq_nil_of_claims hClaims]
      | cons p ps =>
          rcases exists_cons_of_claims hClaims with
            ⟨q, rest, rfl, hFirst, hRest⟩
          by_cases hLate : deadline < e.timestamp
          · rw [collect_late hLate, collect_late hLate]
          · by_cases hAccepts : p.rule.accepts e = true
            · rw [collect_accept hLate hAccepts, ← ih hRest]
              rw [← hFirst] at hAccepts
              exact collect_accept hLate hAccepts
            · rw [collect_reject hLate hAccepts,
                ← ih hClaims]
              rw [← hFirst] at hAccepts
              exact collect_reject hLate hAccepts

/- A scan depends on its attempts alone. -/
theorem scan_congr
    {steps others : List Rule}
    {timeout : Int}
    (hAttempt :
      ∀ es, attempt steps timeout es = attempt others timeout es)
    (skip : Nat)
    (es : List Event) :
    scan steps timeout skip es = scan others timeout skip es := by
  induction es generalizing skip with
  | nil => simp [scan]
  | cons e es ih =>
      cases skip with
      | succ skip => exact ih skip
      | zero =>
          rw [scan, scan, hAttempt]
          cases attempt others timeout (e :: es) with
          | none => exact ih 0
          | some m => exact congrArg (List.cons m) (ih _)

/- Steps claim each what they accept, as often as asked. -/
theorem claims_quotas
    (steps : List Rule) :
    claims (quotas steps) =
      steps.flatMap fun r =>
        List.replicate r.repetitions r.accepts := by
  unfold claims
  rw [owed_quotas, List.map_flatMap]
  simp only [List.map_replicate]

end Matching

namespace Rule

/- A sound step written out claims what the step does. -/
theorem IsSound.claims_unrolled
    {r : Rule}
    (hSound : r.IsSound) :
    (r.unrolled.flatMap fun s =>
        List.replicate s.repetitions s.accepts) =
      List.replicate r.repetitions r.accepts := by
  unfold Rule.unrolled
  split
  · rename_i n hCount
    rw [(hSound.repetitions_eq hCount).2,
      List.flatMap_replicate, repetitions_single,
      accepts_single, List.replicate_one,
      List.flatten_replicate_singleton]
  · rw [List.flatMap_singleton]

end Rule

end TraceMining

------------------------------------------------------------
-- Definitions Written Out
------------------------------------------------------------

namespace TraceMining

namespace Definition

/- A definition with every step written out. -/
def unrolled
    (d : Definition) : Definition :=
  { d with
    rules :=
      { d.rules with
        sequence := d.rules.sequence.flatMap Rule.unrolled } }

variable {d : Definition}

/- It is valid if the definition is. -/
theorem isValid_unrolled
    (hValid : d.isValid = true) :
    d.unrolled.isValid = true := by
  rw [isValid_iff] at hValid ⊢
  rcases hValid with ⟨hSteps, hWindow, hSound⟩
  refine ⟨?_, hWindow, ?_⟩
  · rcases List.exists_mem_of_ne_nil _ hSteps with ⟨r, hMember⟩
    intro hNone
    exact (hSound r hMember).unrolled_ne_nil
      (List.flatMap_eq_nil_iff.mp hNone r hMember)
  · intro s hMember
    rcases List.mem_flatMap.mp hMember with ⟨r, hStep, hOut⟩
    exact (hSound r hStep).unrolled s hOut

/- It claims the same. -/
theorem claims_unrolled
    (hValid : d.isValid = true) :
    Matching.claims
        (Matching.quotas d.unrolled.rules.sequence) =
      Matching.claims (Matching.quotas d.rules.sequence) := by
  rw [Matching.claims_quotas, Matching.claims_quotas,
    unrolled, List.flatMap_assoc]
  apply List.flatMap_congr
  intro r hMember
  exact ((isValid_iff.mp hValid).2.2 r hMember).claims_unrolled

/- So it has the same matches. -/
theorem matchedEvents_unrolled
    (hValid : d.isValid = true)
    (es : List Event) :
    d.unrolled.matchedEvents es = d.matchedEvents es := by
  unfold matchedEvents
  apply congrArg (List.map Matching.Match.events)
  apply Matching.scan_congr
  intro events
  cases events with
  | nil => rfl
  | cons e events =>
      exact Matching.collect_congr _ _ (claims_unrolled hValid)

end Definition

end TraceMining

------------------------------------------------------------
-- Patterns
------------------------------------------------------------

namespace TraceMining

/- Two patterns are the same but for their scores. -/
structure Pattern.Agrees
    (p q : Pattern) : Prop where
  id : p.id = q.id
  sessionId : p.sessionId = q.sessionId
  type : p.type = q.type
  startTime : p.startTime = q.startTime
  endTime : p.endTime = q.endTime
  eventIds : p.eventIds = q.eventIds
  metadata : p.metadata = q.metadata

namespace Definition

variable {d : Definition}
variable {es : List Event}

/- Every match has a mean interval if it has one so. -/
theorem hasMeans_unrolled_iff
    (hValid : d.isValid = true) :
    d.unrolled.HasMeans es ↔ d.HasMeans es := by
  unfold HasMeans
  rw [matchedEvents_unrolled hValid]

/- The patterns of a match differ in their scores at most. -/
theorem toPattern_agrees
    {found : List Event}
    {p q : Pattern}
    (hFirst : Matching.toPattern d.unrolled found = .ok p)
    (hSecond : Matching.toPattern d found = .ok q) :
    p.Agrees q := by
  rcases Matching.toPattern_fields hFirst with
    ⟨hEvents, hStart, hEnd, hMetadata⟩
  rcases Matching.toPattern_fields hSecond with
    ⟨hEvents', hStart', hEnd', hMetadata'⟩
  rcases Matching.toPattern_origin hFirst with
    ⟨_, hSession, hId⟩
  rcases Matching.toPattern_origin hSecond with
    ⟨_, hSession', hId'⟩
  have hSameEvents : p.eventIds = q.eventIds :=
    hEvents.trans hEvents'.symm
  have hSameSession : p.sessionId = q.sessionId :=
    hSession.trans hSession'.symm
  exact
    { id := by
        rw [hId, hId', hSameSession, hSameEvents]
        rfl
      sessionId := hSameSession
      type :=
        (Matching.toPattern_type hFirst).trans
          (Matching.toPattern_type hSecond).symm
      startTime := hStart.trans hStart'.symm
      endTime := hEnd.trans hEnd'.symm
      eventIds := hSameEvents
      metadata := hMetadata.trans hMetadata'.symm }

/- What both find are patterns that agree one by one. -/
theorem forall₂_agrees
    (hValid : d.isValid = true)
    {ps qs : List Pattern}
    (hFirst : d.unrolled.findMatches es = .ok ps)
    (hSecond : d.findMatches es = .ok qs) :
    List.Forall₂ Pattern.Agrees ps qs := by
  rw [findMatches_eq_ok_iff (isValid_unrolled hValid),
    matchedEvents_unrolled hValid] at hFirst
  rw [findMatches_eq_ok_iff hValid] at hSecond
  generalize d.matchedEvents es = found at hFirst hSecond
  induction hFirst generalizing qs with
  | nil =>
      rw [List.forall₂_nil_left_iff.mp hSecond]
      exact List.Forall₂.nil
  | cons hPattern _ ih =>
      rcases List.forall₂_cons_left_iff.mp hSecond with
        ⟨q, rest, hOther, hRest, rfl⟩
      exact List.Forall₂.cons
        (toPattern_agrees hPattern hOther) (ih hRest)

/-
  A valid definition and the same with every step written out
  find patterns that agree one by one, just if every match has
  a mean interval; otherwise both fail.
-/
theorem findMatches_unrolled
    (hValid : d.isValid = true)
    (es : List Event) :
    d.unrolled.isValid = true ∧
    ((∃ ps qs,
        d.unrolled.findMatches es = .ok ps ∧
          d.findMatches es = .ok qs ∧
            List.Forall₂ Pattern.Agrees ps qs) ↔
      d.HasMeans es) ∧
    (¬ d.HasMeans es →
      d.unrolled.findMatches es = .error .unboundedMean ∧
        d.findMatches es = .error .unboundedMean) ∧
    (Matching.InOrder es →
      d.rules.timeout < Binary.overflow → d.HasMeans es) := by
  have hUnrolled := isValid_unrolled hValid
  refine ⟨hUnrolled, ⟨?_, ?_⟩, ?_,
    hasMeans_of_timeout_lt hValid⟩
  · rintro ⟨ps, qs, _, hFound, _⟩
    exact (exists_findMatches_iff hValid).mp ⟨qs, hFound⟩
  · intro hMeans
    rcases (exists_findMatches_iff hValid).mpr hMeans with
      ⟨qs, hSecond⟩
    rcases (exists_findMatches_iff hUnrolled).mpr
        ((hasMeans_unrolled_iff hValid).mpr hMeans) with
      ⟨ps, hFirst⟩
    exact ⟨ps, qs, hFirst, hSecond,
      forall₂_agrees hValid hFirst hSecond⟩
  · intro hMeans
    have hOther :=
      mt (hasMeans_unrolled_iff hValid).mp hMeans
    exact ⟨findMatches_eq_error hUnrolled hOther,
      findMatches_eq_error hValid hMeans⟩

/- Any event, twice within some time. -/
def double
    (timeout : Int) : Definition :=
  { pair timeout with
    rules := ⟨[⟨[("minOccurrences", .int 2)]⟩], timeout⟩ }

/- It can be matched. -/
theorem double_isValid
    {timeout : Int}
    (hTimeout : 0 ≤ timeout) :
    (double timeout).isValid = true := by
  rw [isValid_iff]
  refine ⟨List.cons_ne_nil _ _, hTimeout, ?_⟩
  intro r hMember
  have hFault :
      Rule.fault? ⟨[("minOccurrences", .int 2)]⟩ 0 = none := by
    decide
  rw [List.mem_singleton.mp hMember]
  exact Rule.fault?_eq_none_iff.mp hFault

/- Written out, it is a pair. -/
theorem unrolled_double
    (timeout : Int) :
    (double timeout).unrolled = pair timeout :=
  rfl

/- Of three ticks both find the first two. -/
theorem findMatches_unrolled_double :
    ∃ ps qs,
      (pair 1000).findMatches
          (Event.ticks 500 ++ [Event.tick "c" 900]) = .ok ps ∧
        (double 1000).findMatches
            (Event.ticks 500 ++ [Event.tick "c" 900]) =
          .ok qs ∧
        List.Forall₂ Pattern.Agrees ps qs ∧ ps.length = 1 := by
  have hValid : (double 1000).isValid = true :=
    double_isValid (by decide)
  have hWindow : (1000 : Int) < Binary.overflow := by
    decide +kernel
  rcases findMatches_unrolled hValid
      (Event.ticks 500 ++ [Event.tick "c" 900]) with
    ⟨hPair, hFound, _, hMeans⟩
  rcases hFound.mpr (hMeans (by decide) hWindow) with
    ⟨ps, qs, hFirst, hSecond, hAgree⟩
  rw [unrolled_double] at hPair hFirst
  refine ⟨ps, qs, hFirst, hSecond, hAgree, ?_⟩
  rw [length_eq_of_findMatches hPair hFirst, Event.ticks,
    List.cons_append, List.cons_append,
    matchedEvents_pair (by decide) (by decide),
    List.nil_append,
    matchedEvents_pair_of_length_lt (by decide) (by decide)]
  rfl

/- A pair that is too far apart is found in neither way. -/
theorem not_findMatches_unrolled_double :
    (double Binary.overflow).isValid = true ∧
      ¬ ∃ ps qs,
        (double Binary.overflow).unrolled.findMatches
            (Event.ticks Binary.overflow) = .ok ps ∧
          (double Binary.overflow).findMatches
              (Event.ticks Binary.overflow) = .ok qs ∧
            List.Forall₂ Pattern.Agrees ps qs := by
  refine ⟨double_isValid (Int.natCast_nonneg _), ?_⟩
  rintro ⟨ps, qs, hFound, _⟩
  rw [unrolled_double,
    findMatches_pair_eq_error (Int.le_refl _)] at hFound
  cases hFound

end Definition

end TraceMining
