import PolicyOS.Runtime.Persistence.LifecycleSystem

/-!
# Evidence of outcomes

A revision that reports an outcome should have been appended with what reports it:
the adapter's result for the attempt under delivery, or the observation that
confirmed an ambiguous one. An append is checked for the identifiers and the effect
of its evidence only, and the record it says it follows is compared with the head
by its identifiers. A run's outcomes match their evidence exactly when each append
it commits sees to that itself.
-/

namespace PolicyOS.Runtime

/-- The certainty a reported status stands for. -/
def RuntimeEffectLifecycleStatus.certainty :
    RuntimeEffectLifecycleStatus → Option RuntimeEffectDeliveryCertainty
  | .delivered => some .delivered
  | .ambiguous => some .ambiguous
  | _ => none

/-- The observation a revision was appended with. -/
def RuntimeEffectLifecycleRevision.observation (row : RuntimeEffectLifecycleRevision) :
    Option RuntimeEffectReconciliationObservation :=
  match row.writeRequestPayload with
  | .initial _ => none
  | .lifecycle request => request.reconciliationObservation

/-- One revision reports, with this certainty, the result of the attempt that the one
before it delivers. -/
structure ReportsResult (certainty : RuntimeEffectDeliveryCertainty)
    (earlier later : RuntimeEffectLifecycleRevision) : Prop where
  delivering : earlier.lifecycleStatus = .delivering
  attempt : later.lifecycleRecordPayload.runtimeEffectDeliveryAttemptId =
    earlier.lifecycleRecordPayload.runtimeEffectDeliveryAttemptId
  result : ∃ result ∈ later.resultPayload, result.certainty = certainty ∧
    earlier.lifecycleRecordPayload.runtimeEffectDeliveryAttemptId =
      some result.runtimeEffectDeliveryAttemptId

instance (certainty : RuntimeEffectDeliveryCertainty)
    (earlier later : RuntimeEffectLifecycleRevision) :
    Decidable (ReportsResult certainty earlier later) :=
  decidable_of_iff (_ ∧ _ ∧ ∃ result ∈ later.resultPayload, _ ∧ _)
    ⟨fun ⟨delivering, attempt, result⟩ => ⟨delivering, attempt, result⟩,
      fun reports => ⟨reports.delivering, reports.attempt, reports.result⟩⟩

/-- One revision reports that a reconciliation confirmed the delivery of the ambiguous
attempt before it. -/
structure ReportsReconciliation (earlier later : RuntimeEffectLifecycleRevision) : Prop where
  ambiguous : earlier.lifecycleStatus = .ambiguous
  attempt : later.lifecycleRecordPayload.runtimeEffectDeliveryAttemptId =
    earlier.lifecycleRecordPayload.runtimeEffectDeliveryAttemptId
  observation : ∃ observation ∈ later.observation, observation.outcome = .confirmedDelivered ∧
    observation.runtimeEffectId = later.runtimeEffectId

instance (earlier later : RuntimeEffectLifecycleRevision) :
    Decidable (ReportsReconciliation earlier later) :=
  decidable_of_iff (_ ∧ _ ∧ ∃ observation ∈ later.observation, _ ∧ _)
    ⟨fun ⟨ambiguous, attempt, observation⟩ => ⟨ambiguous, attempt, observation⟩,
      fun reports => ⟨reports.ambiguous, reports.attempt, reports.observation⟩⟩

/-- What one revision reports of the one before it matches its evidence. -/
structure OutcomeMatches (earlier later : RuntimeEffectLifecycleRevision) : Prop where
  delivered : later.lifecycleStatus = .delivered →
    ReportsResult .delivered earlier later ∨ ReportsReconciliation earlier later
  ambiguous : later.lifecycleStatus = .ambiguous → ReportsResult .ambiguous earlier later

instance (earlier later : RuntimeEffectLifecycleRevision) :
    Decidable (OutcomeMatches earlier later) :=
  decidable_of_iff
    ((later.lifecycleStatus = .delivered →
        ReportsResult .delivered earlier later ∨ ReportsReconciliation earlier later) ∧
      (later.lifecycleStatus = .ambiguous → ReportsResult .ambiguous earlier later))
    ⟨fun ⟨delivered, ambiguous⟩ => ⟨delivered, ambiguous⟩,
      fun matched => ⟨matched.delivered, matched.ambiguous⟩⟩

/-- Every revision follows another of its effect back to its enqueue, and reports only
outcomes that match their evidence. -/
structure OutcomesMatch (store : RuntimeEffectStore) : Prop where
  owned : ∀ row ∈ store.revisions, ∃ head ∈ store.heads, head.key = row.key
  enqueued : ∀ head ∈ store.heads, ∃ first, (store.revisionsOf head.key).head? = some first ∧
    first.lifecycleStatus = .enqueued
  linked : ∀ head ∈ store.heads, (store.revisionsOf head.key).IsChain LinksTo
  reported : ∀ head ∈ store.heads, (store.revisionsOf head.key).IsChain OutcomeMatches

/-- An append reports an outcome on a head whose status allows it and of the attempt
that the head shows: under delivery, by a result of that attempt with the certainty of
the outcome; once it is ambiguous, by an observation that confirmed it. -/
def reportsOutcome (head : RuntimeEffectLifecycleHead) : RuntimeEffectLifecycleRequest → Prop
  | .claim _ => True
  | .append request =>
      let current := request.append.lifecycleRecord
      let attempted := head.currentLifecyclePayload.runtimeEffectDeliveryAttemptId
      current.status ∈ [.delivered, .ambiguous] →
        current.status ∈ head.currentStatus.allowedSuccessors ∧
        current.runtimeEffectDeliveryAttemptId = attempted ∧
        (head.currentStatus = .delivering → ∀ result ∈ request.append.result,
          current.status.certainty = some result.certainty ∧
          attempted = some result.runtimeEffectDeliveryAttemptId) ∧
        (head.currentStatus = .ambiguous →
          ∃ observation ∈ request.append.reconciliationObservation,
            observation.outcome = .confirmedDelivered)

instance (head : RuntimeEffectLifecycleHead) (request : RuntimeEffectLifecycleRequest) :
    Decidable (reportsOutcome head request) :=
  match request with
  | .claim _ => inferInstanceAs (Decidable True)
  | .append _ => inferInstanceAs (Decidable (_ → _ ∧ _ ∧ (_ → _) ∧ (_ → _)))

/-- A claim request reports no outcome. -/
theorem OutcomeMatches.of_claim {request : RuntimeEffectClaimRequest}
    (valid : validateRuntimeEffectClaimRequest request = .ok ())
    (last : RuntimeEffectLifecycleRevision) :
    OutcomeMatches last (revisionOf (.claim request) request.requestedAt) := by
  have status : (revisionOf (.claim request) request.requestedAt).lifecycleStatus = .claimed :=
    (ClaimRequestBound.of_validate valid).status
  constructor
  · intro delivered
    rw [status] at delivered
    cases delivered
  · intro ambiguous
    rw [status] at ambiguous
    cases ambiguous

theorem AppendRequestBound.result_supplied {request : RuntimeEffectLifecycleAppendRequest}
    (bound : AppendRequestBound request)
    (reported : request.append.lifecycleRecord.status ∈
      [RuntimeEffectLifecycleStatus.delivered, .ambiguous]) :
    ∃ result, request.append.result = some result := by
  have required : .result ∈ request.append.lifecycleRecord.status.requiredEvidence := by
    rcases List.mem_pair.mp reported with status | status <;> rw [status] <;> decide
  obtain ⟨result, supplied, _⟩ :=
    bound.resultEvidence.supplied (request.append.lifecycleRecord.resultEvidence.1 required)
  exact ⟨result, supplied⟩

theorem delivered_mem_allowedSuccessors_iff {status : RuntimeEffectLifecycleStatus} :
    .delivered ∈ status.allowedSuccessors ↔ status = .delivering ∨ status = .ambiguous := by
  cases status <;> decide

theorem ambiguous_mem_allowedSuccessors_iff {status : RuntimeEffectLifecycleStatus} :
    .ambiguous ∈ status.allowedSuccessors ↔ status = .delivering := by
  cases status <;> decide

section Append

variable {request : RuntimeEffectLifecycleAppendRequest} {last : RuntimeEffectLifecycleRevision}
  {head : RuntimeEffectLifecycleHead}

/-- An append that reports the result of an attempt sees to its evidence. -/
theorem ReportsResult.reportsOutcome {certainty : RuntimeEffectDeliveryCertainty}
    (reports : ReportsResult certainty last (revisionOf (.append request) request.requestedAt))
    (shown : Represents head last)
    (stands : request.append.lifecycleRecord.status.certainty = some certainty) :
    Runtime.reportsOutcome head (.append request) := by
  obtain ⟨result, isResult, sameCertainty, attempted⟩ := reports.result
  intro reported
  rw [← shown.status, ← shown.payload, reports.delivering]
  refine ⟨?_, reports.attempt, ?_, nofun⟩
  · rcases List.mem_pair.mp reported with status | status <;> rw [status] <;> decide
  · intro _ other isOther
    obtain rfl : result = other := Option.mem_unique isResult isOther
    exact ⟨sameCertainty ▸ stands, attempted⟩

theorem ReportsReconciliation.reportsOutcome
    (reports : ReportsReconciliation last (revisionOf (.append request) request.requestedAt))
    (shown : Represents head last)
    (delivered : request.append.lifecycleRecord.status = .delivered) :
    Runtime.reportsOutcome head (.append request) := by
  obtain ⟨observation, isObservation, confirmed, _⟩ := reports.observation
  intro _
  rw [← shown.status, ← shown.payload, reports.ambiguous, delivered]
  exact ⟨by decide, reports.attempt, nofun, fun _ => ⟨observation, isObservation, confirmed⟩⟩

/-- An append onto an attempt under delivery that sees to its evidence reports the
result of the attempt. -/
theorem reportsResult_of_reportsOutcome (bound : AppendRequestBound request)
    (governed : reportsOutcome head (.append request)) (shown : Represents head last)
    {certainty : RuntimeEffectDeliveryCertainty}
    (reported : request.append.lifecycleRecord.status ∈
      [RuntimeEffectLifecycleStatus.delivered, .ambiguous])
    (stands : request.append.lifecycleRecord.status.certainty = some certainty)
    (delivering : last.lifecycleStatus = .delivering) :
    ReportsResult certainty last (revisionOf (.append request) request.requestedAt) := by
  obtain ⟨_, attempt, results, _⟩ := governed reported
  obtain ⟨result, supplied⟩ := bound.result_supplied reported
  obtain ⟨certain, attempted⟩ := results (shown.status.symm.trans delivering) result supplied
  rw [← shown.payload] at attempt attempted
  exact ⟨delivering, attempt, result, supplied, Option.some.inj (certain.symm.trans stands),
    attempted⟩

/-- An append onto an ambiguous attempt that sees to its evidence reports what
confirmed it. -/
theorem reportsReconciliation_of_reportsOutcome (bound : AppendRequestBound request)
    (governed : reportsOutcome head (.append request)) (shown : Represents head last)
    (reported : request.append.lifecycleRecord.status ∈
      [RuntimeEffectLifecycleStatus.delivered, .ambiguous])
    (ambiguous : last.lifecycleStatus = .ambiguous) :
    ReportsReconciliation last (revisionOf (.append request) request.requestedAt) := by
  obtain ⟨_, attempt, _, observations⟩ := governed reported
  obtain ⟨observation, supplied, confirmed⟩ :=
    observations (shown.status.symm.trans ambiguous)
  rw [← shown.payload] at attempt
  exact ⟨ambiguous, attempt, observation, supplied, confirmed,
    bound.observationEvidence.fact_effect supplied⟩

end Append

/-- A commit's report matches its evidence exactly when the append sees to that. -/
theorem outcomeMatches_commit_iff : CharacterisedBy reportsOutcome OutcomeMatches := by
  intro head request last valid _ shown
  cases request with
  | claim request => exact ⟨fun _ => trivial, fun _ => .of_claim valid last⟩
  | append request =>
      have bound := AppendRequestBound.of_validate valid
      constructor
      · intro matched reported
        rcases List.mem_pair.mp reported with delivered | ambiguous
        · rcases matched.delivered delivered with reports | reports
          · exact reports.reportsOutcome shown (by rw [delivered]; rfl) reported
          · exact reports.reportsOutcome shown delivered reported
        · exact (matched.ambiguous ambiguous).reportsOutcome shown (by rw [ambiguous]; rfl) reported
      · intro governed
        constructor
        · intro (delivered : request.append.lifecycleRecord.status = .delivered)
          have reported : request.append.lifecycleRecord.status ∈
              [RuntimeEffectLifecycleStatus.delivered, .ambiguous] := by
            simp [delivered]
          have allowed := (governed reported).1
          rw [delivered, ← shown.status, delivered_mem_allowedSuccessors_iff] at allowed
          rcases allowed with delivering | ambiguous
          · exact .inl (reportsResult_of_reportsOutcome bound governed shown reported
              (congrArg RuntimeEffectLifecycleStatus.certainty delivered) delivering)
          · exact .inr (reportsReconciliation_of_reportsOutcome bound governed shown reported
              ambiguous)
        · intro (ambiguous : request.append.lifecycleRecord.status = .ambiguous)
          have reported : request.append.lifecycleRecord.status ∈
              [RuntimeEffectLifecycleStatus.delivered, .ambiguous] := by
            simp [ambiguous]
          have allowed := (governed reported).1
          rw [ambiguous, ← shown.status, ambiguous_mem_allowedSuccessors_iff] at allowed
          exact reportsResult_of_reportsOutcome bound governed shown reported
            (congrArg RuntimeEffectLifecycleStatus.certainty ambiguous) allowed

/-- The outcomes of a run match their evidence exactly when each append it commits sees
to that. -/
theorem outcomesMatch_iff {state : LifecycleState} {events : List LifecycleEvent}
    (steps : lifecycleSystem.Steps {} events state) :
    OutcomesMatch state.store ↔ (guardedLifecycle reportsOutcome).Steps {} events state := by
  rw [← chainsRelated_iff outcomeMatches_commit_iff steps]
  have logs := logsKept_of_steps steps
  refine ⟨fun matched => matched.reported, fun reported => ⟨logs.homes, ?_, ?_, reported⟩⟩
  · intro head stored
    obtain ⟨first, starts, origin⟩ := (logs.logs head stored).log.origin
    exact ⟨first, starts, origin.status⟩
  · intro head stored
    exact (logs.logs head stored).log.linked

namespace Sample

theorem boundedOutcome_delivered : boundedDeliveryOutcome .delivered (some "result")
    (some "result-digest") (some "ack") (some "ack-digest") none none := by
  decide

/-- What the adapter acknowledged for the first attempt. -/
def deliveredResult : RuntimeEffectDeliveryResult where
  runtimeEffectDeliveryResultId := 101
  runtimeEffectId := 3
  runtimeEffectDeliveryAttemptId := 81
  certainty := .delivered
  adapterReference := "desk-adapter"
  adapterContractVersion := "1"
  resultReference := some "result"
  resultDigestReference := some "result-digest"
  acknowledgementReference := some "ack"
  acknowledgementDigestReference := some "ack-digest"
  startedAt := 11
  completedAt := 12
  resultFactDigestReference := "result-fact"
  boundedOutcome := boundedOutcome_delivered

/-- What the adapter could not tell of the first attempt. -/
def undeterminedResult : RuntimeEffectDeliveryResult where
  runtimeEffectDeliveryResultId := 101
  runtimeEffectId := 3
  runtimeEffectDeliveryAttemptId := 81
  certainty := .ambiguous
  adapterReference := "desk-adapter"
  adapterContractVersion := "1"
  failureCode := some .timeout
  failureReference := some "no answer"
  startedAt := 11
  completedAt := 12
  resultFactDigestReference := "result-fact"

/-- The revision that reports a delivery. -/
def deliveredRecord : RuntimeEffectLifecycleRecord where
  runtimeEffectLifecycleRecordId := 34
  runtimeEffectId := 3
  lifecycleRevision := .nearest 4
  status := .delivered
  previousLifecycleRecordId := some 33
  previousLifecycleDigestReference := some "revision-3"
  runtimeEffectDeliveryAttemptId := some 81
  runtimeEffectDeliveryResultId := some 101
  recordedAt := 12
  lifecycleDigestReference := "revision-4"

/-- The append call that reports a delivery with this result. -/
def deliveredRequest (result : RuntimeEffectDeliveryResult) : RuntimeEffectLifecycleRequest :=
  .append
    { runtimeEffectLifecycleAppendRequestId := 63
      contractVersion := contractVersion
      append :=
        { effectIdentity := identity
          previousLifecycleRecord := deliveringRecord
          lifecycleRecord := deliveredRecord
          attempt := some attempt
          result := some result
          receiptFact := receiptFact 54 deliveredRecord }
      clockReference := "clock"
      requestedAt := 12 }

/-- The effect is under delivery and its delivery is reported with this result. -/
def deliveredRun (result : RuntimeEffectDeliveryResult) : List LifecycleEvent :=
  deliveringRun ++ call 2 (deliveredRequest result)

end Sample

/-- The sample run reports the delivery that the adapter acknowledged. -/
theorem outcomesMatch_iff_delivered :
    ∃ state, LifecycleState.run reportsOutcome {} (Sample.deliveredRun Sample.deliveredResult) =
        some state ∧ OutcomesMatch state.store := by
  have ran : (LifecycleState.run reportsOutcome {}
      (Sample.deliveredRun Sample.deliveredResult)).isSome := by decide
  have steps := steps_of_run (Option.some_get ran).symm
  exact ⟨_, (Option.some_get ran).symm, (outcomesMatch_iff steps.of_restrict).mpr steps⟩

/-- A delivery is reported with the result of an attempt whose delivery is not known. -/
theorem outcome_unsupported :
    ∃ state, lifecycleSystem.Reachable state ∧
      LifecycleState.run (fun _ _ => True) {} (Sample.deliveredRun Sample.undeterminedResult) =
        some state ∧
      ¬ OutcomesMatch state.store := by
  have ran : (LifecycleState.run (fun _ _ => True) {}
      (Sample.deliveredRun Sample.undeterminedResult)).isSome := by decide
  have broken : ¬ ChainsRelated OutcomeMatches ((LifecycleState.run (fun _ _ => True) {}
      (Sample.deliveredRun Sample.undeterminedResult)).get ran).store := by
    unfold ChainsRelated
    decide +revert
  exact ⟨_, (reachable_of_run ran).of_restrict, (Option.some_get ran).symm,
    fun matched => broken matched.reported⟩

end PolicyOS.Runtime
