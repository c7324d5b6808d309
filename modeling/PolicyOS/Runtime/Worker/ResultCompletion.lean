import PolicyOS.Runtime.Orchestration.DeliveryGate
import PolicyOS.Runtime.Persistence.OutcomeEvidence
import PolicyOS.Runtime.Persistence.RetryScheduling
import PolicyOS.Runtime.Worker.Contracts

/-!
# Completion of results

A worker hands the adapter's result to a completion and appends what it returns. The
check of that append admits no retry decision and no dead letter, and never looks at
the result's certainty: whatever the adapter reported, a delivery may be appended, and
an ambiguous outcome, and nothing else.
-/

namespace PolicyOS.Runtime

open Foundation

/-- The statuses a certainty stands for. -/
def RuntimeEffectDeliveryCertainty.statuses :
    RuntimeEffectDeliveryCertainty → List RuntimeEffectLifecycleStatus
  | .delivered => [.delivered]
  | .ambiguous => [.ambiguous]
  | .definitelyNotDelivered => [.retryScheduled, .deadLettered]

/-- An accepted completion of a prepared delivery's result. -/
def Completes (prepared : RuntimeWorkerPreparedDelivery) (result : RuntimeEffectDeliveryResult)
    (request : RuntimeEffectLifecycleAppendRequest) : Prop :=
  validateRuntimeWorkerResultCompletion prepared result request = .ok ()

/-- A result can be completed, and only to a status its certainty stands for. -/
structure CompletesFaithfully (prepared : RuntimeWorkerPreparedDelivery)
    (result : RuntimeEffectDeliveryResult) : Prop where
  total : ∃ request, Completes prepared result request
  faithful : ∀ request, Completes prepared result request →
    request.append.lifecycleRecord.status ∈ result.certainty.statuses

variable {prepared : RuntimeWorkerPreparedDelivery} {result : RuntimeEffectDeliveryResult}
  {request : RuntimeEffectLifecycleAppendRequest}

/-! ## What is accepted -/

/-- An accepted completion reports a delivery or an ambiguous outcome, in a revision that
there is still room for. -/
theorem Completes.status (completes : Completes prepared result request)
    (delivering : prepared.deliveringAppendRequest.append.lifecycleRecord.status = .delivering) :
    request.append.lifecycleRecord.status ∈
        [RuntimeEffectLifecycleStatus.delivered, .ambiguous] ∧
      prepared.deliveringAppendRequest.append.lifecycleRecord.lifecycleRevision.val <
        1000000 := by
  simp only [Completes, validateRuntimeWorkerResultCompletion, bind_eq_ok_iff, exists_unit_iff,
    orConflict_eq_ok_iff, rejectIf_eq_ok_iff] at completes
  obtain ⟨_, _, append, binding⟩ := completes
  simp only [resultCompletionDiffers, not_or, not_not] at binding
  obtain ⟨_, _, _, previous, _, _, _, _, noRetry, noDeadLetter, _⟩ := binding
  have bound := AppendRequestBound.of_validate append
  have allowed := bound.successor.allowed
  rw [previous, delivering] at allowed
  -- A retry and a dead letter must refer to facts that the completion does not carry.
  have notRetried : request.append.lifecycleRecord.status ≠ .retryScheduled := by
    intro retried
    obtain ⟨_, supplied, _⟩ := bound.retryEvidence.supplied
      (request.append.lifecycleRecord.retryEvidence.1 (by rw [retried]; decide))
    exact absurd (noRetry.symm.trans supplied).symm (Option.some_ne_none _)
  have notBuried : request.append.lifecycleRecord.status ≠ .deadLettered := by
    intro buried
    obtain ⟨_, supplied, _⟩ := bound.deadLetterEvidence.supplied
      (request.append.lifecycleRecord.deadLetterEvidence.1 (by rw [buried]; decide))
    exact absurd (noDeadLetter.symm.trans supplied).symm (Option.some_ne_none _)
  refine ⟨?_, ?_⟩
  · simpa [RuntimeEffectLifecycleStatus.allowedSuccessors, notRetried, notBuried] using allowed
  · have follows := bound.successor.revision
    have bounded := request.append.lifecycleRecord.lifecycleRevision.property.2
    rw [previous] at follows
    omega

/-! ## What can be built -/

/-- The record that reports a result under one of the two statuses. -/
def completionRecord (prepared : RuntimeWorkerPreparedDelivery)
    (result : RuntimeEffectDeliveryResult) (status : RuntimeEffectLifecycleStatus)
    (reported : status ∈ [RuntimeEffectLifecycleStatus.delivered, .ambiguous])
    (room : prepared.deliveringAppendRequest.append.lifecycleRecord.lifecycleRevision.val <
      1000000) : RuntimeEffectLifecycleRecord where
  runtimeEffectLifecycleRecordId := 0
  runtimeEffectId := prepared.deliveringAppendRequest.append.lifecycleRecord.runtimeEffectId
  lifecycleRevision :=
    ⟨prepared.deliveringAppendRequest.append.lifecycleRecord.lifecycleRevision.val + 1,
      Nat.succ_pos _, room⟩
  status := status
  previousLifecycleRecordId :=
    some prepared.deliveringAppendRequest.append.lifecycleRecord.runtimeEffectLifecycleRecordId
  previousLifecycleDigestReference :=
    some prepared.deliveringAppendRequest.append.lifecycleRecord.lifecycleDigestReference
  runtimeEffectDeliveryAttemptId := some prepared.invocation.attempt.runtimeEffectDeliveryAttemptId
  runtimeEffectDeliveryResultId := some result.runtimeEffectDeliveryResultId
  recordedAt := prepared.deliveringAppendRequest.append.lifecycleRecord.recordedAt
  lifecycleDigestReference := "outcome"
  revisionOrigin := by
    refine ⟨fun first => ?_, fun _ => ⟨Option.some_ne_none _, Option.some_ne_none _⟩⟩
    have started :=
      prepared.deliveringAppendRequest.append.lifecycleRecord.lifecycleRevision.property.1
    simp only at first
    omega
  claimEvidence := by rcases List.mem_pair.mp reported with rfl | rfl <;> decide
  attemptEvidence := by rcases List.mem_pair.mp reported with rfl | rfl <;> simp <;> decide
  resultEvidence := by rcases List.mem_pair.mp reported with rfl | rfl <;> simp <;> decide
  retryEvidence := by rcases List.mem_pair.mp reported with rfl | rfl <;> decide
  observationEvidence := by rcases List.mem_pair.mp reported with rfl | rfl <;> decide
  deadLetterEvidence := by rcases List.mem_pair.mp reported with rfl | rfl <;> decide

/-- The append of that record. -/
def completionRequest (prepared : RuntimeWorkerPreparedDelivery)
    (result : RuntimeEffectDeliveryResult) (status : RuntimeEffectLifecycleStatus)
    (reported : status ∈ [RuntimeEffectLifecycleStatus.delivered, .ambiguous])
    (room : prepared.deliveringAppendRequest.append.lifecycleRecord.lifecycleRevision.val <
      1000000) : RuntimeEffectLifecycleAppendRequest :=
  let identity := prepared.request.candidate.effectIdentity
  let record := completionRecord prepared result status reported room
  { runtimeEffectLifecycleAppendRequestId := 0
    contractVersion := prepared.deliveringAppendRequest.contractVersion
    append :=
      { effectIdentity := identity
        previousLifecycleRecord := prepared.deliveringAppendRequest.append.lifecycleRecord
        lifecycleRecord := record
        attempt := some prepared.invocation.attempt
        result := some result
        receiptFact :=
          { runtimeEffectLifecycleReceiptId := 0
            runtimeEffectId := identity.runtimeEffectId
            runtimeEffectLifecycleRecordId := record.runtimeEffectLifecycleRecordId
            lifecycleRevision := record.lifecycleRevision
            lifecycleStatus := record.status
            lifecycleDigestReference := record.lifecycleDigestReference
            tenantId := identity.tenantId
            organizationId := identity.organizationId
            classification := identity.classification } }
    clockReference := prepared.deliveringAppendRequest.clockReference
    requestedAt := record.recordedAt }

/-- What a valid prepared delivery says of the effect its result is completed for. -/
structure CompletionGround (prepared : RuntimeWorkerPreparedDelivery) : Prop where
  delivering : prepared.deliveringAppendRequest.append.lifecycleRecord.status = .delivering
  effect : prepared.deliveringAppendRequest.append.lifecycleRecord.runtimeEffectId =
    prepared.request.candidate.effectIdentity.runtimeEffectId
  envelope : prepared.invocation.envelope.effectIdentity =
    prepared.request.candidate.effectIdentity
  attempt : prepared.invocation.attempt.runtimeEffectId =
    prepared.request.candidate.effectIdentity.runtimeEffectId

/-- A valid prepared delivery is of one effect. -/
theorem CompletionGround.of_validate
    (isPrepared : validateRuntimeWorkerPreparedDelivery prepared.request prepared = .ok ()) :
    CompletionGround prepared := by
  simp only [validateRuntimeWorkerPreparedDelivery, validateRuntimeWorkerPreparedDeliveryRequest,
    bind_eq_ok_iff, exists_unit_iff, orConflict_eq_ok_iff, rejectIf_eq_ok_iff, pure_eq_ok_iff,
    validateRuntimeEffectDueCandidates, checkEach_eq_ok_iff, List.forall_mem_singleton,
    validateDueCandidate, validateRuntimeEffectDeliveryEnvelope_eq_ok_iff] at isPrepared
  obtain ⟨⟨_, _, ⟨_, _, ⟨⟨sameEffect, _⟩, _⟩, _⟩, _⟩, _, _, _, append, binding, _⟩ := isPrepared
  simp only [preparedDeliveryDiffers, not_or, not_not] at binding
  obtain ⟨_, envelope, _, identity, _, _, attempt, status, invoked, _, invokedAttempt⟩ := binding
  have bound := AppendRequestBound.of_validate append
  refine ⟨status, ?_, ?_, ?_⟩
  · rw [bound.successor.effect, bound.effect, identity]
  · rw [invoked, envelope, sameEffect]
  · rw [invokedAttempt, ← identity]
    exact bound.attemptEvidence.fact_effect attempt

/-- Every accepted result can be completed to either status while there is room for the
revision. -/
theorem completes_completionRequest
    (isPrepared : validateRuntimeWorkerPreparedDelivery prepared.request prepared = .ok ())
    (answered : validateRuntimeEffectDeliveryResult prepared.invocation.envelope
      prepared.invocation.attempt result = .ok ())
    {status : RuntimeEffectLifecycleStatus}
    (reported : status ∈ [RuntimeEffectLifecycleStatus.delivered, .ambiguous])
    (room : prepared.deliveringAppendRequest.append.lifecycleRecord.lifecycleRevision.val <
      1000000) :
    Completes prepared result (completionRequest prepared result status reported room) := by
  have ground := CompletionGround.of_validate isPrepared
  have answers := answered
  simp only [validateRuntimeEffectDeliveryResult, bind_eq_ok_iff, exists_unit_iff,
    rejectIf_eq_ok_iff, not_not, ground.envelope] at answers
  obtain ⟨resultEffect, resultAttempt, _⟩ := answers
  simp only [Completes, validateRuntimeWorkerResultCompletion, bind_eq_ok_iff, exists_unit_iff,
    orConflict_eq_ok_iff, rejectIf_eq_ok_iff]
  refine ⟨isPrepared, answered, ?_, ?_⟩
  · simp only [validateRuntimeEffectLifecycleAppendRequest, bind_eq_ok_iff, rejectIf_eq_ok_iff,
      exists_unit_iff, checkEach_eq_ok_iff, validateAppendEvidence_eq_ok_iff, not_not]
    refine ⟨ground.effect, ?_, ?_, ?_, rfl, lt_irrefl _⟩
    · simp only [validateRuntimeEffectLifecycleTransition, bind_eq_ok_iff, rejectIf_eq_ok_iff,
        exists_unit_iff, completionRequest, completionRecord, ground.delivering]
      rcases List.mem_pair.mp reported with rfl | rfl <;>
        simp [RuntimeEffectLifecycleStatus.allowedSuccessors]
    · simp [validateLifecycleReceiptFact, completionRequest]
    · simp only [RuntimeEffectLifecycleAppend.evidence, List.forall_mem_cons]
      exact ⟨.of_absent, .of_supplied ground.attempt, .of_supplied resultEffect, .of_absent,
        .of_absent, .of_absent, by rintro _ ⟨⟩⟩
  · simp [resultCompletionDiffers, completionRequest, resultEffect, resultAttempt]

/-! ## Completion is not faithful -/

/-- The result of a valid prepared delivery can be completed, while there is room for the
revision, to a delivery and to an ambiguous outcome and to no other status, whatever its
certainty: never faithfully. -/
theorem not_completesFaithfully
    (isPrepared : validateRuntimeWorkerPreparedDelivery prepared.request prepared = .ok ())
    (answered : validateRuntimeEffectDeliveryResult prepared.invocation.envelope
      prepared.invocation.attempt result = .ok ()) :
    (∀ status, (∃ request, Completes prepared result request ∧
        request.append.lifecycleRecord.status = status) ↔
      status ∈ [RuntimeEffectLifecycleStatus.delivered, .ambiguous] ∧
        prepared.deliveringAppendRequest.append.lifecycleRecord.lifecycleRevision.val <
          1000000) ∧
      ¬ CompletesFaithfully prepared result := by
  have delivering := (CompletionGround.of_validate isPrepared).delivering
  have either := fun {status} =>
    @completes_completionRequest prepared result isPrepared answered status
  refine ⟨fun status => ⟨?_, ?_⟩, fun faithful => ?_⟩
  · rintro ⟨request, completes, rfl⟩
    exact completes.status delivering
  · rintro ⟨reported, room⟩
    exact ⟨_, either reported room, rfl⟩
  · obtain ⟨request, completes⟩ := faithful.total
    have room := (completes.status delivering).2
    have delivered := faithful.faithful _ (either (List.mem_cons_self ..) room)
    have ambiguous := faithful.faithful _
      (either (List.mem_cons_of_mem _ (List.mem_singleton_self _)) room)
    revert delivered ambiguous
    cases result.certainty <;>
      simp [RuntimeEffectDeliveryCertainty.statuses, completionRequest, completionRecord]

namespace Sample

/-- A worker that claims under its own name. -/
def configuration (claimant : BoundedWorkerReference) : RuntimeWorkerConfiguration where
  workerInstanceReference := claimant
  claimantReference := claimant
  assignments := [⟨1, 2, .internal⟩]
  clockReference := "clock"
  maximumCandidateCount := ⟨10, tenCandidates⟩
  maximumConcurrency := ⟨1, by decide⟩
  pollIntervalMilliseconds := ⟨100, by decide⟩
  shutdownDrainTimeoutSeconds := ⟨1, by decide⟩
  configurationVersion := "1"
  configurationDigestReference := "configuration"

/-- The binding of its configuration. -/
def configurationBinding (claimant : BoundedWorkerReference) :
    RuntimeWorkerConfigurationBinding :=
  ⟨claimant, "1", "configuration", "clock"⟩

/-- Its only assignment, polled at the given instant. -/
def iteration (claimant : BoundedWorkerReference) (observedAt : DateTime) :
    RuntimeWorkerPollIterationRequest where
  configuration := configuration claimant
  configurationBinding := configurationBinding claimant
  cycleStartedAt := observedAt
  assignmentPosition := ⟨1, by decide⟩
  assignment := ⟨1, 2, .internal⟩
  dueSelectionRequest :=
    { dueRequest with
      observedAt := observedAt
      requestedAt := observedAt
      requestTime := le_refl observedAt }

/-- What one worker prepares for one candidate: its claim, and one attempt under it. -/
def preparedBy (claimant : BoundedWorkerReference) (candidate : RuntimeEffectDueCandidate)
    (claimRequest : RuntimeEffectClaimRequest) (attempt : RuntimeEffectDeliveryAttempt)
    (delivering : RuntimeEffectLifecycleRecord) (fact : RuntimeEffectLifecycleReceiptFact)
    (appendId : UUID) (invocation : RuntimeEffectDeliveryInvocation) :
    RuntimeWorkerPreparedDelivery where
  request := ⟨iteration claimant claimRequest.observedAt, candidate, "prepared", "prepared"⟩
  claimRequest := claimRequest
  deliveryRequest :=
    { deliveryRequest with
      claim := claimRequest.claim, attempt := attempt, requestedAt := attempt.requestedAt }
  deliveringAppendRequest :=
    { runtimeEffectLifecycleAppendRequestId := appendId
      contractVersion := contractVersion
      append :=
        { effectIdentity := identity
          previousLifecycleRecord := claimRequest.claimedLifecycleRecord
          lifecycleRecord := delivering
          claim := some claimRequest.claim
          attempt := some attempt
          receiptFact := fact }
      clockReference := "clock"
      requestedAt := attempt.requestedAt }
  invocation := invocation
  definitelyNotInvokedAppendRequest := none
  resultCompletion := 0

/-- What the first worker prepares for the enqueued effect. -/
def firstPrepared : RuntimeWorkerPreparedDelivery :=
  preparedBy "worker-1"
    { effectIdentity := identity
      deliveryEnvelope := envelope
      currentLifecycleRecord := enqueuedRecord
      dueReason := .initialEnqueue
      eligibleAt := 0 }
    { runtimeEffectClaimRequestId := 61
      contractVersion := contractVersion
      effectIdentity := identity
      previousLifecycleRecord := enqueuedRecord
      claim := claim
      claimedLifecycleRecord := claimedRecord
      receiptFact := receiptFact 52 claimedRecord
      clockReference := "clock"
      observedAt := 10
      requestedAt := 10
      requestTime := claimedAtOnce }
    attempt deliveringRecord (receiptFact 53 deliveringRecord) 62
    invocation

end Sample

/-- The result an adapter could not determine is not completed faithfully. -/
theorem not_completesFaithfully_undetermined :
    ¬ CompletesFaithfully Sample.firstPrepared Sample.undeterminedResult :=
  (@not_completesFaithfully Sample.firstPrepared Sample.undeterminedResult
    (by decide) (by decide)).2

/-- The result an adapter could not determine is completed to a delivery. -/
theorem completion_unfaithful :
    ∃ request, Completes Sample.firstPrepared Sample.undeterminedResult request ∧
      request.append.lifecycleRecord.status = .delivered ∧
      Sample.undeterminedResult.certainty.statuses = [.ambiguous] ∧
      ¬ CompletesFaithfully Sample.firstPrepared Sample.undeterminedResult := by
  have completes := @completes_completionRequest Sample.firstPrepared Sample.undeterminedResult
    (by decide) (by decide) .delivered (by decide) (by decide)
  refine ⟨_, completes, rfl, rfl, fun faithful => ?_⟩
  have ambiguous := faithful.faithful _ completes
  exact absurd ambiguous (by decide)

end PolicyOS.Runtime
