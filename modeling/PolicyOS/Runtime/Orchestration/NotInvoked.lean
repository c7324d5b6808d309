import PolicyOS.Runtime.Orchestration.DeliveryGate

/-!
# Recording a blocked delivery

A call the gate blocks is recorded by an append that must pass the evidence
contract, the persistence validator and the orchestration validator at once. The
append is constructed here for every block that has one: the next revision,
dead-lettered, with the claim and attempt of the delivery as its support.
-/

namespace PolicyOS.Runtime

open Foundation

namespace DeliveringAppendBound

variable {request : RuntimeOrchestrationDeliveryRequest}
  {appendRequest : RuntimeEffectLifecycleAppendRequest}

theorem record_effect (bound : DeliveringAppendBound request appendRequest) :
    appendRequest.append.lifecycleRecord.runtimeEffectId =
      request.envelope.effectIdentity.runtimeEffectId := by
  rw [bound.accepted.successor.effect, bound.accepted.effect, bound.identity]

theorem record_claim (bound : DeliveringAppendBound request appendRequest) :
    appendRequest.append.lifecycleRecord.runtimeEffectClaimId =
      some request.claim.runtimeEffectClaimId := by
  have required := appendRequest.append.lifecycleRecord.claimEvidence.1
    (by rw [bound.status]; decide)
  obtain ⟨claim, supplied, named, _⟩ := bound.accepted.claimEvidence.supplied required
  obtain rfl := Option.some.inj (supplied.symm.trans bound.claim)
  exact named

theorem record_attempt (bound : DeliveringAppendBound request appendRequest) :
    appendRequest.append.lifecycleRecord.runtimeEffectDeliveryAttemptId =
      some request.attempt.runtimeEffectDeliveryAttemptId := by
  have required := appendRequest.append.lifecycleRecord.attemptEvidence.1
    (by rw [bound.status]; decide)
  obtain ⟨attempt, supplied, named, _⟩ := bound.accepted.attemptEvidence.supplied required
  obtain rfl := Option.some.inj (supplied.symm.trans bound.attempt)
  exact named

end DeliveringAppendBound

variable {call : DeliveryCall} {controls : DeliveryControls}
  {reason : RuntimeEffectNotInvokedReason}

namespace DeliveryCall

/-- The stored `DELIVERING` revision of a call. -/
def deliveringRecord (call : DeliveryCall) : RuntimeEffectLifecycleRecord :=
  call.deliveringRequest.append.lifecycleRecord

theorem Controlled.bound (controlled : Controlled call controls) :
    DeliveringAppendBound call.request call.deliveringRequest :=
  DeliveringAppendBound.of_validate controlled.delivering

/-! ## The append of a recordable block -/

/-- Evidence that the adapter of a call was not called. -/
def notInvokedFact (call : DeliveryCall) (controls : DeliveryControls)
    (reason : RuntimeEffectNotInvokedReason)
    (evidenced : reason = .cancelledAfterDelivering ↔ cancellationId controls.cancellation ≠ none) :
    RuntimeEffectDefinitelyNotInvoked where
  runtimeEffectDefinitelyNotInvokedId := 1
  runtimeEffectId := call.request.envelope.effectIdentity.runtimeEffectId
  runtimeEffectDeliveryAttemptId := call.request.attempt.runtimeEffectDeliveryAttemptId
  runtimeEffectClaimId := call.request.claim.runtimeEffectClaimId
  leaseId := call.request.claim.leaseId
  deliveringLifecycleRecordId := call.deliveringRecord.runtimeEffectLifecycleRecordId
  deliveringLifecycleRevision := call.deliveringRecord.lifecycleRevision
  reason := reason
  cancellationObservationId := cancellationId controls.cancellation
  clockReference := call.reading.clockReference
  tenantId := call.request.envelope.effectIdentity.tenantId
  organizationId := call.request.envelope.effectIdentity.organizationId
  classification := call.request.envelope.effectIdentity.classification
  failureCode := if reason = .cancelledAfterDelivering then .cancelled else .timeout
  failureReference := "not-invoked"
  observedAt := call.reading.observedAt
  factDigestReference := "not-invoked"
  boundedReason := ⟨evidenced, rfl⟩

/-- The terminal fact of a call that is not tried again. -/
def deadLetterFact (call : DeliveryCall) (revision : PositiveInt) :
    RuntimeEffectDeadLetterRecord where
  runtimeEffectDeadLetterRecordId := 1
  runtimeEffectId := call.request.envelope.effectIdentity.runtimeEffectId
  tenantId := call.request.envelope.effectIdentity.tenantId
  organizationId := call.request.envelope.effectIdentity.organizationId
  terminalLifecycleRevision := revision
  safeFailureCode := .timeout
  safeFailureReference := "not-invoked"
  policyReference := "not-invoked"
  runtimeAuthorityBundleId := call.request.authority.runtimeAuthorityBundleId
  classification := call.request.envelope.effectIdentity.classification
  rootLineageId := call.request.envelope.effectIdentity.rootLineageId
  rootLineageDigestReference := call.request.envelope.effectIdentity.rootLineageDigestReference
  terminalReasonReference := "not-invoked"
  deadLetteredAt := call.reading.observedAt
  deadLetterDigestReference := "not-invoked"

/-- The revision after the stored `DELIVERING` one. -/
def nextRevision (call : DeliveryCall)
    (room : call.deliveringRecord.lifecycleRevision.val < 1000000) : PositiveInt :=
  ⟨call.deliveringRecord.lifecycleRevision.val + 1, by omega, room⟩

/-- The dead-lettered revision that records a block. -/
def deadLetteredRecord (call : DeliveryCall)
    (room : call.deliveringRecord.lifecycleRevision.val < 1000000) :
    RuntimeEffectLifecycleRecord where
  runtimeEffectLifecycleRecordId := call.deliveringRecord.runtimeEffectLifecycleRecordId + 1
  runtimeEffectId := call.deliveringRecord.runtimeEffectId
  lifecycleRevision := call.nextRevision room
  status := .deadLettered
  previousLifecycleRecordId := some call.deliveringRecord.runtimeEffectLifecycleRecordId
  previousLifecycleDigestReference := some call.deliveringRecord.lifecycleDigestReference
  runtimeEffectDeadLetterRecordId := some 1
  recordedAt := call.deliveringRecord.recordedAt
  lifecycleDigestReference := "not-invoked"
  revisionOrigin := by
    have counted := call.deliveringRecord.lifecycleRevision.property.1
    refine ⟨fun first => ?_, fun _ => ⟨Option.some_ne_none _, Option.some_ne_none _⟩⟩
    simp only [nextRevision] at first
    omega

/-- The append that records a block. -/
def notInvokedAppend (call : DeliveryCall) (fact : RuntimeEffectDefinitelyNotInvoked)
    (room : call.deliveringRecord.lifecycleRevision.val < 1000000) :
    RuntimeEffectLifecycleAppendRequest where
  runtimeEffectLifecycleAppendRequestId := 1
  contractVersion := call.request.envelope.contractVersion
  append :=
    { effectIdentity := call.request.envelope.effectIdentity
      previousLifecycleRecord := call.deliveringRecord
      lifecycleRecord := call.deadLetteredRecord room
      claim := some call.request.claim
      attempt := some call.request.attempt
      definitelyNotInvoked := some fact
      deadLetter := some (call.deadLetterFact (call.nextRevision room))
      receiptFact :=
        { runtimeEffectLifecycleReceiptId := 1
          runtimeEffectId := call.request.envelope.effectIdentity.runtimeEffectId
          runtimeEffectLifecycleRecordId :=
            (call.deadLetteredRecord room).runtimeEffectLifecycleRecordId
          lifecycleRevision := call.nextRevision room
          lifecycleStatus := .deadLettered
          lifecycleDigestReference := "not-invoked"
          tenantId := call.request.envelope.effectIdentity.tenantId
          organizationId := call.request.envelope.effectIdentity.organizationId
          classification := call.request.envelope.effectIdentity.classification } }
  clockReference := call.request.clockReference
  requestedAt := call.deliveringRecord.recordedAt

section Recordable

variable {call : DeliveryCall} {controls : DeliveryControls}
  {reason : RuntimeEffectNotInvokedReason}
  {room : call.deliveringRecord.lifecycleRevision.val < 1000000}
  {evidenced : reason = .cancelledAfterDelivering ↔
    cancellationId controls.cancellation ≠ none}

theorem Controlled.deadLetteredTransition (controlled : Controlled call controls) :
    validateRuntimeEffectLifecycleTransition call.deliveringRecord (call.deadLetteredRecord room)
      true = .ok () := by
  have delivering : call.deliveringRecord.status = .delivering := controlled.bound.status
  simp only [validateRuntimeEffectLifecycleTransition, bind_eq_ok_iff, exists_unit_iff,
    rejectIf_eq_ok_iff, delivering]
  simp [deadLetteredRecord, nextRevision, RuntimeEffectLifecycleStatus.allowedSuccessors]

/-- Its claim, attempt and dead-letter evidence is that of the effect. -/
theorem Controlled.deadLetteredEvidence (controlled : Controlled call controls)
    {fact : RuntimeEffectDefinitelyNotInvoked} :
    ∀ evidence ∈ (call.notInvokedAppend fact room).append.evidence,
      EvidenceBound true call.request.envelope.effectIdentity.runtimeEffectId evidence := by
  have bound := AttemptBound.of_validate controlled.request
  intro evidence present
  simp only [RuntimeEffectLifecycleAppend.evidence, List.mem_cons, List.not_mem_nil,
    or_false] at present
  rcases present with rfl | rfl | rfl | rfl | rfl | rfl <;> constructor <;>
    simp [notInvokedAppend, deadLetteredRecord, deadLetterFact, AppendEvidence.of,
      bound.claimEffect, bound.attemptEffect]

theorem Controlled.evidence_agrees (controlled : Controlled call controls) :
    ¬ notInvokedEvidenceDiffers
      (call.notInvokedAppend (call.notInvokedFact controls reason evidenced) room).append
      (call.notInvokedFact controls reason evidenced) call.request.claim call.request.attempt := by
  have bound := AttemptBound.of_validate controlled.request
  have namesClaim : call.deliveringRecord.runtimeEffectClaimId = _ := controlled.bound.record_claim
  have namesAttempt : call.deliveringRecord.runtimeEffectDeliveryAttemptId = _ :=
    controlled.bound.record_attempt
  simp [notInvokedEvidenceDiffers, notInvokedAppend, notInvokedFact, namesClaim, namesAttempt,
    bound.attemptClaim, bound.lease, bound.tenant, bound.organization]

/-- The evidence is accepted beside the append, provided a lease-expired reason
follows the end of the claim lease. -/
theorem Controlled.notInvoked_accepted (controlled : Controlled call controls)
    (leaseEnded : reason = .leaseExpiredAfterDelivering → call.claimExpired) :
    validateNotInvokedAppend
      (call.notInvokedAppend (call.notInvokedFact controls reason evidenced) room).append
      (call.notInvokedFact controls reason evidenced) = .ok () := by
  rw [validateNotInvokedAppend_eq_ok_iff rfl rfl]
  exact
    { delivering := controlled.bound.status
      following := List.mem_cons_of_mem _ (List.mem_singleton_self _)
      unanswered := rfl
      agrees := controlled.evidence_agrees
      leaseEnded := leaseEnded
      retried := nofun
      buried := fun _ => Option.some_ne_none _ }

/-- The append is accepted by the persistence validator. -/
theorem Controlled.notInvokedAppend_accepted (controlled : Controlled call controls)
    (leaseEnded : reason = .leaseExpiredAfterDelivering → call.claimExpired) :
    validateRuntimeEffectLifecycleAppendRequest
      (call.notInvokedAppend (call.notInvokedFact controls reason evidenced) room) = .ok () := by
  simp only [validateRuntimeEffectLifecycleAppendRequest, bind_eq_ok_iff, exists_unit_iff,
    checkEach_eq_ok_iff, validateAppendEvidence_eq_ok_iff, validateLifecycleReceiptFact]
  refine ⟨?_, controlled.deadLetteredTransition, ?_, controlled.deadLetteredEvidence,
    controlled.notInvoked_accepted leaseEnded, ?_⟩
  · rw [rejectIf_eq_ok_iff, not_not]
    exact controlled.bound.record_effect
  · rw [rejectIf_eq_ok_iff]
    simp [notInvokedAppend, deadLetteredRecord]
  · rw [rejectIf_eq_ok_iff, not_lt]
    exact le_refl _

theorem Controlled.notInvokedAppend_recorded (controlled : Controlled call controls)
    (leaseEnded : reason = .leaseExpiredAfterDelivering → call.claimExpired) :
    validateRuntimeOrchestrationNotInvokedAppend call.request call.deliveringRequest
      (call.notInvokedAppend (call.notInvokedFact controls reason evidenced) room) reason
      controls.cancellation call.reading.observedAt = .ok () := by
  simp only [validateRuntimeOrchestrationNotInvokedAppend, bind_eq_ok_iff, exists_unit_iff,
    fromPorts_eq_ok_iff]
  refine ⟨controlled.notInvokedAppend_accepted leaseEnded, ?_⟩
  simp [notInvokedAppend, notInvokedFact, deliveringRecord]

end Recordable

/-! ## Which blocks have an append -/

/-- The adapter of a call is not called, for this reason and under these
controls. -/
structure Blocked (call : DeliveryCall) (controls : DeliveryControls)
    (reason : RuntimeEffectNotInvokedReason) : Prop where
  controlled : Controlled call controls
  reason : call.blockedReason controls = some reason

/-- Some append records the block for both validators. -/
def Recordable (call : DeliveryCall) (controls : DeliveryControls)
    (reason : RuntimeEffectNotInvokedReason) : Prop :=
  ∃ appendRequest,
    validateRuntimeEffectLifecycleAppendRequest appendRequest = .ok () ∧
    validateRuntimeOrchestrationNotInvokedAppend call.request call.deliveringRequest appendRequest
      reason controls.cancellation call.reading.observedAt = .ok ()

/-- The two kinds of block an append can record: a cancellation while both leases
hold, and an ended claim lease on a request without a cancellation reference. -/
def recordableBlock (call : DeliveryCall) (controls : DeliveryControls) : Prop :=
  (¬ call.claimExpired ∧ ¬ call.credentialExpired controls) ∨
    (call.claimExpired ∧ call.request.cancellationReference = none)

instance (call : DeliveryCall) (controls : DeliveryControls) :
    Decidable (call.recordableBlock controls) :=
  inferInstanceAs (Decidable (_ ∨ _))

/-- The reason of a block, by the controls it was read from. -/
theorem blockedReason_eq_some_iff :
    call.blockedReason controls = some reason ↔
      ((call.claimExpired ∨ call.credentialExpired controls) ∧
          reason = .leaseExpiredAfterDelivering) ∨
        (¬ call.claimExpired ∧ ¬ call.credentialExpired controls ∧ cancellationStops controls ∧
          reason = .cancelledAfterDelivering) := by
  unfold blockedReason
  by_cases claimExpired : call.claimExpired
  · simp [claimExpired, eq_comm]
  · by_cases credentialExpired : call.credentialExpired controls
    · simp [claimExpired, credentialExpired, eq_comm]
    · by_cases stops : cancellationStops controls <;>
        simp [claimExpired, credentialExpired, stops, eq_comm]

theorem CancellationObserved.none_iff {observation : Option RuntimeCancellationObservation}
    (observed : CancellationObserved call observation) :
    observation = none ↔ call.request.cancellationReference = none := by
  cases observed with
  | unused unasked _ => simp [unasked]
  | observed asked _ _ _ => simp [asked]

/-- What the recorded evidence forces: room for one more revision, and one of the
two recordable kinds of block. -/
theorem Blocked.kind_of_recordable (blocked : Blocked call controls reason)
    (recordable : call.Recordable controls reason) :
    call.deliveringRecord.lifecycleRevision.val < 1000000 ∧ call.recordableBlock controls := by
  obtain ⟨appendRequest, valid, recorded⟩ := recordable
  have bound := AppendRequestBound.of_validate valid
  simp only [validateRuntimeOrchestrationNotInvokedAppend, bind_eq_ok_iff, exists_unit_iff,
    fromPorts_eq_ok_iff] at recorded
  obtain ⟨_, recorded⟩ := recorded
  cases supplied : appendRequest.append.definitelyNotInvoked with
  | none => simp [supplied] at recorded
  | some fact =>
      simp only [supplied, rejectIf_eq_ok_iff, not_or, not_not] at recorded
      obtain ⟨sameReason, previous, claim, attempt, observedAt, cancellation⟩ := recorded
      refine ⟨?_, ?_⟩
      · have next := bound.successor.revision
        have limit := appendRequest.append.lifecycleRecord.lifecycleRevision.property.2
        rw [previous] at next
        unfold deliveringRecord
        omega
      · rcases blockedReason_eq_some_iff.mp blocked.reason with
          ⟨_, rfl⟩ | ⟨claimHeld, credentialHeld, _, _⟩
        · have evidence := (validateNotInvokedAppend_eq_ok_iff claim attempt).mp
            (bound.notInvoked fact supplied)
          have ended := evidence.leaseEnded sameReason
          rw [observedAt] at ended
          -- A lease-expired fact may not name the cancellation it was observed beside.
          have uncancelled : fact.cancellationObservationId = none := by
            by_contra cancelled
            have stopped := fact.boundedReason.1.mpr cancelled
            rw [sameReason] at stopped
            cases stopped
          rw [uncancelled] at cancellation
          have unobserved := Option.map_eq_none_iff.mp cancellation.symm
          exact .inr ⟨ended, blocked.controlled.cancellation.none_iff.mp unobserved⟩
        · exact .inl ⟨claimHeld, credentialHeld⟩

/-- With room for one more revision, a block of either kind has its append. -/
theorem Blocked.recordable (blocked : Blocked call controls reason)
    (room : call.deliveringRecord.lifecycleRevision.val < 1000000)
    (kind : call.recordableBlock controls) : call.Recordable controls reason := by
  have settled : (reason = .leaseExpiredAfterDelivering ∧ call.claimExpired ∧
        controls.cancellation = none) ∨
      (reason = .cancelledAfterDelivering ∧ controls.cancellation ≠ none) := by
    rcases blockedReason_eq_some_iff.mp blocked.reason with
      ⟨expired, reasoned⟩ | ⟨_, _, ⟨observation, observed, _⟩, reasoned⟩
    · refine .inl ⟨reasoned, ?_⟩
      rcases kind with ⟨claimHeld, credentialHeld⟩ | ⟨claimExpired, unasked⟩
      · exact absurd expired (not_or.mpr ⟨claimHeld, credentialHeld⟩)
      · exact ⟨claimExpired, blocked.controlled.cancellation.none_iff.mpr unasked⟩
    · exact .inr ⟨reasoned, Option.ne_none_iff_exists'.mpr ⟨observation, observed⟩⟩
  have evidenced : reason = .cancelledAfterDelivering ↔
      cancellationId controls.cancellation ≠ none := by
    rcases settled with ⟨rfl, _, absent⟩ | ⟨rfl, present⟩
    · simp [cancellationId, absent]
    · simpa [cancellationId] using present
  have leaseEnded : reason = .leaseExpiredAfterDelivering → call.claimExpired := by
    rcases settled with ⟨_, ended, _⟩ | ⟨rfl, _⟩
    · exact fun _ => ended
    · exact nofun
  exact ⟨call.notInvokedAppend (call.notInvokedFact controls reason evidenced) room,
    blocked.controlled.notInvokedAppend_accepted leaseEnded,
    blocked.controlled.notInvokedAppend_recorded leaseEnded⟩

end DeliveryCall

/-- A blocked delivery can be recorded exactly when the lifecycle has room for one
more revision and the block is one of the two recordable kinds. -/
theorem recordable_iff {call : DeliveryCall} {controls : DeliveryControls}
    {reason : RuntimeEffectNotInvokedReason} (blocked : call.Blocked controls reason) :
    call.Recordable controls reason ↔
      call.deliveringRecord.lifecycleRevision.val < 1000000 ∧ call.recordableBlock controls :=
  ⟨blocked.kind_of_recordable, fun ⟨room, kind⟩ => blocked.recordable room kind⟩

/-! ## One recordable block, and two that are not -/

namespace Sample

/-- The cancellation a caller asks to be observed. -/
def cancellationReference : RuntimeCancellationReference where
  runtimeCancellationReferenceId := 96
  reasonReference := "withdrawn"
  requestedByActorId := 15
  requestedAt := 11

/-- The attempt, governed by the cancellation. -/
def cancellableAttempt : RuntimeEffectDeliveryAttempt :=
  { attempt with cancellationReferenceId := some 96 }

/-- The observation of the cancellation with the given status. -/
def cancellationObservation (status : RuntimeCancellationStatus) :
    RuntimeCancellationObservation where
  runtimeCancellationReferenceId := 96
  runtimeExecutionRequestId := 4
  attemptId := 81
  tenantId := 1
  organizationId := 2
  classification := .internal
  status := status
  observationReference := "observation"
  observedAt := 11

/-- The call at the given instant, governed by the cancellation. -/
def cancellableCall (observedAt : DateTime) (status : RuntimeCancellationStatus) : DeliveryCall :=
  { deliveryCall observedAt with
    request :=
      { deliveryRequest with
        attempt := cancellableAttempt
        cancellationReference := some cancellationReference }
    invocation :=
      { runtimeEffectDeliveryInvocationId := 93
        envelope := envelope
        claim := claim
        attempt := cancellableAttempt }
    deliveringRequest :=
      { deliveringAppend with
        append := { deliveringAppend.append with attempt := some cancellableAttempt } }
    cancellation := some fun _ => .ok (cancellationObservation status) }

/-- What its controls answer. -/
def cancellableControls (status : RuntimeCancellationStatus) : DeliveryControls :=
  ⟨some (cancellationObservation status), none⟩

theorem cancelled_blocked :
    (cancellableCall 12 .requested).Blocked (cancellableControls .requested)
      .cancelledAfterDelivering :=
  ⟨DeliveryCall.readControls_eq_ok_iff.mp (by decide), by decide⟩

theorem claimExpired_blocked :
    (cancellableCall 20 .notRequested).Blocked (cancellableControls .notRequested)
      .leaseExpiredAfterDelivering :=
  ⟨DeliveryCall.readControls_eq_ok_iff.mp (by decide), by decide⟩

theorem credentialExpired_blocked :
    (leasedCall 14 14).Blocked ⟨none, some (credentialLease 14)⟩ .leaseExpiredAfterDelivering :=
  ⟨DeliveryCall.readControls_eq_ok_iff.mp (by decide), by decide⟩

end Sample

/-- A cancellation observed while the leases hold is recordable. -/
theorem recordable_iff_cancelled :
    (Sample.cancellableCall 12 .requested).Recordable (Sample.cancellableControls .requested)
      .cancelledAfterDelivering :=
  (recordable_iff Sample.cancelled_blocked).mpr ⟨by decide, by decide⟩

/-- Two blocks no append can record: the claim lease ended beside a cancellation
reference, and the credential lease ended before the claim lease. -/
theorem blocks_unrecordable :
    ((Sample.cancellableCall 20 .notRequested).Blocked
        (Sample.cancellableControls .notRequested) .leaseExpiredAfterDelivering ∧
      ¬ (Sample.cancellableCall 20 .notRequested).Recordable
        (Sample.cancellableControls .notRequested) .leaseExpiredAfterDelivering) ∧
    ((Sample.leasedCall 14 14).Blocked ⟨none, some (Sample.credentialLease 14)⟩
        .leaseExpiredAfterDelivering ∧
      ¬ (Sample.leasedCall 14 14).Recordable ⟨none, some (Sample.credentialLease 14)⟩
        .leaseExpiredAfterDelivering) := by
  refine ⟨⟨Sample.claimExpired_blocked, ?_⟩, ⟨Sample.credentialExpired_blocked, ?_⟩⟩
  · intro recordable
    exact absurd (Sample.claimExpired_blocked.kind_of_recordable recordable).2 (by decide)
  · intro recordable
    exact absurd (Sample.credentialExpired_blocked.kind_of_recordable recordable).2 (by decide)

end PolicyOS.Runtime
