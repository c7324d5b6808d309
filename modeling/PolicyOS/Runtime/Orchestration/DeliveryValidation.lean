import PolicyOS.Runtime.Authority.Domain
import PolicyOS.Runtime.Ports.DeliveryPersistenceValidation

/-!
# Delivery orchestration contracts

The facts a coordinator delivers one effect under, the outcome it records after
the adapter has answered, and the typed failures of everything in between.
-/

namespace PolicyOS.Runtime

/-- The exception classes of the orchestration. -/
inductive RuntimeOrchestrationErrorKind
  | authority | permit | state | binding | timestamp | cancellation | credential | adapter
  | outcome | transaction
  /-- Raised by a validator of the ports layer. -/
  | port (kind : RuntimePortErrorKind)
  /-- Access to an attribute its model does not have. -/
  | attribute
  /-- Raised by an injected port itself. -/
  | external
  deriving DecidableEq, Repr

/-- A typed failure with its message. -/
structure RuntimeOrchestrationError where
  kind : RuntimeOrchestrationErrorKind
  message : String
  deriving DecidableEq, Repr

/-- An error of the ports layer, passed on unchanged. -/
def RuntimePortError.raised (error : RuntimePortError) : RuntimeOrchestrationError :=
  ⟨.port error.kind, error.message⟩

/-- Run a validator of the ports layer. -/
def fromPorts {Value : Type} (result : Except RuntimePortError Value) :
    Except RuntimeOrchestrationError Value :=
  result.mapError (·.raised)

/-- A validator of the ports layer accepts as it does below. -/
@[simp] theorem fromPorts_eq_ok_iff {Value : Type} {result : Except RuntimePortError Value}
    {value : Value} : fromPorts result = .ok value ↔ result = .ok value := by
  cases result <;> simp [fromPorts, Except.mapError]

/-- Versions of the orchestration contract. -/
structure RuntimeOrchestrationContractVersion where
  runtimeOrchestrationVersion : BoundedVersion
  runtimeOrchestrationContractVersion : BoundedVersion
  runtimeOrchestrationSchemaVersion : BoundedVersion
  deriving DecidableEq

/-- Everything one delivery is governed by. -/
structure RuntimeOrchestrationDeliveryRequest where
  runtimeOrchestrationDeliveryId : UUID
  contractVersion : RuntimeOrchestrationContractVersion
  authority : RuntimeAuthorityBundle
  envelope : RuntimeEffectDeliveryEnvelope
  claim : RuntimeEffectClaim
  attempt : RuntimeEffectDeliveryAttempt
  clockReference : BoundedId
  cancellationReference : Option RuntimeCancellationReference := none
  credentialLeaseRequest : Option RuntimeCredentialLeaseRequest := none
  requestedAt : DateTime
  deriving DecidableEq

/-- What is recorded of one invoked delivery. -/
structure RuntimeOrchestrationDeliveryOutcome where
  runtimeOrchestrationDeliveryId : UUID
  contractVersion : RuntimeOrchestrationContractVersion
  deliveryRequest : RuntimeOrchestrationDeliveryRequest
  clockReading : RuntimeClockReading
  cancellationObservation : Option RuntimeCancellationObservation := none
  credentialLeaseReference : Option RuntimeCredentialLeaseReference := none
  result : RuntimeEffectDeliveryResult
  completedAt : DateTime
  identityAndTime :
    runtimeOrchestrationDeliveryId = deliveryRequest.runtimeOrchestrationDeliveryId ∧
    contractVersion = deliveryRequest.contractVersion ∧
    completedAt = result.completedAt := by decide
  deriving DecidableEq

end PolicyOS.Runtime

/-!
# Delivery orchestration validation

The checks made before the adapter is called, on the outcome after it has
answered, and on the append that records that it was not called at all. The gate
and the outcome check are written separately in the source; comparing them is
left to later modules.
-/

namespace PolicyOS.Runtime

open Foundation

/-- One permit must be active at the request time and bound to the effect. -/
def validateCurrentPermit (request : RuntimeOrchestrationDeliveryRequest)
    (permit : RuntimePermitReference) : Except RuntimeOrchestrationError Unit := do
  let identity := request.envelope.effectIdentity
  rejectIf (permit.permitStatus ≠ .active) ⟨.permit, "delivery permit is not active"⟩
  rejectIf (¬ (permit.validFrom ≤ request.requestedAt ∧ request.requestedAt < permit.expiresAt))
    ⟨.permit, "delivery permit is outside its validity"⟩
  rejectIf (permit.remainingInvocations.val < 1 ∨ permit.remainingAttempts.val < 1)
    ⟨.permit, "delivery permit bound is exhausted"⟩
  rejectIf (permit.runtimeExecutionRequestId ≠ identity.runtimeExecutionRequestId)
    ⟨.permit, "delivery permit request differs"⟩
  rejectIf (permit.tenantId ≠ identity.tenantId ∨
      permit.organizationId ≠ identity.organizationId)
    ⟨.permit, "delivery permit scope differs"⟩
  rejectIf (permit.actorId ≠ request.envelope.actorId) ⟨.permit, "delivery permit actor differs"⟩
  rejectIf (permit.resourceReference ≠ request.envelope.resourceReference ∨
      (permit.action ≠ identity.action ∨ permit.purpose ≠ request.envelope.purpose))
    ⟨.permit, "delivery permit action binding differs"⟩
  rejectIf (permit.destinationReference ≠ some identity.destinationReference)
    ⟨.permit, "delivery permit destination differs"⟩
  rejectIf (permit.executionEnvironment ≠ request.envelope.executionEnvironment)
    ⟨.permit, "delivery permit environment differs"⟩
  rejectIf (permit.riskLevel ≠ request.envelope.riskLevel)
    ⟨.permit, "delivery permit risk differs"⟩
  rejectIf (permit.classificationCeiling ≠ identity.classification)
    ⟨.permit, "delivery permit classification differs"⟩

/-- The authority must be a current admission of this very effect and attempt. -/
def validateCurrentAuthority (request : RuntimeOrchestrationDeliveryRequest) :
    Except RuntimeOrchestrationError Unit := do
  let authority := request.authority
  let identity := request.envelope.effectIdentity
  let attempt := request.attempt
  let admission := authority.admissionDecision
  rejectIf (admission.decisionStatus ≠ .admitted)
    ⟨.authority, "delivery requires current admission"⟩
  rejectIf (authority.runtimeAuthorityBundleId ≠ attempt.runtimeAuthorityBundleId)
    ⟨.binding, "delivery authority bundle differs"⟩
  rejectIf (admission.runtimeAdmissionDecisionId ≠ attempt.runtimeAdmissionDecisionId)
    ⟨.binding, "delivery admission decision differs"⟩
  rejectIf (admission.permitReferenceIds ≠ attempt.permitReferenceIds)
    ⟨.permit, "delivery admission permits differ"⟩
  rejectIf (authority.tenantId ≠ identity.tenantId) ⟨.binding, "delivery tenant differs"⟩
  rejectIf (authority.organizationId ≠ identity.organizationId)
    ⟨.binding, "delivery organization differs"⟩
  rejectIf (authority.classification ≠ identity.classification)
    ⟨.binding, "delivery classification differs"⟩
  rejectIf (authority.rootLineageId ≠ identity.rootLineageId ∨
      authority.rootLineageDigestReference ≠ identity.rootLineageDigestReference)
    ⟨.binding, "delivery root lineage differs"⟩
  rejectIf (authority.executionRequest.runtimeExecutionRequestId ≠
      identity.runtimeExecutionRequestId)
    ⟨.binding, "delivery execution request differs"⟩
  rejectIf (authority.policyRevision ≠ attempt.policyRevision ∨
      authority.authorizationRevision ≠ attempt.authorizationRevision)
    ⟨.binding, "delivery authority revision differs"⟩
  rejectIf (authority.registryRevision ≠ some attempt.registryRevision)
    ⟨.binding, "delivery registry revision differs"⟩
  rejectIf (authority.permitReferences.map (·.runtimePermitReferenceId) ≠
      attempt.permitReferenceIds)
    ⟨.permit, "delivery permit references differ"⟩
  checkEach (validateCurrentPermit request) authority.permitReferences

/-- The cancellation the attempt was governed by must be the supplied one. -/
def validateCancellationBinding (request : RuntimeOrchestrationDeliveryRequest) :
    Except RuntimeOrchestrationError Unit :=
  match request.cancellationReference with
  | none =>
      rejectIf (request.attempt.cancellationReferenceId ≠ none)
        ⟨.binding, "delivery cancellation reference is absent"⟩
  | some reference =>
      rejectIf (some reference.runtimeCancellationReferenceId ≠
          request.attempt.cancellationReferenceId)
        ⟨.binding, "delivery cancellation reference differs"⟩

/-- A delivery request must be one attempt under one claim of one effect, with
current authority for it. -/
def validateRuntimeOrchestrationDeliveryRequest (request : RuntimeOrchestrationDeliveryRequest) :
    Except RuntimeOrchestrationError Unit := do
  fromPorts (validateRuntimeEffectDeliveryEnvelope request.envelope
    request.envelope.effectIdentity)
  fromPorts (validateRuntimeEffectDeliveryAttempt request.envelope request.claim request.attempt)
  validateCurrentAuthority request
  rejectIf (request.clockReference ≠ request.attempt.clockReference)
    ⟨.binding, "delivery clock reference differs"⟩
  rejectIf (request.requestedAt ≠ request.attempt.requestedAt)
    ⟨.timestamp, "delivery request time differs from attempt"⟩
  validateCancellationBinding request

variable {request : RuntimeOrchestrationDeliveryRequest}

theorem AttemptBound.of_validate
    (accepted : validateRuntimeOrchestrationDeliveryRequest request = .ok ()) :
    AttemptBound request.envelope request.claim request.attempt := by
  simp only [validateRuntimeOrchestrationDeliveryRequest, bind_eq_ok_iff, exists_unit_iff,
    fromPorts_eq_ok_iff] at accepted
  obtain ⟨_, attempt, _⟩ := accepted
  exact validateRuntimeEffectDeliveryAttempt_eq_ok_iff.mp attempt

/-- A claim must be of the selected candidate, and follow what the candidate shows. -/
def validateRuntimeOrchestrationCandidateClaim (candidate : RuntimeEffectDueCandidate)
    (request : RuntimeEffectClaimRequest) : Except RuntimeOrchestrationError Unit := do
  fromPorts (validateRuntimeEffectClaimRequest request)
  rejectIf (request.effectIdentity ≠ candidate.effectIdentity ∨
      request.previousLifecycleRecord ≠ candidate.currentLifecycleRecord ∨
      request.previousClaim ≠ candidate.previousClaim)
    ⟨.binding, "delivery candidate claim differs"⟩

/-- The receipt of the expected record is not for this claim and attempt. -/
def expectedLifecycleReceiptDiffers (request : RuntimeOrchestrationDeliveryRequest)
    (identity : RuntimeEffectIdentity) (fact : RuntimeEffectLifecycleReceiptFact)
    (expected : RuntimeEffectLifecycleRecord) : Prop :=
  fact.tenantId ≠ identity.tenantId ∨
  fact.organizationId ≠ identity.organizationId ∨
  fact.classification ≠ identity.classification ∨
  fact.runtimeEffectId ≠ expected.runtimeEffectId ∨
  fact.runtimeEffectLifecycleRecordId ≠ expected.runtimeEffectLifecycleRecordId ∨
  fact.lifecycleRevision ≠ expected.lifecycleRevision ∨
  fact.lifecycleStatus ≠ expected.status ∨
  fact.lifecycleDigestReference ≠ expected.lifecycleDigestReference ∨
  expected.runtimeEffectClaimId ≠ some request.claim.runtimeEffectClaimId ∨
  (expected.runtimeEffectDeliveryAttemptId ≠ none ∧
    expected.runtimeEffectDeliveryAttemptId ≠
      some request.attempt.runtimeEffectDeliveryAttemptId) ∨
  request.claim.leaseId ≠ request.attempt.leaseId

instance {request identity fact expected} :
    Decidable (expectedLifecycleReceiptDiffers request identity fact expected) :=
  inferInstanceAs (Decidable (_ ∨ _ ∨ _ ∨ _ ∨ _ ∨ _ ∨ _ ∨ _ ∨ _ ∨ _ ∨ _))

/-- The append that stores `DELIVERING` must be for this delivery, and the
lifecycle result must receipt the expected record. -/
def validateRuntimeOrchestrationDeliveringAppend (request : RuntimeOrchestrationDeliveryRequest)
    (lifecycleResult : RuntimeEffectLifecycleCommitResult)
    (appendRequest : RuntimeEffectLifecycleAppendRequest)
    (expectedLifecycleRecord : RuntimeEffectLifecycleRecord) :
    Except RuntimeOrchestrationError Unit := do
  fromPorts (validateRuntimeEffectLifecycleAppendRequest appendRequest)
  let append := appendRequest.append
  rejectIf (expectedLifecycleReceiptDiffers request append.effectIdentity
      lifecycleResult.receipt.receiptFact expectedLifecycleRecord)
    ⟨.binding, "expected lifecycle receipt differs"⟩
  rejectIf (append.effectIdentity ≠ request.envelope.effectIdentity ∨
      append.claim ≠ some request.claim ∨ append.attempt ≠ some request.attempt ∨
      append.lifecycleRecord.status ≠ .delivering)
    ⟨.binding, "delivering append differs"⟩

/-- The append that stored `DELIVERING`, as far as it is fixed by the delivery. -/
structure DeliveringAppendBound (request : RuntimeOrchestrationDeliveryRequest)
    (appendRequest : RuntimeEffectLifecycleAppendRequest) : Prop where
  accepted : AppendRequestBound appendRequest
  identity : appendRequest.append.effectIdentity = request.envelope.effectIdentity
  claim : appendRequest.append.claim = some request.claim
  attempt : appendRequest.append.attempt = some request.attempt
  status : appendRequest.append.lifecycleRecord.status = .delivering

theorem DeliveringAppendBound.of_validate {lifecycleResult : RuntimeEffectLifecycleCommitResult}
    {appendRequest : RuntimeEffectLifecycleAppendRequest} {expected : RuntimeEffectLifecycleRecord}
    (accepted : validateRuntimeOrchestrationDeliveringAppend request lifecycleResult appendRequest
      expected = .ok ()) : DeliveringAppendBound request appendRequest := by
  simp only [validateRuntimeOrchestrationDeliveringAppend, bind_eq_ok_iff, exists_unit_iff,
    fromPorts_eq_ok_iff, rejectIf_eq_ok_iff, not_or, not_not] at accepted
  obtain ⟨append, _, identity, claim, attempt, status⟩ := accepted
  exact ⟨AppendRequestBound.of_validate append, identity, claim, attempt, status⟩

/-- The observation is not of the cancellation this delivery refers to. -/
def cancellationObservationDiffers (request : RuntimeOrchestrationDeliveryRequest)
    (observation : RuntimeCancellationObservation) : Prop :=
  let identity := request.envelope.effectIdentity
  request.cancellationReference = none ∨
  some observation.runtimeCancellationReferenceId ≠
    request.cancellationReference.map (·.runtimeCancellationReferenceId) ∨
  observation.runtimeExecutionRequestId ≠ identity.runtimeExecutionRequestId ∨
  observation.attemptId ≠ request.attempt.runtimeEffectDeliveryAttemptId ∨
  observation.tenantId ≠ identity.tenantId ∨
  observation.organizationId ≠ identity.organizationId ∨
  observation.classification ≠ identity.classification

instance {request observation} : Decidable (cancellationObservationDiffers request observation) :=
  inferInstanceAs (Decidable (_ ∨ _ ∨ _ ∨ _ ∨ _ ∨ _ ∨ _))

/-- A cancellation observation must be of this attempt, and not of the future. -/
def validateRuntimeOrchestrationCancellationObservation
    (request : RuntimeOrchestrationDeliveryRequest)
    (observation : RuntimeCancellationObservation) (observedAt : DateTime) :
    Except RuntimeOrchestrationError Unit := do
  rejectIf (cancellationObservationDiffers request observation)
    ⟨.binding, "cancellation observation differs"⟩
  rejectIf (observation.observedAt > observedAt)
    ⟨.timestamp, "cancellation observation is from the future"⟩

/-- The lease is not the one this delivery asked for. -/
def credentialLeaseDiffers (request : RuntimeOrchestrationDeliveryRequest)
    (lease : RuntimeCredentialLeaseReference) : Prop :=
  let identity := request.envelope.effectIdentity
  request.credentialLeaseRequest = none ∨
  request.credentialLeaseRequest.map (·.adapterReference) ≠
    some request.envelope.adapterReference ∨
  some lease.runtimeCredentialLeaseRequestId ≠
    request.credentialLeaseRequest.map (·.runtimeCredentialLeaseRequestId) ∨
  some lease.credentialReference ≠
    request.credentialLeaseRequest.map (·.credentialReference) ∨
  lease.tenantId ≠ identity.tenantId ∨
  lease.organizationId ≠ identity.organizationId ∨
  lease.actorId ≠ request.envelope.actorId ∨
  lease.attemptId ≠ request.attempt.runtimeEffectDeliveryAttemptId ∨
  lease.classification ≠ identity.classification

instance {request lease} : Decidable (credentialLeaseDiffers request lease) :=
  inferInstanceAs (Decidable (_ ∨ _ ∨ _ ∨ _ ∨ _ ∨ _ ∨ _ ∨ _ ∨ _))

/-- A credential lease must be of this attempt, and already issued. -/
def validateRuntimeOrchestrationDeliveryCredential
    (request : RuntimeOrchestrationDeliveryRequest) (lease : RuntimeCredentialLeaseReference)
    (observedAt : DateTime) : Except RuntimeOrchestrationError Unit := do
  rejectIf (credentialLeaseDiffers request lease) ⟨.binding, "credential lease differs"⟩
  rejectIf (lease.issuedAt > observedAt) ⟨.timestamp, "credential lease is not yet issued"⟩

/-- The outcome check reads the status off the lease itself. The lease contract
has no such field and forbids extra ones, so reading it always raises. -/
def RuntimeCredentialLeaseReference.status (_ : RuntimeCredentialLeaseReference) :
    Except RuntimeOrchestrationError RuntimeCredentialLeaseStatus :=
  .error ⟨.attribute, "'RuntimeCredentialLeaseReference' object has no attribute 'status'"⟩

/-- A cancellation the request refers to must have been observed as clear. -/
def validateOutcomeCancellation (request : RuntimeOrchestrationDeliveryRequest)
    (observation : Option RuntimeCancellationObservation) :
    Except RuntimeOrchestrationError Unit :=
  match request.cancellationReference, observation with
  | none, _ => .ok ()
  | some _, none => .error ⟨.binding, "cancellation observation is absent"⟩
  | some _, some observed =>
      rejectIf (observed.status ≠ .notRequested)
        ⟨.binding, "delivery cancellation is not clear"⟩

/-- A credential lease the request asks for must be present and issued. -/
def validateOutcomeCredential (request : RuntimeOrchestrationDeliveryRequest)
    (lease : Option RuntimeCredentialLeaseReference) : Except RuntimeOrchestrationError Unit :=
  match request.credentialLeaseRequest, lease with
  | none, _ => .ok ()
  | some _, none => .error ⟨.binding, "delivery credential lease is unavailable"⟩
  | some _, some issued => do
      let status ← issued.status
      rejectIf (status ≠ .issued) ⟨.binding, "delivery credential lease is unavailable"⟩

theorem validateOutcomeCredential_eq_ok_iff {lease : Option RuntimeCredentialLeaseReference} :
    validateOutcomeCredential request lease = .ok () ↔ request.credentialLeaseRequest = none := by
  unfold validateOutcomeCredential
  cases asked : request.credentialLeaseRequest with
  | none => simp
  | some supplied =>
      cases lease <;> simp [RuntimeCredentialLeaseReference.status, Bind.bind, Except.bind]

/-- An outcome must be of a request that still validates, read inside its
deadline and lease, with clear controls and a result of its own attempt. -/
def validateRuntimeOrchestrationDeliveryOutcome (outcome : RuntimeOrchestrationDeliveryOutcome) :
    Except RuntimeOrchestrationError Unit := do
  let request := outcome.deliveryRequest
  validateRuntimeOrchestrationDeliveryRequest request
  rejectIf (outcome.clockReading.clockReference ≠ request.clockReference)
    ⟨.timestamp, "delivery clock reading differs"⟩
  rejectIf (outcome.clockReading.observedAt > request.attempt.deadline)
    ⟨.timestamp, "delivery clock exceeds attempt deadline"⟩
  rejectIf (outcome.clockReading.observedAt ≥ request.claim.expiresAt)
    ⟨.timestamp, "delivery clock exceeds the claim lease"⟩
  rejectIf (outcome.clockReading.observedAt > outcome.result.startedAt)
    ⟨.timestamp, "delivery begins before immediate authority validation"⟩
  validateOutcomeCancellation request outcome.cancellationObservation
  validateOutcomeCredential request outcome.credentialLeaseReference
  fromPorts (validateRuntimeEffectDeliveryResult request.envelope request.attempt outcome.result)

/-- The cancellation a blocked delivery observed, if any. -/
def cancellationId (observation : Option RuntimeCancellationObservation) : Option UUID :=
  observation.map (·.runtimeCancellationReferenceId)

/-- The append that records a blocked delivery must follow the stored
`DELIVERING` revision and carry the evidence of this very block. -/
def validateRuntimeOrchestrationNotInvokedAppend (request : RuntimeOrchestrationDeliveryRequest)
    (deliveringRequest appendRequest : RuntimeEffectLifecycleAppendRequest)
    (reason : RuntimeEffectNotInvokedReason)
    (cancellationObservation : Option RuntimeCancellationObservation) (observedAt : DateTime) :
    Except RuntimeOrchestrationError Unit := do
  fromPorts (validateRuntimeEffectLifecycleAppendRequest appendRequest)
  let append := appendRequest.append
  let differs : RuntimeOrchestrationError :=
    ⟨.binding, "definitely-not-invoked append differs"⟩
  match append.definitelyNotInvoked with
  | none => .error differs
  | some fact =>
      rejectIf (fact.reason ≠ reason ∨
          append.previousLifecycleRecord ≠ deliveringRequest.append.lifecycleRecord ∨
          append.claim ≠ some request.claim ∨ append.attempt ≠ some request.attempt ∨
          fact.observedAt ≠ observedAt ∨
          fact.cancellationObservationId ≠ cancellationId cancellationObservation)
        differs

end PolicyOS.Runtime
