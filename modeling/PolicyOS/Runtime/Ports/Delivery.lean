import PolicyOS.Runtime.Ports.Domain

/-!
# Effect-delivery contracts

The immutable facts of one external effect and of every attempt to deliver it.
A contract that validates itself at construction carries that check as a field,
so that a value here is always one the source could have built.
-/

namespace PolicyOS.Runtime

/-- The closed lifecycle of one effect. -/
inductive RuntimeEffectLifecycleStatus
  | enqueued | claimed | delivering | delivered | retryScheduled | ambiguous | deadLettered
  deriving DecidableEq, Repr

/-- What an adapter result says about the effect. -/
inductive RuntimeEffectDeliveryCertainty
  | delivered | definitelyNotDelivered | ambiguous
  deriving DecidableEq, Repr

/-- Whether a retry decision schedules another attempt. -/
inductive RuntimeEffectRetryDecisionStatus
  | approved | denied
  deriving DecidableEq, Repr

/-- What a reconciliation observed. -/
inductive RuntimeEffectReconciliationOutcome
  | confirmedDelivered | confirmedNotDelivered | stillAmbiguous | observationUnavailable
  deriving DecidableEq, Repr

/-- Stable identity of one intended business effect across attempts. -/
@[ext] structure RuntimeEffectIdentity where
  runtimeEffectId : UUID
  tenantId : UUID
  organizationId : UUID
  runtimeExecutionRequestId : UUID
  executionPlanId : UUID
  executionPlanStepId : UUID
  actionDefinitionId : BoundedId
  action : BoundedId
  actionVersion : BoundedVersion
  destinationReference : BoundedId
  payloadSchemaReference : BoundedId
  payloadReference : BoundedId
  payloadDigestReference : BoundedId
  effectIdempotencyKey : BoundedId
  classification : DataClassification
  rootLineageId : UUID
  rootLineageDigestReference : BoundedId
  provenanceReferenceIds : List UUID := []
  originatingOutboxEnqueueRecordId : UUID
  originatingTransactionId : UUID
  originatingTransactionReceiptId : UUID
  effectFingerprintDigestReference : BoundedId
  orderedProvenance : canonical provenanceReferenceIds := by
    first | exact canonical_nil | decide

instance : DecidableEq RuntimeEffectIdentity := fun _ _ =>
  decidable_of_iff' _ RuntimeEffectIdentity.ext_iff

/-- Reference-only immutable facts needed for an exact later delivery. -/
structure RuntimeEffectDeliveryEnvelope where
  runtimeEffectDeliveryEnvelopeId : UUID
  contractVersion : RuntimePortContractVersion
  effectIdentity : RuntimeEffectIdentity
  adapterFamily : RuntimeAdapterFamily
  adapterReference : BoundedId
  adapterContractVersion : BoundedVersion
  runtimeRegistrySnapshotId : UUID
  runtimeActionResolutionDecisionId : UUID
  runtimeRegistrySnapshotEntryId : UUID
  inputSchemaReference : BoundedId
  outputSchemaReference : BoundedId
  resourceReference : BoundedId
  purpose : BoundedId
  executionEnvironment : RuntimeExecutionEnvironment
  riskLevel : RuntimeRiskLevel
  sideEffectLevel : RuntimeActionSideEffectLevel
  sideEffectLevelReference : BoundedId
  actorId : UUID
  agentInstanceId : Option UUID := none
  onBehalfOfUserId : Option UUID := none
  originatingStateRecordId : UUID
  originatingStateRevision : PositiveInt
  originatingAuditTrailId : UUID
  originatingAuditEventId : UUID
  originatingAuditRevision : PositiveInt
  retryPolicyReference : BoundedId
  retryEligible : Bool
  maximumAttemptCount : PositiveInt
  deadlinePolicyReference : BoundedId
  envelopeDigestReference : BoundedId
  createdAt : DateTime
  deriving DecidableEq

/-- One claimant's lease on one lifecycle revision of an effect. -/
@[ext] structure RuntimeEffectClaim where
  runtimeEffectClaimId : UUID
  runtimeEffectId : UUID
  tenantId : UUID
  organizationId : UUID
  expectedLifecycleRevision : PositiveInt
  claimantReference : BoundedId
  leaseId : UUID
  clockReference : BoundedId
  claimedAt : DateTime
  expiresAt : DateTime
  claimDigestReference : BoundedId
  leaseWindow : claimedAt < expiresAt := by decide

instance : DecidableEq RuntimeEffectClaim := fun _ _ =>
  decidable_of_iff' _ RuntimeEffectClaim.ext_iff

/-- One governed attempt under one claim. -/
@[ext] structure RuntimeEffectDeliveryAttempt where
  runtimeEffectDeliveryAttemptId : UUID
  runtimeEffectId : UUID
  attemptNumber : PositiveInt
  runtimeEffectClaimId : UUID
  leaseId : UUID
  runtimeAuthorityBundleId : UUID
  runtimeAdmissionDecisionId : UUID
  permitReferenceIds : List UUID
  policyRevision : PositiveInt
  authorizationRevision : Option PositiveInt := none
  registryRevision : PositiveInt
  stateRevision : PositiveInt
  auditRevision : PositiveInt
  credentialLeaseReferenceId : Option UUID := none
  cancellationReferenceId : Option UUID := none
  clockReference : BoundedId
  requestedAt : DateTime
  deadline : DateTime
  attemptDigestReference : BoundedId
  orderedPermits : permitReferenceIds ≠ [] ∧ canonical permitReferenceIds := by decide
  deadlineWindow : requestedAt < deadline := by decide

instance : DecidableEq RuntimeEffectDeliveryAttempt := fun _ _ =>
  decidable_of_iff' _ RuntimeEffectDeliveryAttempt.ext_iff

/-- The exact facts handed to a delivery adapter. -/
structure RuntimeEffectDeliveryInvocation where
  runtimeEffectDeliveryInvocationId : UUID
  envelope : RuntimeEffectDeliveryEnvelope
  claim : RuntimeEffectClaim
  attempt : RuntimeEffectDeliveryAttempt
  exactEffectAndAttempt :
    claim.runtimeEffectId = envelope.effectIdentity.runtimeEffectId ∧
    attempt.runtimeEffectId = envelope.effectIdentity.runtimeEffectId ∧
    attempt.runtimeEffectClaimId = claim.runtimeEffectClaimId ∧
    attempt.leaseId = claim.leaseId := by decide
  deriving DecidableEq

/-- Evidence a delivery result may and must carry for its certainty. -/
def boundedDeliveryOutcome (certainty : RuntimeEffectDeliveryCertainty)
    (result resultDigest acknowledgement acknowledgementDigest : Option BoundedId)
    (failureCode : Option RuntimePortErrorCode) (failure : Option BoundedId) : Prop :=
  (result = none ↔ resultDigest = none) ∧
  (acknowledgement = none ↔ acknowledgementDigest = none) ∧
  (failureCode = none ↔ failure = none) ∧
  (certainty = .delivered → result ≠ none ∧ acknowledgement ≠ none ∧ failureCode = none) ∧
  (certainty ≠ .delivered → failureCode ≠ none ∧ result = none) ∧
  (certainty = .definitelyNotDelivered → acknowledgement = none)

instance {certainty result resultDigest acknowledgement acknowledgementDigest failureCode failure} :
    Decidable (boundedDeliveryOutcome certainty result resultDigest acknowledgement
      acknowledgementDigest failureCode failure) :=
  inferInstanceAs (Decidable (_ ∧ _ ∧ _ ∧ _ ∧ _ ∧ _))

/-- What an adapter reported for one attempt. -/
@[ext] structure RuntimeEffectDeliveryResult where
  runtimeEffectDeliveryResultId : UUID
  runtimeEffectId : UUID
  runtimeEffectDeliveryAttemptId : UUID
  certainty : RuntimeEffectDeliveryCertainty
  adapterReference : BoundedId
  adapterContractVersion : BoundedVersion
  resultReference : Option BoundedId := none
  resultDigestReference : Option BoundedId := none
  acknowledgementReference : Option BoundedId := none
  acknowledgementDigestReference : Option BoundedId := none
  failureCode : Option RuntimePortErrorCode := none
  failureReference : Option BoundedId := none
  startedAt : DateTime
  completedAt : DateTime
  resultFactDigestReference : BoundedId
  completionOrder : startedAt ≤ completedAt := by decide
  boundedOutcome : boundedDeliveryOutcome certainty resultReference resultDigestReference
    acknowledgementReference acknowledgementDigestReference failureCode failureReference := by
      decide

instance : DecidableEq RuntimeEffectDeliveryResult := fun _ _ =>
  decidable_of_iff' _ RuntimeEffectDeliveryResult.ext_iff

/-- Side-effect levels whose retry is never automatic. -/
def RuntimeActionSideEffectLevel.prohibitsAutomaticRetry (level : RuntimeActionSideEffectLevel) :
    Prop :=
  level ∈ [.publication, .deployment, .destructive, .securityControl, .quarantineAction]

instance (level : RuntimeActionSideEffectLevel) : Decidable level.prohibitsAutomaticRetry :=
  inferInstanceAs (Decidable (_ ∈ _))

/-- A governed decision on one later attempt. -/
@[ext] structure RuntimeEffectRetryDecision where
  runtimeEffectRetryDecisionId : UUID
  runtimeEffectId : UUID
  priorAttemptId : UUID
  nextAttemptId : Option UUID := none
  decisionStatus : RuntimeEffectRetryDecisionStatus
  retryPolicyReference : BoundedId
  maximumAttemptCount : PositiveInt
  completedAttemptCount : NonNegativeInt
  priorCertainty : RuntimeEffectDeliveryCertainty
  reconciliationObservationId : Option UUID := none
  reconciliationOutcome : Option RuntimeEffectReconciliationOutcome := none
  effectFingerprintDigestReference : BoundedId
  runtimeAuthorityBundleId : UUID
  runtimeAdmissionDecisionId : UUID
  permitReferenceIds : List UUID
  sideEffectLevel : RuntimeActionSideEffectLevel
  automatic : Bool
  eligibleAt : Option DateTime := none
  decidedAt : DateTime
  retryDecisionDigestReference : BoundedId
  orderedPermits : permitReferenceIds ≠ [] ∧ canonical permitReferenceIds := by decide
  approvedGate : decisionStatus = .approved →
    (priorCertainty = .definitelyNotDelivered ∨
      reconciliationObservationId ≠ none ∧
        reconciliationOutcome = some .confirmedNotDelivered) ∧
    nextAttemptId ≠ none ∧ eligibleAt ≠ none ∧ nextAttemptId ≠ some priorAttemptId ∧
    completedAttemptCount.val < maximumAttemptCount.val ∧
    ¬ (automatic = true ∧ sideEffectLevel.prohibitsAutomaticRetry) := by decide
  deniedGate : decisionStatus = .denied → nextAttemptId = none ∧ eligibleAt = none := by decide
  observationPair :
    (reconciliationObservationId = none ↔ reconciliationOutcome = none) ∧
    (decisionStatus = .approved → reconciliationObservationId ≠ none →
      reconciliationOutcome = some .confirmedNotDelivered) := by decide

instance : DecidableEq RuntimeEffectRetryDecision := fun _ _ =>
  decidable_of_iff' _ RuntimeEffectRetryDecision.ext_iff

/-- The terminal fact of an effect whose delivery stopped. -/
@[ext] structure RuntimeEffectDeadLetterRecord where
  runtimeEffectDeadLetterRecordId : UUID
  runtimeEffectId : UUID
  tenantId : UUID
  organizationId : UUID
  terminalLifecycleRevision : PositiveInt
  attemptReferenceIds : List UUID := []
  safeFailureCode : RuntimePortErrorCode
  safeFailureReference : BoundedId
  policyReference : BoundedId
  runtimeAuthorityBundleId : UUID
  classification : DataClassification
  rootLineageId : UUID
  rootLineageDigestReference : BoundedId
  terminalReasonReference : BoundedId
  deadLetteredAt : DateTime
  deadLetterDigestReference : BoundedId
  orderedAttempts : canonical attemptReferenceIds := by
    first | exact canonical_nil | decide

instance : DecidableEq RuntimeEffectDeadLetterRecord := fun _ _ =>
  decidable_of_iff' _ RuntimeEffectDeadLetterRecord.ext_iff

/-- A bounded observation of an ambiguous delivery. -/
@[ext] structure RuntimeEffectReconciliationObservation where
  runtimeEffectReconciliationObservationId : UUID
  runtimeEffectReconciliationRequestId : UUID
  runtimeEffectId : UUID
  tenantId : UUID
  organizationId : UUID
  destinationReference : BoundedId
  connectorProvisioningReference : BoundedId
  effectIdempotencyKey : BoundedId
  rootLineageId : UUID
  rootLineageDigestReference : BoundedId
  acknowledgementReference : Option BoundedId := none
  acknowledgementDigestReference : Option BoundedId := none
  observationCapabilityReference : BoundedId
  runtimeAuthorityBundleId : UUID
  permitReferenceIds : List UUID
  outcome : RuntimeEffectReconciliationOutcome
  observationReference : Option BoundedId := none
  observationDigestReference : Option BoundedId := none
  failureReference : Option BoundedId := none
  classification : DataClassification
  observedAt : DateTime
  orderedPermits : permitReferenceIds ≠ [] ∧ canonical permitReferenceIds := by decide
  boundedObservation :
    (acknowledgementReference = none ↔ acknowledgementDigestReference = none) ∧
    (observationReference = none ↔ observationDigestReference = none) ∧
    (outcome = .observationUnavailable → failureReference ≠ none ∧ observationReference = none) ∧
    (outcome ≠ .observationUnavailable →
      observationReference ≠ none ∧ failureReference = none) := by decide

instance : DecidableEq RuntimeEffectReconciliationObservation := fun _ _ =>
  decidable_of_iff' _ RuntimeEffectReconciliationObservation.ext_iff

/-- The evidence a lifecycle record can refer to. -/
inductive LifecycleEvidenceName
  | claim | attempt | result | retry | deadLetter | observation
  deriving DecidableEq, Repr

/-- The word used for an evidence kind in error messages. -/
def LifecycleEvidenceName.text : LifecycleEvidenceName → String
  | .claim => "claim"
  | .attempt => "attempt"
  | .result => "result"
  | .retry => "retry"
  | .deadLetter => "dead_letter"
  | .observation => "observation"

namespace RuntimeEffectLifecycleStatus

/-- Evidence a record of this status must refer to. -/
def requiredEvidence : RuntimeEffectLifecycleStatus → List LifecycleEvidenceName
  | enqueued => []
  | claimed => [.claim]
  | delivering => [.claim, .attempt]
  | delivered => [.attempt, .result]
  | retryScheduled => [.attempt, .retry]
  | ambiguous => [.attempt, .result]
  | deadLettered => [.deadLetter]

/-- Evidence a record of this status may refer to. -/
def allowedEvidence : RuntimeEffectLifecycleStatus → List LifecycleEvidenceName
  | enqueued => []
  | claimed => [.claim]
  | delivering => [.claim, .attempt]
  | delivered => [.attempt, .result, .observation]
  | retryScheduled => [.attempt, .retry, .observation]
  | ambiguous => [.attempt, .result]
  | deadLettered => [.attempt, .result, .observation, .deadLetter]

/-- The statuses a record of this status may be followed by. -/
def allowedSuccessors : RuntimeEffectLifecycleStatus → List RuntimeEffectLifecycleStatus
  | enqueued => [claimed, deadLettered]
  | claimed => [claimed, delivering, deadLettered]
  | delivering => [delivered, retryScheduled, ambiguous, deadLettered]
  | retryScheduled => [claimed, deadLettered]
  | ambiguous => [delivered, retryScheduled, deadLettered]
  | delivered => []
  | deadLettered => []

/-- Statuses no further revision may follow. -/
def terminal : List RuntimeEffectLifecycleStatus := [delivered, deadLettered]

end RuntimeEffectLifecycleStatus

/-- One immutable revision of an effect's lifecycle. -/
structure RuntimeEffectLifecycleRecord where
  runtimeEffectLifecycleRecordId : UUID
  runtimeEffectId : UUID
  lifecycleRevision : PositiveInt
  status : RuntimeEffectLifecycleStatus
  previousLifecycleRecordId : Option UUID := none
  previousLifecycleDigestReference : Option BoundedId := none
  runtimeEffectClaimId : Option UUID := none
  runtimeEffectDeliveryAttemptId : Option UUID := none
  runtimeEffectDeliveryResultId : Option UUID := none
  runtimeEffectRetryDecisionId : Option UUID := none
  runtimeEffectReconciliationObservationId : Option UUID := none
  runtimeEffectDeadLetterRecordId : Option UUID := none
  recordedAt : DateTime
  lifecycleDigestReference : BoundedId
  revisionOrigin :
    (lifecycleRevision.val = 1 → status = .enqueued ∧ previousLifecycleRecordId = none ∧
      previousLifecycleDigestReference = none) ∧
    (lifecycleRevision.val ≠ 1 → previousLifecycleRecordId ≠ none ∧
      previousLifecycleDigestReference ≠ none) := by decide
  claimEvidence :
    (.claim ∈ status.requiredEvidence → runtimeEffectClaimId ≠ none) ∧
    (runtimeEffectClaimId ≠ none → .claim ∈ status.allowedEvidence) := by decide
  attemptEvidence :
    (.attempt ∈ status.requiredEvidence → runtimeEffectDeliveryAttemptId ≠ none) ∧
    (runtimeEffectDeliveryAttemptId ≠ none → .attempt ∈ status.allowedEvidence) := by decide
  resultEvidence :
    (.result ∈ status.requiredEvidence → runtimeEffectDeliveryResultId ≠ none) ∧
    (runtimeEffectDeliveryResultId ≠ none → .result ∈ status.allowedEvidence) := by decide
  retryEvidence :
    (.retry ∈ status.requiredEvidence → runtimeEffectRetryDecisionId ≠ none) ∧
    (runtimeEffectRetryDecisionId ≠ none → .retry ∈ status.allowedEvidence) := by decide
  observationEvidence :
    (.observation ∈ status.requiredEvidence →
      runtimeEffectReconciliationObservationId ≠ none) ∧
    (runtimeEffectReconciliationObservationId ≠ none →
      .observation ∈ status.allowedEvidence) := by decide
  deadLetterEvidence :
    (.deadLetter ∈ status.requiredEvidence → runtimeEffectDeadLetterRecordId ≠ none) ∧
    (runtimeEffectDeadLetterRecordId ≠ none → .deadLetter ∈ status.allowedEvidence) := by decide
  deriving DecidableEq

end PolicyOS.Runtime
