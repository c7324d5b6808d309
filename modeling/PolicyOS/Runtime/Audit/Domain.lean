import PolicyOS.Domain.Primitives

/-!
# Runtime audit trails

One event of an execution with the references its category asks for, and the
trail that chains the events of one execution. Only metadata is recorded: every
reference is an identifier or a bounded string.
-/

namespace PolicyOS.Runtime

/-- What an audit event records. -/
inductive RuntimeAuditEventCategory
  | executionRequested | admissionGranted | admissionDenied | planCreated | planValidated
  | executionStarted | stepStarted | actionRequested | actionSucceeded | actionFailed
  | retryRequested | retryRecorded | cancellationRequested | executionCancelled
  | compensationRequested | compensationStarted | compensationCompleted | executionCompleted
  | executionInvalidated
  deriving DecidableEq, Repr

/-- Safe error codes an event may carry. -/
inductive RuntimeAuditSafeErrorCode
  | authorityDenied | validationFailed | scopeMismatch | classificationMismatch
  | revisionMismatch | permitInvalid | actionUnavailable | adapterRejected | timeout
  | cancellation | compensationFailed | callerSupplied
  deriving DecidableEq, Repr

/-- Versions of the audit contract. -/
structure RuntimeAuditContractVersion where
  runtimeAuditVersion : BoundedVersion
  runtimeAuditContractVersion : BoundedVersion
  runtimeAuditSchemaVersion : BoundedVersion
  deriving DecidableEq

/-- The governed scope of an event or a trail. -/
@[ext] structure RuntimeAuditScope where
  runtimeExecutionRequestId : UUID
  actorId : UUID
  agentInstanceId : Option UUID := none
  onBehalfOfUserId : Option UUID := none
  tenantId : UUID
  organizationId : UUID
  classification : DataClassification
  rootLineageId : UUID
  rootLineageDigestReference : BoundedId
  provenanceReferenceIds : List UUID := []
  policyRevision : PositiveInt
  authorizationRevision : Option PositiveInt := none
  registryRevision : Option PositiveInt := none
  orderedProvenance : canonical provenanceReferenceIds := by
    first | exact canonical_nil | decide

instance : DecidableEq RuntimeAuditScope := fun _ _ => decidable_of_iff' _ RuntimeAuditScope.ext_iff

/-- The authority an event refers to. -/
structure RuntimeAuditAuthorityReferences where
  runtimeAuthorityBundleId : Option UUID := none
  runtimeAdmissionDecisionId : Option UUID := none
  reviewReferenceIds : List UUID := []
  approvalReferenceIds : List UUID := []
  authorizationReferenceIds : List UUID := []
  permitReferenceIds : List UUID := []
  orderedGroups : canonical reviewReferenceIds ∧ canonical approvalReferenceIds ∧
    canonical authorizationReferenceIds ∧ canonical permitReferenceIds := by decide
  deriving DecidableEq

/-- The plan, state and attempt an event refers to. -/
structure RuntimeAuditExecutionReferences where
  executionPlanId : Option UUID := none
  executionPlanValidationRecordId : Option UUID := none
  executionPlanStepId : Option UUID := none
  runtimeExecutionStateRecordId : Option UUID := none
  runtimeStateTransitionRecordId : Option UUID := none
  attemptId : Option UUID := none
  priorAttemptId : Option UUID := none
  stateRevision : Option PositiveInt := none
  deriving DecidableEq

/-- The registered action an event refers to. -/
structure RuntimeAuditActionReferences where
  runtimeRegistrySnapshotId : Option UUID := none
  registryRevision : Option PositiveInt := none
  runtimeActionResolutionDecisionId : Option UUID := none
  runtimeRegistrySnapshotEntryId : Option UUID := none
  actionDefinitionId : Option BoundedId := none
  actionVersion : Option BoundedVersion := none
  action : Option BoundedId := none
  destinationReference : Option BoundedId := none
  idempotencyKey : Option BoundedId := none
  deriving DecidableEq

/-- The outcome an event refers to. -/
structure RuntimeAuditOutcomeReference where
  resultReference : Option BoundedId := none
  reasonReference : Option BoundedId := none
  errorCode : Option RuntimeAuditSafeErrorCode := none
  errorReference : Option BoundedId := none
  retryGovernanceReference : Option BoundedId := none
  cancellationReference : Option BoundedId := none
  compensationReference : Option BoundedId := none
  invalidationReference : Option BoundedId := none
  deriving DecidableEq

/-- One event: the first has no predecessor and records the request, every other has
an exact one. -/
structure RuntimeAuditEvent where
  runtimeAuditEventId : UUID
  contractVersion : RuntimeAuditContractVersion
  category : RuntimeAuditEventCategory
  sequence : PositiveInt
  previousEventId : Option UUID := none
  previousEventDigestReference : Option BoundedId := none
  eventDigestReference : BoundedId
  scope : RuntimeAuditScope
  authority : RuntimeAuditAuthorityReferences := {}
  execution : RuntimeAuditExecutionReferences := {}
  action : RuntimeAuditActionReferences := {}
  outcome : RuntimeAuditOutcomeReference := {}
  occurredAt : DateTime
  firstEvent : sequence.val = 1 → previousEventId = none ∧
    previousEventDigestReference = none ∧ category = .executionRequested := by decide
  laterEvent : sequence.val ≠ 1 → previousEventId ≠ none ∧
    previousEventDigestReference ≠ none := by decide
  deriving DecidableEq

/-- The chained events of one execution. -/
@[ext] structure RuntimeAuditTrail where
  runtimeAuditTrailId : UUID
  contractVersion : RuntimeAuditContractVersion
  trailRevision : PositiveInt
  scope : RuntimeAuditScope
  events : List RuntimeAuditEvent
  trailDigestReference : BoundedId
  createdAt : DateTime
  updatedAt : DateTime
  nonempty : events ≠ [] := by decide
  updatedAfterCreation : createdAt ≤ updatedAt := by decide

instance : DecidableEq RuntimeAuditTrail := fun _ _ => decidable_of_iff' _ RuntimeAuditTrail.ext_iff

/-- The last event of a trail. -/
def RuntimeAuditTrail.latest (trail : RuntimeAuditTrail) : RuntimeAuditEvent :=
  trail.events.getLast trail.nonempty

/-- The exception classes of the audit trail. -/
inductive RuntimeAuditErrorKind
  | appendOnly | canonicalOrder | category | chain | classification | reference | revision
  | scope | sequence | timestamp
  deriving DecidableEq, Repr

/-- A typed failure with its message. -/
structure RuntimeAuditError where
  kind : RuntimeAuditErrorKind
  message : String
  deriving DecidableEq, Repr

end PolicyOS.Runtime
