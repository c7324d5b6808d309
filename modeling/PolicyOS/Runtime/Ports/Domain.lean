import PolicyOS.Domain.Primitives

/-!
# Metadata shared by the runtime ports

The enumerations and scope facts that the delivery contracts refer to, and the
typed errors that port validation and the persistence behind it raise.
-/

namespace PolicyOS.Runtime

/-- Families of external adapters. -/
inductive RuntimeAdapterFamily
  | model | provider | mcp | connector | internalAction
  deriving DecidableEq, Repr

/-- Safe failure codes carried by port facts. -/
inductive RuntimePortErrorCode
  | unavailable | conflict | notFound | timeout | cancelled | scopeMismatch
  | classificationMismatch | revisionMismatch | idempotencyConflict | credentialUnavailable
  | adapterRejected | storageFailure | transactionFailure | outboxFailure | callerSupplied
  deriving DecidableEq, Repr

/-- Where an effect is executed. -/
inductive RuntimeExecutionEnvironment
  | validationOnly | dryRun | sandbox | internal | external
  deriving DecidableEq, Repr

/-- Risk of an action. -/
inductive RuntimeRiskLevel
  | low | moderate | high | critical
  deriving DecidableEq, Repr

/-- Side-effect level of an action definition. -/
inductive RuntimeActionSideEffectLevel
  | none | readOnly | internalWrite | externalWrite | publication | externalTransmission
  | deployment | destructive | securityControl | quarantineAction
  deriving DecidableEq, Repr

/-- Versions of the ports contract. -/
structure RuntimePortContractVersion where
  runtimePortsVersion : BoundedVersion
  runtimePortsContractVersion : BoundedVersion
  runtimePortsSchemaVersion : BoundedVersion
  deriving DecidableEq, Repr

/-- The governed scope one port call is bound to. -/
@[ext] structure RuntimePortScope where
  runtimeExecutionRequestId : UUID
  runtimeAuthorityBundleId : UUID
  runtimeAdmissionDecisionId : UUID
  executionPlanId : UUID
  executionPlanStepId : UUID
  attemptId : UUID
  actorId : UUID
  agentInstanceId : Option UUID := none
  onBehalfOfUserId : Option UUID := none
  tenantId : UUID
  organizationId : UUID
  classification : DataClassification
  rootLineageId : UUID
  rootLineageDigestReference : BoundedId
  provenanceReferenceIds : List UUID := []
  policyRevision : PositiveInt
  authorizationRevision : Option PositiveInt := none
  registryRevision : PositiveInt
  stateRevision : PositiveInt
  orderedProvenance : canonical provenanceReferenceIds := by
    first | exact canonical_nil | decide

instance : DecidableEq RuntimePortScope := fun _ _ => decidable_of_iff' _ RuntimePortScope.ext_iff

/-- The local outbox fact an effect originates from. -/
@[ext] structure RuntimeOutboxEnqueueRecord where
  runtimeOutboxEnqueueRecordId : UUID
  contractVersion : RuntimePortContractVersion
  outboxRevision : PositiveInt
  scope : RuntimePortScope
  actionDefinitionId : BoundedId
  action : BoundedId
  actionVersion : BoundedVersion
  adapterReference : BoundedId
  destinationReference : BoundedId
  payloadSchemaReference : BoundedId
  payloadReference : BoundedId
  payloadDigestReference : BoundedId
  permitReferenceIds : List UUID
  idempotencyKey : BoundedId
  runtimeAuditTrailId : UUID
  runtimeAuditEventId : UUID
  auditTrailRevision : PositiveInt
  enqueueDigestReference : BoundedId
  enqueuedAt : DateTime
  orderedPermits : permitReferenceIds ≠ [] ∧ canonical permitReferenceIds := by decide
  initialRevision : outboxRevision.val = 1 := by decide

instance : DecidableEq RuntimeOutboxEnqueueRecord := fun _ _ =>
  decidable_of_iff' _ RuntimeOutboxEnqueueRecord.ext_iff

/-- The exception classes raised by the ports and by the persistence behind
them. -/
inductive RuntimePortErrorKind
  | contract | scope | classification | revision | reference | timestamp | adapter | transaction
  | lifecycle | claim | retry | reconciliation | effectConflict | persistence
  | persistenceConflict | multipleResults | validation
  deriving DecidableEq, Repr

/-- A typed failure with its message. -/
structure RuntimePortError where
  kind : RuntimePortErrorKind
  message : String
  deriving DecidableEq, Repr

/-!
# Clock, cancellation and credential ports

What the ports around a delivery answer with: one reading of the injected clock,
one observation of a cooperative cancellation, and one opaque credential lease.
-/

/-- One reading of the injected clock. -/
structure RuntimeClockReading where
  clockReference : BoundedId
  observedAt : DateTime
  deriving DecidableEq

/-- Whether a cancellation was observed. -/
inductive RuntimeCancellationStatus
  | notRequested | requested | unknown
  deriving DecidableEq, Repr

/-- The cancellation a caller asks to be observed. -/
structure RuntimeCancellationReference where
  runtimeCancellationReferenceId : UUID
  reasonReference : BoundedId
  requestedByActorId : UUID
  requestedAt : DateTime
  deriving DecidableEq

/-- What the cancellation port observed. -/
structure RuntimeCancellationObservation where
  runtimeCancellationReferenceId : UUID
  runtimeExecutionRequestId : UUID
  attemptId : UUID
  tenantId : UUID
  organizationId : UUID
  classification : DataClassification
  status : RuntimeCancellationStatus
  observationReference : BoundedId
  observedAt : DateTime
  deriving DecidableEq

/-- Whether the broker issued a lease. -/
inductive RuntimeCredentialLeaseStatus
  | issued | denied
  deriving DecidableEq, Repr

/-- The lease a caller asks the broker for. -/
structure RuntimeCredentialLeaseRequest where
  runtimeCredentialLeaseRequestId : UUID
  adapterReference : BoundedId
  credentialReference : BoundedId
  requestedAt : DateTime
  expiresAt : DateTime
  lifetime : requestedAt < expiresAt := by decide
  deriving DecidableEq

/-- An issued lease. It records no status of its own: the status is a fact of
the outcome that carries it. -/
structure RuntimeCredentialLeaseReference where
  runtimeCredentialLeaseReferenceId : UUID
  runtimeCredentialLeaseRequestId : UUID
  credentialReference : BoundedId
  tenantId : UUID
  organizationId : UUID
  actorId : UUID
  attemptId : UUID
  classification : DataClassification
  issuedAt : DateTime
  expiresAt : DateTime
  lifetime : issuedAt < expiresAt := by decide
  deriving DecidableEq

/-- The broker's answer: a lease exactly when it was issued, a failure code
otherwise. -/
structure RuntimeCredentialLeaseOutcome where
  runtimeCredentialLeaseRequestId : UUID
  status : RuntimeCredentialLeaseStatus
  leaseReference : Option RuntimeCredentialLeaseReference := none
  failure : Option RuntimePortErrorCode := none
  decidedAt : DateTime
  outcome : (status = .issued ↔ leaseReference ≠ none) ∧ (status = .issued ↔ failure = none) := by
    decide
  deriving DecidableEq

end PolicyOS.Runtime
