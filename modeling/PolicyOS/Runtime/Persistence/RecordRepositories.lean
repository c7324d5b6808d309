import PolicyOS.Runtime.Persistence.DeliveryRepositories
import PolicyOS.Runtime.Persistence.RegistryRepositories
import PolicyOS.Runtime.Planning.Domain
import PolicyOS.Runtime.Ports.Invocation

/-!
# Record revisions

The records that are stored, what each of them is stored under, and the rows of the tables: the
head and the revisions of every record, and the transactions they were committed in.
-/

namespace PolicyOS.Runtime

/-! ## Records -/

/-- The kinds of stored records. -/
inductive RuntimePersistenceRecordType
  | executionRequest | authorityBundle | executionPlan | executionState | executionResult
  | auditTrail | permitReference | idempotencyReservation | outboxEnqueue
  deriving DecidableEq, Repr

/-- A record that is stored. -/
inductive RuntimePersistenceRecord
  | executionRequest (record : Authority.RuntimeExecutionRequest)
  | authorityBundle (record : Authority.RuntimeAuthorityBundle)
  | executionPlan (record : ExecutionPlan)
  | executionState (record : RuntimeExecutionStateRecord)
  | executionResult (record : RuntimeAdapterInvocationResult)
  | auditTrail (record : RuntimeAuditTrail)
  | permitReference (record : Authority.RuntimePermitReference)
  | idempotencyReservation (record : RuntimeIdempotencyReservation)
  | outboxEnqueue (record : RuntimeOutboxEnqueueRecord)
  deriving DecidableEq

/-- What a record is found under: its kind and its identifier, in its scope. -/
structure RecordKey where
  recordType : RuntimePersistenceRecordType
  tenantId : UUID
  organizationId : UUID
  recordId : UUID
  deriving DecidableEq, Repr

/-- What a record is stored under. -/
structure RuntimePersistenceRecordMetadata where
  key : RecordKey
  classification : DataClassification
  intrinsicRevision : Option Nat := none
  runtimeExecutionRequestId : Option UUID := none
  executionPlanStepId : Option UUID := none
  attemptId : Option UUID := none
  actionDefinitionId : Option BoundedId := none
  action : Option BoundedId := none
  actionVersion : Option BoundedVersion := none
  idempotencyKey : Option BoundedId := none
  deriving DecidableEq

/-- The metadata of a record. -/
def metadataFor : RuntimePersistenceRecord → RuntimePersistenceRecordMetadata
  | .executionRequest record =>
    { key := ⟨.executionRequest, record.tenantId, record.organizationId,
        record.runtimeExecutionRequestId⟩
      classification := record.classification
      runtimeExecutionRequestId := some record.runtimeExecutionRequestId }
  | .authorityBundle record =>
    { key := ⟨.authorityBundle, record.tenantId, record.organizationId,
        record.runtimeAuthorityBundleId⟩
      classification := record.classification
      runtimeExecutionRequestId := some record.executionRequest.runtimeExecutionRequestId }
  | .executionPlan record =>
    { key := ⟨.executionPlan, record.tenantId, record.organizationId, record.executionPlanId⟩
      classification := record.classification
      runtimeExecutionRequestId := some record.runtimeExecutionRequestId }
  | .executionState record =>
    { key := ⟨.executionState, record.scope.tenantId, record.scope.organizationId,
        record.runtimeExecutionStateRecordId⟩
      classification := record.scope.classification
      intrinsicRevision := some record.currentRevision.val
      runtimeExecutionRequestId := some record.scope.runtimeExecutionRequestId
      attemptId := some record.scope.attemptId }
  | .executionResult record =>
    { key := ⟨.executionResult, record.tenantId, record.organizationId,
        record.runtimeAdapterInvocationResultId⟩
      classification := record.classification
      attemptId := some record.attemptId
      actionDefinitionId := some record.actionDefinitionId
      action := some record.action
      actionVersion := some record.actionVersion }
  | .auditTrail record =>
    { key := ⟨.auditTrail, record.scope.tenantId, record.scope.organizationId,
        record.runtimeAuditTrailId⟩
      classification := record.scope.classification
      intrinsicRevision := some record.trailRevision.val
      runtimeExecutionRequestId := some record.scope.runtimeExecutionRequestId }
  | .permitReference record =>
    { key := ⟨.permitReference, record.tenantId, record.organizationId,
        record.runtimePermitReferenceId⟩
      classification := record.classificationCeiling
      runtimeExecutionRequestId := some record.runtimeExecutionRequestId
      action := some record.selectors.action }
  | .idempotencyReservation record =>
    { key := ⟨.idempotencyReservation, record.scope.tenantId, record.scope.organizationId,
        record.runtimeIdempotencyReservationId⟩
      classification := record.scope.classification
      intrinsicRevision := some 1
      runtimeExecutionRequestId := some record.scope.runtimeExecutionRequestId
      executionPlanStepId := some record.scope.executionPlanStepId
      attemptId := some record.scope.attemptId
      actionDefinitionId := some record.actionDefinitionId
      action := some record.action
      actionVersion := some record.actionVersion
      idempotencyKey := some record.idempotencyKey }
  | .outboxEnqueue record =>
    { key := ⟨.outboxEnqueue, record.scope.tenantId, record.scope.organizationId,
        record.runtimeOutboxEnqueueRecordId⟩
      classification := record.scope.classification
      intrinsicRevision := some record.outboxRevision.val
      runtimeExecutionRequestId := some record.scope.runtimeExecutionRequestId
      executionPlanStepId := some record.scope.executionPlanStepId
      attemptId := some record.scope.attemptId
      actionDefinitionId := some record.actionDefinitionId
      action := some record.action
      actionVersion := some record.actionVersion
      idempotencyKey := some record.idempotencyKey }

/-! ## Tables -/

/-- The current revision of one record. -/
structure RuntimeRecordHead where
  runtimeRecordHeadId : UUID
  key : RecordKey
  classification : DataClassification
  currentRevision : Nat
  currentReceiptId : UUID
  currentDigestReference : BoundedId
  updatedAt : DateTime
  deriving DecidableEq

/-- One revision of one record. -/
structure RuntimeRecordRevision where
  runtimeRepositoryWriteReceiptId : UUID
  runtimeRepositoryWriteRequestId : Option UUID
  runtimeTransactionId : Option UUID
  metadata : RuntimePersistenceRecordMetadata
  recordRevision : Nat
  recordDigestReference : BoundedId
  payload : RuntimePersistenceRecord
  requestedAt : DateTime
  storedAt : DateTime
  deriving DecidableEq

/-- One committed transaction. -/
structure RuntimeTransactionRecord where
  runtimeTransactionReceiptId : UUID
  runtimeTransactionId : UUID
  tenantId : UUID
  organizationId : UUID
  classification : DataClassification
  stateRecordRevision : Nat
  auditTrailRevision : Nat
  idempotencyReservationId : UUID
  outboxEnqueueRecordId : Option UUID
  persistedRecordReceiptIds : List UUID
  transactionDigestReference : BoundedId
  clockReference : BoundedId
  requestedAt : DateTime
  committedAt : DateTime
  deriving DecidableEq

/-- The tables of governed records. -/
structure RuntimeRecordStore where
  heads : List RuntimeRecordHead := []
  revisions : List RuntimeRecordRevision := []
  transactions : List RuntimeTransactionRecord := []
  deriving DecidableEq

end PolicyOS.Runtime
