import PolicyOS.Foundation.Checked
import PolicyOS.Runtime.Audit.Domain
import PolicyOS.Runtime.Ports.Domain
import PolicyOS.Runtime.State.Domain

/-!
# Atomic write sets

The facts one local transaction commits together: a state record and an audit
trail one revision further than expected, the reservation of an idempotency key,
an optional outbox entry, and the receipts the commit will give for them.
-/

namespace PolicyOS.Runtime

open Foundation

/-- The reservation of the idempotency key of one action. -/
structure RuntimeIdempotencyReservation where
  runtimeIdempotencyReservationId : UUID
  idempotencyKey : BoundedId
  scope : RuntimePortScope
  actionDefinitionId : BoundedId
  action : BoundedId
  actionVersion : BoundedVersion
  reservationDigestReference : BoundedId
  reservedAt : DateTime
  deriving DecidableEq

/-- The kinds of records in a write set. -/
inductive RuntimeTransactionRecordType
  | executionState | auditTrail | idempotencyReservation | outboxEnqueue
  deriving DecidableEq, Repr

/-- What the receipt of one record will say. -/
structure RuntimeTransactionRecordReceiptFact where
  recordType : RuntimeTransactionRecordType
  recordId : UUID
  runtimeRepositoryWriteReceiptId : UUID
  recordRevision : PositiveInt
  recordDigestReference : BoundedId
  deriving DecidableEq

/-- What the receipt of a transaction will say, record by record. -/
structure RuntimeTransactionCommitFacts where
  runtimeTransactionReceiptId : UUID
  recordReceipts : List RuntimeTransactionRecordReceiptFact
  transactionDigestReference : BoundedId
  clockReference : BoundedId
  canonicalReceipts : recordReceipts ≠ [] ∧
    canonical (recordReceipts.map (·.runtimeRepositoryWriteReceiptId)) := by decide
  uniqueTypes : (recordReceipts.map (·.recordType)).Nodup := by decide
  uniqueIds : (recordReceipts.map (·.recordId)).Nodup := by decide
  deriving DecidableEq

/-- The receipt fact of one kind of record. -/
def RuntimeTransactionCommitFacts.receiptFact (facts : RuntimeTransactionCommitFacts)
    (recordType : RuntimeTransactionRecordType) : Option RuntimeTransactionRecordReceiptFact :=
  facts.recordReceipts.find? (·.recordType = recordType)

/-- The facts one transaction commits together. -/
structure RuntimeAtomicWriteSet where
  runtimeTransactionId : UUID
  contractVersion : RuntimePortContractVersion
  stateRecord : RuntimeExecutionStateRecord
  auditTrail : RuntimeAuditTrail
  idempotencyReservation : RuntimeIdempotencyReservation
  outboxEnqueueRecord : Option RuntimeOutboxEnqueueRecord := none
  expectedStateRevision : PositiveInt
  expectedAuditRevision : PositiveInt
  commitFacts : RuntimeTransactionCommitFacts
  requestedAt : DateTime
  deriving DecidableEq

/-- The state record is in the scope the key was reserved in. -/
def RuntimePortScope.boundToState (scope : RuntimePortScope) (state : RuntimeExecutionStateRecord) :
    Prop :=
  state.scope.runtimeExecutionRequestId = scope.runtimeExecutionRequestId ∧
  state.scope.executionPlanId = some scope.executionPlanId ∧
  state.scope.attemptId = scope.attemptId ∧
  state.scope.tenantId = scope.tenantId ∧
  state.scope.organizationId = scope.organizationId ∧
  state.scope.rootLineageId = scope.rootLineageId ∧
  state.scope.rootLineageDigestReference = scope.rootLineageDigestReference ∧
  state.scope.policyRevision = scope.policyRevision ∧
  state.scope.authorizationRevision = scope.authorizationRevision ∧
  state.scope.registryRevision = some scope.registryRevision ∧
  state.currentRevision = scope.stateRevision

instance (scope : RuntimePortScope) (state : RuntimeExecutionStateRecord) :
    Decidable (scope.boundToState state) :=
  inferInstanceAs (Decidable (_ ∧ _ ∧ _ ∧ _ ∧ _ ∧ _ ∧ _ ∧ _ ∧ _ ∧ _ ∧ _))

/-- The audit trail is in the scope the key was reserved in. -/
def RuntimePortScope.boundToAudit (scope : RuntimePortScope) (audit : RuntimeAuditTrail) : Prop :=
  audit.scope.runtimeExecutionRequestId = scope.runtimeExecutionRequestId ∧
  audit.scope.actorId = scope.actorId ∧
  audit.scope.agentInstanceId = scope.agentInstanceId ∧
  audit.scope.onBehalfOfUserId = scope.onBehalfOfUserId ∧
  audit.scope.tenantId = scope.tenantId ∧
  audit.scope.organizationId = scope.organizationId ∧
  audit.scope.rootLineageId = scope.rootLineageId ∧
  audit.scope.rootLineageDigestReference = scope.rootLineageDigestReference ∧
  audit.scope.provenanceReferenceIds = scope.provenanceReferenceIds ∧
  audit.scope.policyRevision = scope.policyRevision ∧
  audit.scope.authorizationRevision = scope.authorizationRevision ∧
  audit.scope.registryRevision = some scope.registryRevision

instance (scope : RuntimePortScope) (audit : RuntimeAuditTrail) :
    Decidable (scope.boundToAudit audit) :=
  inferInstanceAs (Decidable (_ ∧ _ ∧ _ ∧ _ ∧ _ ∧ _ ∧ _ ∧ _ ∧ _ ∧ _ ∧ _ ∧ _))

/-- The event records the reserved action. -/
def RuntimeAuditEvent.ofReservation (event : RuntimeAuditEvent)
    (reservation : RuntimeIdempotencyReservation) : Prop :=
  event.scope.runtimeExecutionRequestId = reservation.scope.runtimeExecutionRequestId ∧
  event.execution.executionPlanId = some reservation.scope.executionPlanId ∧
  event.execution.executionPlanStepId = some reservation.scope.executionPlanStepId ∧
  event.execution.attemptId = some reservation.scope.attemptId ∧
  event.action.idempotencyKey = some reservation.idempotencyKey

instance (event : RuntimeAuditEvent) (reservation : RuntimeIdempotencyReservation) :
    Decidable (event.ofReservation reservation) :=
  inferInstanceAs (Decidable (_ ∧ _ ∧ _ ∧ _ ∧ _))

/-- The outbox entry is of the reserved action and of the last audit event. -/
def RuntimeOutboxEnqueueRecord.ofWriteSet (outbox : RuntimeOutboxEnqueueRecord)
    (writeSet : RuntimeAtomicWriteSet) : Prop :=
  outbox.scope = writeSet.idempotencyReservation.scope ∧
  outbox.actionDefinitionId = writeSet.idempotencyReservation.actionDefinitionId ∧
  outbox.action = writeSet.idempotencyReservation.action ∧
  outbox.actionVersion = writeSet.idempotencyReservation.actionVersion ∧
  outbox.idempotencyKey = writeSet.idempotencyReservation.idempotencyKey ∧
  outbox.runtimeAuditTrailId = writeSet.auditTrail.runtimeAuditTrailId ∧
  outbox.runtimeAuditEventId = writeSet.auditTrail.latest.runtimeAuditEventId ∧
  outbox.auditTrailRevision = writeSet.auditTrail.trailRevision

instance (outbox : RuntimeOutboxEnqueueRecord) (writeSet : RuntimeAtomicWriteSet) :
    Decidable (outbox.ofWriteSet writeSet) :=
  inferInstanceAs (Decidable (_ ∧ _ ∧ _ ∧ _ ∧ _ ∧ _ ∧ _ ∧ _))

/-- The kinds of records a write set holds. -/
def RuntimeAtomicWriteSet.expectedTypes (writeSet : RuntimeAtomicWriteSet) :
    List RuntimeTransactionRecordType :=
  [.executionState, .auditTrail, .idempotencyReservation] ++
    (writeSet.outboxEnqueueRecord.map fun _ => .outboxEnqueue).toList

/-- The receipt facts must be of exactly the records in the write set. -/
def validateRuntimeTransactionCommitFacts (writeSet : RuntimeAtomicWriteSet) :
    Except RuntimePortError Unit := do
  let state := writeSet.stateRecord
  let audit := writeSet.auditTrail
  let reservation := writeSet.idempotencyReservation
  let facts := writeSet.commitFacts
  rejectIf ((∃ item ∈ facts.recordReceipts, item.recordType ∉ writeSet.expectedTypes) ∨
      ∃ recordType ∈ writeSet.expectedTypes, recordType ∉
        facts.recordReceipts.map (·.recordType))
    ⟨.transaction, "transaction commit facts do not bind the exact atomic record set"⟩
  rejectIf ((facts.receiptFact .executionState).map (fun fact =>
        (fact.recordId, fact.recordRevision)) ≠
      some (state.runtimeExecutionStateRecordId, state.currentRevision))
    ⟨.transaction, "transaction state receipt fact differs from the atomic state record"⟩
  rejectIf ((facts.receiptFact .auditTrail).map (fun fact =>
        (fact.recordId, fact.recordRevision, fact.recordDigestReference)) ≠
      some (audit.runtimeAuditTrailId, audit.trailRevision, audit.trailDigestReference))
    ⟨.transaction, "transaction audit receipt fact differs from the atomic audit trail"⟩
  rejectIf ((facts.receiptFact .idempotencyReservation).map (fun fact =>
        (fact.recordId, fact.recordRevision.val, fact.recordDigestReference)) ≠
      some (reservation.runtimeIdempotencyReservationId, 1,
        reservation.reservationDigestReference))
    ⟨.transaction, "transaction idempotency receipt fact differs from the reservation"⟩
  match writeSet.outboxEnqueueRecord with
  | none => .ok ()
  | some outbox =>
    rejectIf ((facts.receiptFact .outboxEnqueue).map (fun fact =>
          (fact.recordId, fact.recordRevision, fact.recordDigestReference)) ≠
        some (outbox.runtimeOutboxEnqueueRecordId, outbox.outboxRevision,
          outbox.enqueueDigestReference))
      ⟨.transaction, "transaction outbox receipt fact differs from the enqueue record"⟩

/-- The facts of a write set must advance each record once, agree with each other,
and be of the past. -/
def validateRuntimeAtomicWriteSet (writeSet : RuntimeAtomicWriteSet) :
    Except RuntimePortError Unit := do
  let state := writeSet.stateRecord
  let audit := writeSet.auditTrail
  let reservation := writeSet.idempotencyReservation
  let scope := reservation.scope
  rejectIf (state.currentRevision.val ≠ writeSet.expectedStateRevision.val + 1)
    ⟨.revision, "atomic state revision must increment exactly once"⟩
  rejectIf (audit.trailRevision.val ≠ writeSet.expectedAuditRevision.val + 1)
    ⟨.revision, "atomic audit revision must increment exactly once"⟩
  rejectIf (¬ scope.boundToState state)
    ⟨.scope, "atomic state record crosses reservation scope"⟩
  rejectIf (¬ scope.boundToAudit audit)
    ⟨.scope, "atomic audit trail crosses reservation scope"⟩
  rejectIf (¬ notLower scope.classification state.scope.classification ∨
      ¬ notLower scope.classification audit.scope.classification)
    ⟨.classification, "atomic write classification is too low"⟩
  rejectIf (¬ audit.latest.ofReservation reservation)
    ⟨.reference, "atomic audit event differs from reservation"⟩
  rejectIf (∃ outbox ∈ writeSet.outboxEnqueueRecord, ¬ outbox.ofWriteSet writeSet)
    ⟨.reference, "outbox enqueue differs from atomic facts"⟩
  rejectIf (∃ time ∈ [state.updatedAt, audit.updatedAt, reservation.reservedAt] ++
        (writeSet.outboxEnqueueRecord.map (·.enqueuedAt)).toList,
      writeSet.requestedAt < time)
    ⟨.timestamp, "atomic write request predates contained facts"⟩
  validateRuntimeTransactionCommitFacts writeSet

end PolicyOS.Runtime
