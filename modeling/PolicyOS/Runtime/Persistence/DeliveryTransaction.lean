import PolicyOS.Runtime.Ports.DeliveryPersistenceValidation

/-!
# Delivery tables

The rows of the effect, head, revision and observation tables, with their primary
keys and unique constraints. Payload columns hold the value that was serialized
into them. Columns that no query, constraint or projection reads are left out.
-/

namespace PolicyOS.Runtime

/-- The scope key one effect's rows share. -/
structure EffectKey where
  tenantId : UUID
  organizationId : UUID
  runtimeEffectId : UUID
  deriving DecidableEq, Repr

/-- The key of an effect identity. -/
def RuntimeEffectIdentity.key (identity : RuntimeEffectIdentity) : EffectKey :=
  ⟨identity.tenantId, identity.organizationId, identity.runtimeEffectId⟩

/-- One stored effect. -/
structure RuntimeEffect where
  runtimeEffectReceiptId : UUID
  runtimeEffectId : UUID
  tenantId : UUID
  organizationId : UUID
  classification : DataClassification
  effectIdempotencyKey : BoundedId
  initialEffectEnqueuePayload : RuntimeInitialEffectEnqueue
  storedAt : DateTime
  deriving DecidableEq

/-- The current revision of one effect, with the projections queries use. -/
structure RuntimeEffectLifecycleHead where
  tenantId : UUID
  organizationId : UUID
  runtimeEffectId : UUID
  classification : DataClassification
  currentLifecycleRevision : Nat
  currentLifecycleRecordId : UUID
  currentStatus : RuntimeEffectLifecycleStatus
  currentLifecycleDigestReference : BoundedId
  currentLifecyclePayload : RuntimeEffectLifecycleRecord
  activeClaimId : Option UUID := none
  activeLeaseId : Option UUID := none
  claimExpiresAt : Option DateTime := none
  activeClaimPayload : Option RuntimeEffectClaim := none
  currentRetryDecisionPayload : Option RuntimeEffectRetryDecision := none
  nextEligibleAt : Option DateTime := none
  latestAttemptCount : Nat
  updatedAt : DateTime
  deriving DecidableEq

/-- What a revision row stores of the write that added it. -/
inductive RuntimeEffectWriteRequest
  | initial (enqueue : RuntimeInitialEffectEnqueue)
  | lifecycle (request : RuntimeEffectLifecycleRequest)
  deriving DecidableEq

/-- One stored lifecycle revision. -/
structure RuntimeEffectLifecycleRevision where
  runtimeEffectLifecycleReceiptId : UUID
  tenantId : UUID
  organizationId : UUID
  classification : DataClassification
  runtimeEffectId : UUID
  runtimeEffectLifecycleRecordId : UUID
  lifecycleRevision : Nat
  lifecycleStatus : RuntimeEffectLifecycleStatus
  lifecycleDigestReference : BoundedId
  sourceTransactionId : Option UUID := none
  lifecycleAppendRequestId : Option UUID := none
  claimRequestId : Option UUID := none
  runtimeEffectClaimId : Option UUID := none
  leaseId : Option UUID := none
  runtimeEffectDeliveryAttemptId : Option UUID := none
  runtimeEffectDeliveryResultId : Option UUID := none
  runtimeEffectRetryDecisionId : Option UUID := none
  runtimeEffectDeadLetterRecordId : Option UUID := none
  runtimeEffectDefinitelyNotInvokedId : Option UUID := none
  runtimeEffectReconciliationObservationId : Option UUID := none
  lifecycleRecordPayload : RuntimeEffectLifecycleRecord
  writeRequestPayload : RuntimeEffectWriteRequest
  claimPayload : Option RuntimeEffectClaim := none
  attemptPayload : Option RuntimeEffectDeliveryAttempt := none
  resultPayload : Option RuntimeEffectDeliveryResult := none
  definitelyNotInvokedPayload : Option RuntimeEffectDefinitelyNotInvoked := none
  retryDecisionPayload : Option RuntimeEffectRetryDecision := none
  deadLetterPayload : Option RuntimeEffectDeadLetterRecord := none
  receiptFactPayload : RuntimeEffectLifecycleReceiptFact
  requestedAt : DateTime
  storedAt : DateTime
  deriving DecidableEq

/-- One stored reconciliation observation. -/
structure RuntimeEffectReconciliationObservationRecord where
  runtimeEffectReconciliationObservationId : UUID
  runtimeEffectReconciliationRequestId : UUID
  runtimeEffectId : UUID
  tenantId : UUID
  organizationId : UUID
  classification : DataClassification
  destinationReference : BoundedId
  outcome : RuntimeEffectReconciliationOutcome
  observationPayload : RuntimeEffectReconciliationObservation
  observedAt : DateTime
  storedAt : DateTime
  deriving DecidableEq

/-- The key of an effect row. -/
def RuntimeEffect.key (row : RuntimeEffect) : EffectKey :=
  ⟨row.tenantId, row.organizationId, row.runtimeEffectId⟩

/-- The primary key of a head row. -/
def RuntimeEffectLifecycleHead.key (row : RuntimeEffectLifecycleHead) : EffectKey :=
  ⟨row.tenantId, row.organizationId, row.runtimeEffectId⟩

/-- The effect a revision row belongs to. -/
def RuntimeEffectLifecycleRevision.key (row : RuntimeEffectLifecycleRevision) : EffectKey :=
  ⟨row.tenantId, row.organizationId, row.runtimeEffectId⟩

/-- Two nullable columns hold the same value. Nulls never collide. -/
def collides (left right : Option UUID) : Prop := left ≠ none ∧ left = right

instance (left right : Option UUID) : Decidable (collides left right) :=
  inferInstanceAs (Decidable (_ ∧ _))

/-- Some key or unique constraint of the effect table rejects both rows. -/
def RuntimeEffect.conflictsWith (left right : RuntimeEffect) : Prop :=
  left.runtimeEffectReceiptId = right.runtimeEffectReceiptId ∨
  left.key = right.key ∨
  (left.tenantId = right.tenantId ∧ left.organizationId = right.organizationId ∧
    left.effectIdempotencyKey = right.effectIdempotencyKey)

instance (left right : RuntimeEffect) : Decidable (left.conflictsWith right) :=
  inferInstanceAs (Decidable (_ ∨ _ ∨ _ ∧ _ ∧ _))

/-- Some key or unique constraint of the revision table rejects both rows. -/
def RuntimeEffectLifecycleRevision.conflictsWith (left right : RuntimeEffectLifecycleRevision) :
    Prop :=
  left.runtimeEffectLifecycleReceiptId = right.runtimeEffectLifecycleReceiptId ∨
  (left.tenantId = right.tenantId ∧ left.organizationId = right.organizationId ∧
    (left.runtimeEffectLifecycleRecordId = right.runtimeEffectLifecycleRecordId ∨
      collides left.lifecycleAppendRequestId right.lifecycleAppendRequestId ∨
      collides left.claimRequestId right.claimRequestId)) ∨
  (left.key = right.key ∧
    (left.lifecycleRevision = right.lifecycleRevision ∨
      collides left.runtimeEffectRetryDecisionId right.runtimeEffectRetryDecisionId ∨
      collides left.runtimeEffectDeadLetterRecordId right.runtimeEffectDeadLetterRecordId ∨
      collides left.runtimeEffectDefinitelyNotInvokedId
        right.runtimeEffectDefinitelyNotInvokedId ∨
      collides left.runtimeEffectReconciliationObservationId
        right.runtimeEffectReconciliationObservationId))

instance (left right : RuntimeEffectLifecycleRevision) : Decidable (left.conflictsWith right) :=
  inferInstanceAs (Decidable (_ ∨ _ ∧ _ ∧ (_ ∨ _ ∨ _) ∨ _ ∧ (_ ∨ _ ∨ _ ∨ _ ∨ _)))

/-- Some key or unique constraint of the observation table rejects both rows. -/
def RuntimeEffectReconciliationObservationRecord.conflictsWith
    (left right : RuntimeEffectReconciliationObservationRecord) : Prop :=
  left.runtimeEffectReconciliationObservationId =
    right.runtimeEffectReconciliationObservationId ∨
  (left.tenantId = right.tenantId ∧ left.organizationId = right.organizationId ∧
    left.runtimeEffectReconciliationRequestId = right.runtimeEffectReconciliationRequestId)

instance (left right : RuntimeEffectReconciliationObservationRecord) :
    Decidable (left.conflictsWith right) :=
  inferInstanceAs (Decidable (_ ∨ _ ∧ _ ∧ _))

/-- The committed rows of the delivery tables. -/
structure RuntimeEffectStore where
  effects : List RuntimeEffect := []
  heads : List RuntimeEffectLifecycleHead := []
  revisions : List RuntimeEffectLifecycleRevision := []
  observations : List RuntimeEffectReconciliationObservationRecord := []
  deriving DecidableEq

/-- The revisions of one effect, oldest first. -/
def RuntimeEffectStore.revisionsOf (store : RuntimeEffectStore) (key : EffectKey) :
    List RuntimeEffectLifecycleRevision :=
  store.revisions.filter (·.key = key)

end PolicyOS.Runtime

/-!
# Initial effect enqueue

The write that brings one effect into the store: its effect row, its first
revision and its head, all or none. The base write set committed with it touches
other tables, and a replayed or conflicting enqueue changes nothing here.
-/

namespace PolicyOS.Runtime

open Foundation

namespace RuntimeInitialEffectEnqueue

/-- The effect row of an initial enqueue. -/
def effectRow (initial : RuntimeInitialEffectEnqueue) (storedAt : DateTime) : RuntimeEffect where
  runtimeEffectReceiptId := initial.effectReceiptFact.runtimeEffectReceiptId
  runtimeEffectId := initial.effectIdentity.runtimeEffectId
  tenantId := initial.effectIdentity.tenantId
  organizationId := initial.effectIdentity.organizationId
  classification := initial.effectIdentity.classification
  effectIdempotencyKey := initial.effectIdentity.effectIdempotencyKey
  initialEffectEnqueuePayload := initial
  storedAt := storedAt

/-- The first revision row of an initial enqueue. -/
def revisionRow (initial : RuntimeInitialEffectEnqueue) (requestedAt storedAt : DateTime) :
    RuntimeEffectLifecycleRevision where
  runtimeEffectLifecycleReceiptId := initial.lifecycleReceiptFact.runtimeEffectLifecycleReceiptId
  tenantId := initial.effectIdentity.tenantId
  organizationId := initial.effectIdentity.organizationId
  classification := initial.effectIdentity.classification
  runtimeEffectId := initial.effectIdentity.runtimeEffectId
  runtimeEffectLifecycleRecordId := initial.initialLifecycleRecord.runtimeEffectLifecycleRecordId
  lifecycleRevision := 1
  lifecycleStatus := initial.initialLifecycleRecord.status
  lifecycleDigestReference := initial.initialLifecycleRecord.lifecycleDigestReference
  sourceTransactionId := some initial.effectIdentity.originatingTransactionId
  lifecycleRecordPayload := initial.initialLifecycleRecord
  writeRequestPayload := .initial initial
  receiptFactPayload := initial.lifecycleReceiptFact
  requestedAt := requestedAt
  storedAt := storedAt

/-- The head row of an initial enqueue. -/
def headRow (initial : RuntimeInitialEffectEnqueue) (storedAt : DateTime) :
    RuntimeEffectLifecycleHead where
  tenantId := initial.effectIdentity.tenantId
  organizationId := initial.effectIdentity.organizationId
  runtimeEffectId := initial.effectIdentity.runtimeEffectId
  classification := initial.effectIdentity.classification
  currentLifecycleRevision := 1
  currentLifecycleRecordId := initial.initialLifecycleRecord.runtimeEffectLifecycleRecordId
  currentStatus := initial.initialLifecycleRecord.status
  currentLifecycleDigestReference := initial.initialLifecycleRecord.lifecycleDigestReference
  currentLifecyclePayload := initial.initialLifecycleRecord
  nextEligibleAt := some initial.initialLifecycleRecord.recordedAt
  latestAttemptCount := 0
  updatedAt := storedAt

/-- The three rows are of one effect. -/
@[simp] theorem effectRow_key (initial : RuntimeInitialEffectEnqueue) (storedAt : DateTime) :
    (initial.effectRow storedAt).key = initial.effectIdentity.key := rfl

@[simp] theorem revisionRow_key (initial : RuntimeInitialEffectEnqueue)
    (requestedAt storedAt : DateTime) :
    (initial.revisionRow requestedAt storedAt).key = initial.effectIdentity.key := rfl

@[simp] theorem headRow_key (initial : RuntimeInitialEffectEnqueue) (storedAt : DateTime) :
    (initial.headRow storedAt).key = initial.effectIdentity.key := rfl

end RuntimeInitialEffectEnqueue

/-- Validate an initial enqueue and insert its three rows, unless a key or unique
constraint rejects one of them. -/
def persistRuntimeEffectAtomicWriteSet (store : RuntimeEffectStore)
    (initial : RuntimeInitialEffectEnqueue) (requestedAt storedAt : DateTime) :
    Except RuntimePortError RuntimeEffectStore := do
  validateRuntimeInitialEffectEnqueue initial
  let effect := initial.effectRow storedAt
  let revision := initial.revisionRow requestedAt storedAt
  let head := initial.headRow storedAt
  rejectIf ((∃ row ∈ store.effects, effect.conflictsWith row) ∨
      (∃ row ∈ store.revisions, revision.conflictsWith row) ∨
      (∃ row ∈ store.heads, head.key = row.key))
    ⟨.transaction, "runtime atomic effect transaction conflicted"⟩
  pure
    { store with
      effects := store.effects ++ [effect]
      revisions := store.revisions ++ [revision]
      heads := store.heads ++ [head] }

/-- What an accepted initial enqueue did to the store. -/
structure InitiallyEnqueued (store : RuntimeEffectStore) (initial : RuntimeInitialEffectEnqueue)
    (requestedAt storedAt : DateTime) (next : RuntimeEffectStore) : Prop where
  bound : InitialEnqueueBound initial
  freshEffect : ∀ row ∈ store.effects, ¬ (initial.effectRow storedAt).conflictsWith row
  freshRevision : ∀ row ∈ store.revisions,
    ¬ (initial.revisionRow requestedAt storedAt).conflictsWith row
  freshHead : ∀ row ∈ store.heads, initial.effectIdentity.key ≠ row.key
  effects : next.effects = store.effects ++ [initial.effectRow storedAt]
  revisions : next.revisions = store.revisions ++ [initial.revisionRow requestedAt storedAt]
  heads : next.heads = store.heads ++ [initial.headRow storedAt]
  observations : next.observations = store.observations

theorem InitiallyEnqueued.of_persist {store next : RuntimeEffectStore}
    {initial : RuntimeInitialEffectEnqueue} {requestedAt storedAt : DateTime}
    (accepted : persistRuntimeEffectAtomicWriteSet store initial requestedAt storedAt =
      .ok next) : InitiallyEnqueued store initial requestedAt storedAt next := by
  simp only [persistRuntimeEffectAtomicWriteSet, bind_eq_ok_iff, rejectIf_eq_ok_iff,
    exists_unit_iff, pure_eq_ok_iff, not_or, not_exists,
    not_and] at accepted
  obtain ⟨valid, ⟨freshEffect, freshRevision, freshHead⟩, rfl⟩ := accepted
  exact ⟨InitialEnqueueBound.of_validate valid, freshEffect, freshRevision, freshHead, rfl, rfl,
    rfl, rfl⟩

/-! ## One small effect -/

namespace Sample

/-- Revision and count one. -/
def one : PositiveInt := .nearest 1

/-- The contract versions of the sample. -/
def contractVersion : RuntimePortContractVersion := ⟨"1", "1", "1"⟩

/-- One notification of one plan step. -/
def identity : RuntimeEffectIdentity where
  runtimeEffectId := 3
  tenantId := 1
  organizationId := 2
  runtimeExecutionRequestId := 4
  executionPlanId := 5
  executionPlanStepId := 6
  actionDefinitionId := "notify"
  action := "notify"
  actionVersion := "1"
  destinationReference := "desk"
  payloadSchemaReference := "note"
  payloadReference := "note-1"
  payloadDigestReference := "note-1-digest"
  effectIdempotencyKey := "notify-1"
  classification := .internal
  rootLineageId := 7
  rootLineageDigestReference := "lineage"
  originatingOutboxEnqueueRecordId := 8
  originatingTransactionId := 9
  originatingTransactionReceiptId := 10
  effectFingerprintDigestReference := "fingerprint"

/-- Its delivery envelope. -/
def envelope : RuntimeEffectDeliveryEnvelope where
  runtimeEffectDeliveryEnvelopeId := 11
  contractVersion := contractVersion
  effectIdentity := identity
  adapterFamily := .connector
  adapterReference := "desk-adapter"
  adapterContractVersion := "1"
  runtimeRegistrySnapshotId := 12
  runtimeActionResolutionDecisionId := 13
  runtimeRegistrySnapshotEntryId := 14
  inputSchemaReference := "note"
  outputSchemaReference := "ack"
  resourceReference := "desk"
  purpose := "notify"
  executionEnvironment := .internal
  riskLevel := .low
  sideEffectLevel := .internalWrite
  sideEffectLevelReference := "internal-write"
  actorId := 15
  originatingStateRecordId := 16
  originatingStateRevision := one
  originatingAuditTrailId := 17
  originatingAuditEventId := 18
  originatingAuditRevision := one
  retryPolicyReference := "retry"
  retryEligible := true
  maximumAttemptCount := .nearest 3
  deadlinePolicyReference := "deadline"
  envelopeDigestReference := "envelope"
  createdAt := 0

/-- Its outbox fact. -/
def outbox : RuntimeOutboxEnqueueRecord where
  runtimeOutboxEnqueueRecordId := 8
  contractVersion := contractVersion
  outboxRevision := one
  scope :=
    { runtimeExecutionRequestId := 4
      runtimeAuthorityBundleId := 19
      runtimeAdmissionDecisionId := 20
      executionPlanId := 5
      executionPlanStepId := 6
      attemptId := 21
      actorId := 15
      tenantId := 1
      organizationId := 2
      classification := .internal
      rootLineageId := 7
      rootLineageDigestReference := "lineage"
      policyRevision := one
      registryRevision := one
      stateRevision := one }
  actionDefinitionId := "notify"
  action := "notify"
  actionVersion := "1"
  adapterReference := "desk-adapter"
  destinationReference := "desk"
  payloadSchemaReference := "note"
  payloadReference := "note-1"
  payloadDigestReference := "note-1-digest"
  permitReferenceIds := [22]
  idempotencyKey := "notify-1"
  runtimeAuditTrailId := 17
  runtimeAuditEventId := 18
  auditTrailRevision := one
  enqueueDigestReference := "enqueue"
  enqueuedAt := 0

/-- Its first revision. -/
def enqueuedRecord : RuntimeEffectLifecycleRecord where
  runtimeEffectLifecycleRecordId := 31
  runtimeEffectId := 3
  lifecycleRevision := one
  status := .enqueued
  recordedAt := 0
  lifecycleDigestReference := "revision-1"

/-- The receipt fact of a revision of the effect. -/
def receiptFact (receiptId : UUID) (record : RuntimeEffectLifecycleRecord) :
    RuntimeEffectLifecycleReceiptFact where
  runtimeEffectLifecycleReceiptId := receiptId
  runtimeEffectId := 3
  runtimeEffectLifecycleRecordId := record.runtimeEffectLifecycleRecordId
  lifecycleRevision := record.lifecycleRevision
  lifecycleStatus := record.status
  lifecycleDigestReference := record.lifecycleDigestReference
  tenantId := 1
  organizationId := 2
  classification := .internal

/-- The enqueue that brings it into the store. -/
def initial : RuntimeInitialEffectEnqueue where
  contractVersion := contractVersion
  outboxEnqueueRecord := outbox
  effectIdentity := identity
  deliveryEnvelope := envelope
  initialLifecycleRecord := enqueuedRecord
  effectReceiptFact :=
    { runtimeEffectReceiptId := 41
      runtimeEffectId := 3
      effectIdempotencyKey := "notify-1"
      effectFingerprintDigestReference := "fingerprint"
      runtimeEffectDeliveryEnvelopeId := 11
      envelopeDigestReference := "envelope"
      originatingOutboxEnqueueRecordId := 8
      originatingTransactionId := 9
      originatingTransactionReceiptId := 10
      tenantId := 1
      organizationId := 2
      classification := .internal }
  lifecycleReceiptFact := receiptFact 51 enqueuedRecord

/-- The sample is accepted into the empty store. -/
example : Accepted (persistRuntimeEffectAtomicWriteSet {} initial 0 0) := by decide

end Sample

end PolicyOS.Runtime
