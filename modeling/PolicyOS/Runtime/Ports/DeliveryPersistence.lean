import PolicyOS.Runtime.Ports.Delivery

/-!
# Delivery-persistence contracts

What crosses the boundary between a worker and the lifecycle store: the initial
enqueue, the claim and append requests, the receipts they are answered with, and
the bounded selection of due effects.
-/

namespace PolicyOS.Runtime

/-- Whether a lifecycle commit added a revision or repeated an earlier answer. -/
inductive RuntimeEffectLifecycleCommitDisposition
  | appended | exactReplay
  deriving DecidableEq, Repr

/-- Why an effect is due. -/
inductive RuntimeEffectDueReason
  | initialEnqueue | retryEligible | claimExpired
  deriving DecidableEq, Repr

/-- Why an adapter was definitely not invoked after `DELIVERING`. -/
inductive RuntimeEffectNotInvokedReason
  | cancelledAfterDelivering | leaseExpiredAfterDelivering
  deriving DecidableEq, Repr

/-- The fact a stored effect is receipted with. -/
structure RuntimeEffectReceiptFact where
  runtimeEffectReceiptId : UUID
  runtimeEffectId : UUID
  effectIdempotencyKey : BoundedId
  effectFingerprintDigestReference : BoundedId
  runtimeEffectDeliveryEnvelopeId : UUID
  envelopeDigestReference : BoundedId
  originatingOutboxEnqueueRecordId : UUID
  originatingTransactionId : UUID
  originatingTransactionReceiptId : UUID
  tenantId : UUID
  organizationId : UUID
  classification : DataClassification
  deriving DecidableEq

/-- The fact a stored lifecycle revision is receipted with. -/
structure RuntimeEffectLifecycleReceiptFact where
  runtimeEffectLifecycleReceiptId : UUID
  runtimeEffectId : UUID
  runtimeEffectLifecycleRecordId : UUID
  lifecycleRevision : PositiveInt
  lifecycleStatus : RuntimeEffectLifecycleStatus
  lifecycleDigestReference : BoundedId
  tenantId : UUID
  organizationId : UUID
  classification : DataClassification
  deriving DecidableEq

/-- A stored lifecycle fact and when it was stored. -/
structure RuntimeEffectLifecycleReceipt where
  receiptFact : RuntimeEffectLifecycleReceiptFact
  storedAt : DateTime
  deriving DecidableEq

/-- The aggregate that brings one effect into the store. -/
structure RuntimeInitialEffectEnqueue where
  contractVersion : RuntimePortContractVersion
  outboxEnqueueRecord : RuntimeOutboxEnqueueRecord
  effectIdentity : RuntimeEffectIdentity
  deliveryEnvelope : RuntimeEffectDeliveryEnvelope
  initialLifecycleRecord : RuntimeEffectLifecycleRecord
  effectReceiptFact : RuntimeEffectReceiptFact
  lifecycleReceiptFact : RuntimeEffectLifecycleReceiptFact
  deriving DecidableEq

/-- A bounded query for the due effects of one scope. -/
structure RuntimeEffectDueSelectionRequest where
  runtimeEffectDueSelectionRequestId : UUID
  contractVersion : RuntimePortContractVersion
  tenantId : UUID
  organizationId : UUID
  classification : DataClassification
  clockReference : BoundedId
  observedAt : DateTime
  maximumCandidateCount : {limit : Nat // 1 ≤ limit ∧ limit ≤ 100}
  requestedAt : DateTime
  requestTime : observedAt ≤ requestedAt := by decide
  deriving DecidableEq

/-- One effect offered for claiming. -/
structure RuntimeEffectDueCandidate where
  effectIdentity : RuntimeEffectIdentity
  deliveryEnvelope : RuntimeEffectDeliveryEnvelope
  currentLifecycleRecord : RuntimeEffectLifecycleRecord
  previousClaim : Option RuntimeEffectClaim := none
  retryDecision : Option RuntimeEffectRetryDecision := none
  dueReason : RuntimeEffectDueReason
  eligibleAt : DateTime
  deriving DecidableEq

/-- Evidence that the adapter was not called although `DELIVERING` was stored. -/
structure RuntimeEffectDefinitelyNotInvoked where
  runtimeEffectDefinitelyNotInvokedId : UUID
  runtimeEffectId : UUID
  runtimeEffectDeliveryAttemptId : UUID
  runtimeEffectClaimId : UUID
  leaseId : UUID
  deliveringLifecycleRecordId : UUID
  deliveringLifecycleRevision : PositiveInt
  reason : RuntimeEffectNotInvokedReason
  cancellationObservationId : Option UUID := none
  clockReference : BoundedId
  tenantId : UUID
  organizationId : UUID
  classification : DataClassification
  failureCode : RuntimePortErrorCode
  failureReference : BoundedId
  observedAt : DateTime
  factDigestReference : BoundedId
  boundedReason :
    (reason = .cancelledAfterDelivering ↔ cancellationObservationId ≠ none) ∧
    failureCode = (if reason = .cancelledAfterDelivering then .cancelled else .timeout) := by
      decide
  deriving DecidableEq

/-- One lifecycle revision with the evidence it refers to. -/
structure RuntimeEffectLifecycleAppend where
  effectIdentity : RuntimeEffectIdentity
  previousLifecycleRecord : RuntimeEffectLifecycleRecord
  lifecycleRecord : RuntimeEffectLifecycleRecord
  claim : Option RuntimeEffectClaim := none
  attempt : Option RuntimeEffectDeliveryAttempt := none
  result : Option RuntimeEffectDeliveryResult := none
  definitelyNotInvoked : Option RuntimeEffectDefinitelyNotInvoked := none
  retryDecision : Option RuntimeEffectRetryDecision := none
  deadLetter : Option RuntimeEffectDeadLetterRecord := none
  reconciliationObservation : Option RuntimeEffectReconciliationObservation := none
  receiptFact : RuntimeEffectLifecycleReceiptFact
  deriving DecidableEq

/-- A request to append one lifecycle revision. -/
structure RuntimeEffectLifecycleAppendRequest where
  runtimeEffectLifecycleAppendRequestId : UUID
  contractVersion : RuntimePortContractVersion
  append : RuntimeEffectLifecycleAppend
  clockReference : BoundedId
  requestedAt : DateTime
  deriving DecidableEq

/-- The answer to a claim or append request. -/
structure RuntimeEffectLifecycleCommitResult where
  disposition : RuntimeEffectLifecycleCommitDisposition
  receipt : RuntimeEffectLifecycleReceipt
  deriving DecidableEq

/-- A request to claim one effect. -/
structure RuntimeEffectClaimRequest where
  runtimeEffectClaimRequestId : UUID
  contractVersion : RuntimePortContractVersion
  effectIdentity : RuntimeEffectIdentity
  previousLifecycleRecord : RuntimeEffectLifecycleRecord
  previousClaim : Option RuntimeEffectClaim := none
  claim : RuntimeEffectClaim
  claimedLifecycleRecord : RuntimeEffectLifecycleRecord
  receiptFact : RuntimeEffectLifecycleReceiptFact
  clockReference : BoundedId
  observedAt : DateTime
  requestedAt : DateTime
  requestTime : observedAt ≤ requestedAt := by decide
  deriving DecidableEq

/-- A request to the lifecycle store, by its kind. -/
inductive RuntimeEffectLifecycleRequest
  | append (request : RuntimeEffectLifecycleAppendRequest)
  | claim (request : RuntimeEffectClaimRequest)
  deriving DecidableEq

namespace RuntimeEffectLifecycleRequest

/-- The effect the request is about. -/
def effectIdentity : RuntimeEffectLifecycleRequest → RuntimeEffectIdentity
  | append request => request.append.effectIdentity
  | claim request => request.effectIdentity

/-- The record the request says it follows. -/
def previousLifecycleRecord : RuntimeEffectLifecycleRequest → RuntimeEffectLifecycleRecord
  | append request => request.append.previousLifecycleRecord
  | claim request => request.previousLifecycleRecord

/-- The record the request adds. -/
def lifecycleRecord : RuntimeEffectLifecycleRequest → RuntimeEffectLifecycleRecord
  | append request => request.append.lifecycleRecord
  | claim request => request.claimedLifecycleRecord

/-- The claim the request carries. -/
def newClaim : RuntimeEffectLifecycleRequest → Option RuntimeEffectClaim
  | append request => request.append.claim
  | claim request => some request.claim

/-- The retry decision the request carries. -/
def retryDecision : RuntimeEffectLifecycleRequest → Option RuntimeEffectRetryDecision
  | append request => request.append.retryDecision
  | claim _ => none

/-- The attempt the request carries. -/
def attempt : RuntimeEffectLifecycleRequest → Option RuntimeEffectDeliveryAttempt
  | append request => request.append.attempt
  | claim _ => none

/-- The delivery result the request carries. -/
def result : RuntimeEffectLifecycleRequest → Option RuntimeEffectDeliveryResult
  | append request => request.append.result
  | claim _ => none

/-- The dead-letter fact the request carries. -/
def deadLetter : RuntimeEffectLifecycleRequest → Option RuntimeEffectDeadLetterRecord
  | append request => request.append.deadLetter
  | claim _ => none

/-- The not-invoked evidence the request carries. -/
def definitelyNotInvoked :
    RuntimeEffectLifecycleRequest → Option RuntimeEffectDefinitelyNotInvoked
  | append request => request.append.definitelyNotInvoked
  | claim _ => none

/-- The reconciliation observation the request carries. -/
def reconciliationObservation :
    RuntimeEffectLifecycleRequest → Option RuntimeEffectReconciliationObservation
  | append request => request.append.reconciliationObservation
  | claim _ => none

/-- The fact its revision is receipted with. -/
def receiptFact : RuntimeEffectLifecycleRequest → RuntimeEffectLifecycleReceiptFact
  | append request => request.append.receiptFact
  | claim request => request.receiptFact

/-- When it was requested. -/
def requestedAt : RuntimeEffectLifecycleRequest → DateTime
  | append request => request.requestedAt
  | claim request => request.requestedAt

/-- Its append identifier, when it is an append request. -/
def appendRequestId : RuntimeEffectLifecycleRequest → Option UUID
  | append request => some request.runtimeEffectLifecycleAppendRequestId
  | claim _ => none

/-- Its claim identifier, when it is a claim request. -/
def claimRequestId : RuntimeEffectLifecycleRequest → Option UUID
  | append _ => none
  | claim request => some request.runtimeEffectClaimRequestId

end RuntimeEffectLifecycleRequest

end PolicyOS.Runtime
