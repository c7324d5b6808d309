import PolicyOS.Runtime.Persistence.DeliveryTransaction
import Mathlib.Data.List.Sort

/-!
# Lifecycle store

The lookups, head checks and writes of a lifecycle commit, and the selection of
due effects. A commit runs in two transactions: the first looks for an earlier
answer, the second takes the head's row lock, checks the head and writes. The
parts are separate functions here because other transactions run between them.
-/

namespace PolicyOS.Runtime

open Foundation

/-- At most one row may answer a lookup. -/
def scalarOneOrNone {Row : Type} : List Row → Except RuntimePortError (Option Row)
  | [] => .ok none
  | [row] => .ok (some row)
  | _ =>
      .error ⟨.multipleResults,
        "Multiple rows were found when one or none was required"⟩

/-- The head is the one a request's scope selects. -/
def RuntimeEffectLifecycleHead.inScope (head : RuntimeEffectLifecycleHead)
    (identity : RuntimeEffectIdentity) : Prop :=
  head.key = identity.key ∧ head.classification = identity.classification

instance (head : RuntimeEffectLifecycleHead) (identity : RuntimeEffectIdentity) :
    Decidable (head.inScope identity) :=
  inferInstanceAs (Decidable (_ ∧ _))

/-- The receipt a revision row stores. -/
def RuntimeEffectLifecycleRevision.receipt (row : RuntimeEffectLifecycleRevision) :
    RuntimeEffectLifecycleReceipt :=
  ⟨row.receiptFactPayload, row.storedAt⟩

/-- A revision row answers to the identifier of this request. Claim and append
identifiers are separate columns, and neither is scoped. -/
def RuntimeEffectLifecycleRevision.answers (row : RuntimeEffectLifecycleRevision) :
    RuntimeEffectLifecycleRequest → Prop
  | .append request =>
      row.lifecycleAppendRequestId = some request.runtimeEffectLifecycleAppendRequestId
  | .claim request => row.claimRequestId = some request.runtimeEffectClaimRequestId

instance (row : RuntimeEffectLifecycleRevision) (request : RuntimeEffectLifecycleRequest) :
    Decidable (row.answers request) :=
  match request with
  | .append _ => inferInstanceAs (Decidable (_ = _))
  | .claim _ => inferInstanceAs (Decidable (_ = _))

/-- The revision an earlier commit of the same request identifier added. -/
def existing (store : RuntimeEffectStore) (request : RuntimeEffectLifecycleRequest) :
    Except RuntimePortError (Option RuntimeEffectLifecycleRevision) :=
  scalarOneOrNone (store.revisions.filter (·.answers request))

/-- Answer a repeated request from its stored revision, unless its facts differ
from the stored request. -/
def exactReplay (row : RuntimeEffectLifecycleRevision) (request : RuntimeEffectLifecycleRequest) :
    Except RuntimePortError RuntimeEffectLifecycleCommitResult := do
  match row.writeRequestPayload, request with
  | .lifecycle (.claim stored), .claim actual =>
      rejectIf (stored ≠ actual)
        ⟨.effectConflict, "claim replay immutable facts differ"⟩
  | .lifecycle (.append stored), .append actual =>
      validateRuntimeEffectLifecycleReplay stored actual
  | _, _ =>
      .error ⟨.persistence,
        "stored delivery model failed strict allowlisted validation"⟩
  pure ⟨.exactReplay, row.receipt⟩

/-- The revision row a request adds. -/
def revisionOf (request : RuntimeEffectLifecycleRequest) (storedAt : DateTime) :
    RuntimeEffectLifecycleRevision :=
  let record := request.lifecycleRecord
  let identity := request.effectIdentity
  let claim := request.newClaim
  let attempt := request.attempt
  let notInvoked := request.definitelyNotInvoked
  { runtimeEffectLifecycleReceiptId := request.receiptFact.runtimeEffectLifecycleReceiptId
    tenantId := identity.tenantId
    organizationId := identity.organizationId
    classification := identity.classification
    runtimeEffectId := identity.runtimeEffectId
    runtimeEffectLifecycleRecordId := record.runtimeEffectLifecycleRecordId
    lifecycleRevision := record.lifecycleRevision.val
    lifecycleStatus := record.status
    lifecycleDigestReference := record.lifecycleDigestReference
    lifecycleAppendRequestId := request.appendRequestId
    claimRequestId := request.claimRequestId
    runtimeEffectClaimId :=
      (claim.map (·.runtimeEffectClaimId)).or
        ((notInvoked.map (·.runtimeEffectClaimId)).or record.runtimeEffectClaimId)
    leaseId := (claim.map (·.leaseId)).or (notInvoked.map (·.leaseId))
    runtimeEffectDeliveryAttemptId :=
      (attempt.map (·.runtimeEffectDeliveryAttemptId)).or
        ((notInvoked.map (·.runtimeEffectDeliveryAttemptId)).or
          record.runtimeEffectDeliveryAttemptId)
    runtimeEffectDeliveryResultId := record.runtimeEffectDeliveryResultId
    runtimeEffectRetryDecisionId := record.runtimeEffectRetryDecisionId
    runtimeEffectDeadLetterRecordId := record.runtimeEffectDeadLetterRecordId
    runtimeEffectDefinitelyNotInvokedId :=
      notInvoked.map (·.runtimeEffectDefinitelyNotInvokedId)
    runtimeEffectReconciliationObservationId := record.runtimeEffectReconciliationObservationId
    lifecycleRecordPayload := record
    writeRequestPayload := .lifecycle request
    claimPayload := claim
    attemptPayload := attempt
    resultPayload := request.result
    definitelyNotInvokedPayload := notInvoked
    retryDecisionPayload := request.retryDecision
    deadLetterPayload := request.deadLetter
    receiptFactPayload := request.receiptFact
    requestedAt := request.requestedAt
    storedAt := storedAt }

/-- The observation row a request adds, when it carries an observation. -/
def observationRow (request : RuntimeEffectLifecycleRequest) :
    Option RuntimeEffectReconciliationObservationRecord :=
  request.reconciliationObservation.map fun observation =>
    { runtimeEffectReconciliationObservationId :=
        observation.runtimeEffectReconciliationObservationId
      runtimeEffectReconciliationRequestId := observation.runtimeEffectReconciliationRequestId
      runtimeEffectId := observation.runtimeEffectId
      tenantId := observation.tenantId
      organizationId := observation.organizationId
      classification := observation.classification
      destinationReference := observation.destinationReference
      outcome := observation.outcome
      observationPayload := observation
      observedAt := observation.observedAt
      storedAt := request.requestedAt }

/-- The head after a request, from the head read under the row lock. -/
def advanceHead (head : RuntimeEffectLifecycleHead) (request : RuntimeEffectLifecycleRequest) :
    RuntimeEffectLifecycleHead :=
  let current := request.lifecycleRecord
  let newClaim := request.newClaim
  let retry := request.retryDecision
  { head with
    currentLifecycleRevision := current.lifecycleRevision.val
    currentLifecycleRecordId := current.runtimeEffectLifecycleRecordId
    currentStatus := current.status
    currentLifecycleDigestReference := current.lifecycleDigestReference
    currentLifecyclePayload := current
    activeClaimId := newClaim.map (·.runtimeEffectClaimId)
    activeLeaseId := newClaim.map (·.leaseId)
    claimExpiresAt := newClaim.map (·.expiresAt)
    activeClaimPayload := newClaim
    currentRetryDecisionPayload := retry
    nextEligibleAt :=
      if current.status = .enqueued then some current.recordedAt
      else retry.bind (·.eligibleAt)
    latestAttemptCount :=
      max head.latestAttemptCount ((request.attempt.map (·.attemptNumber.val)).getD 0)
    updatedAt := request.requestedAt }

/-- A null expiry cannot be compared. The head's projection check excludes one
beside an active claim. -/
def unexpiredAt (expiresAt : Option DateTime) (observedAt : DateTime) : Prop :=
  ∃ expiry ∈ expiresAt, expiry > observedAt

instance (expiresAt : Option DateTime) (observedAt : DateTime) :
    Decidable (unexpiredAt expiresAt observedAt) :=
  inferInstanceAs (Decidable (∃ _ ∈ _, _))

/-- The checks made only of a claim request. Append requests pass here. -/
def checkClaimHead (head : RuntimeEffectLifecycleHead) :
    RuntimeEffectLifecycleRequest → Except RuntimePortError Unit
  | .append _ => .ok ()
  | .claim request => do
      rejectIf (head.currentStatus = .delivering)
        ⟨.claim, "delivering effect cannot be reclaimed"⟩
      rejectIf (head.activeClaimId ≠ none ∧ unexpiredAt head.claimExpiresAt request.observedAt)
        ⟨.claim, "unexpired claim cannot be replaced"⟩
      rejectIf (head.activeClaimId ≠ none ∧
          (head.activeClaimId = some request.claim.runtimeEffectClaimId ∨
            head.activeLeaseId = some request.claim.leaseId))
        ⟨.claim, "expired reclaim requires distinct claim and lease"⟩

/-- The checks a request must pass on the locked head. -/
def checkHead (head : RuntimeEffectLifecycleHead) (request : RuntimeEffectLifecycleRequest) :
    Except RuntimePortError Unit := do
  let previous := request.previousLifecycleRecord
  rejectIf (head.currentStatus ∈ RuntimeEffectLifecycleStatus.terminal)
    ⟨.effectConflict, "terminal effect cannot advance"⟩
  rejectIf (head.currentLifecycleRevision ≠ previous.lifecycleRevision.val ∨
      head.currentLifecycleRecordId ≠ previous.runtimeEffectLifecycleRecordId ∨
      head.currentLifecycleDigestReference ≠ previous.lifecycleDigestReference)
    ⟨.persistenceConflict, "effect lifecycle optimistic revision conflicted"⟩
  checkClaimHead head request

/-- What the first transaction finds: the answer to a repeated request, or
nothing. -/
def firstLookup (store : RuntimeEffectStore) (request : RuntimeEffectLifecycleRequest) :
    Except RuntimePortError (Option RuntimeEffectLifecycleCommitResult) := do
  match ← existing store request with
  | none => pure none
  | some row => do
      let result ← exactReplay row request
      pure (some result)

/-- What the second transaction learns under the row lock. -/
inductive LockedRead
  | replay (result : RuntimeEffectLifecycleCommitResult)
  | proceed (head : RuntimeEffectLifecycleHead)
  deriving DecidableEq

/-- How the second transaction reports any storage error. -/
def storageFailure : RuntimePortError := ⟨.persistence, "effect lifecycle storage failed"⟩

/-- A storage error inside the second transaction is reported as one. -/
def storageFailed {Value : Type} (result : Except RuntimePortError Value) :
    Except RuntimePortError Value :=
  match result with
  | .ok value => .ok value
  | .error _ => .error storageFailure

/-- The reads and checks of the second transaction. -/
def lockedRead (store : RuntimeEffectStore) (request : RuntimeEffectLifecycleRequest) :
    Except RuntimePortError LockedRead := do
  let head ← storageFailed (scalarOneOrNone (store.heads.filter (·.inScope request.effectIdentity)))
  match ← storageFailed (existing store request) with
  | some row => do
      let result ← exactReplay row request
      pure (.replay result)
  | none =>
      match head with
      | none =>
          .error ⟨.persistenceConflict, "effect lifecycle optimistic revision conflicted"⟩
      | some head => do
          checkHead head request
          pure (.proceed head)

/-- No effect row has the scope a row refers to by its foreign key. -/
def RuntimeEffectStore.scopeMissing (store : RuntimeEffectStore) (key : EffectKey)
    (classification : DataClassification) : Prop :=
  ∀ effect ∈ store.effects, ¬ (effect.key = key ∧ effect.classification = classification)

instance (store : RuntimeEffectStore) (key : EffectKey) (classification : DataClassification) :
    Decidable (store.scopeMissing key classification) :=
  inferInstanceAs (Decidable (∀ _ ∈ _, _))

/-- Some constraint of the observation table rejects the row. -/
def RuntimeEffectStore.rejectsObservation (store : RuntimeEffectStore)
    (row : RuntimeEffectReconciliationObservationRecord) : Prop :=
  store.scopeMissing ⟨row.tenantId, row.organizationId, row.runtimeEffectId⟩ row.classification ∨
  ∃ stored ∈ store.observations, row.conflictsWith stored

instance (store : RuntimeEffectStore) (row : RuntimeEffectReconciliationObservationRecord) :
    Decidable (store.rejectsObservation row) :=
  inferInstanceAs (Decidable (_ ∨ _))

/-- Some constraint of the revision table rejects the row. -/
def RuntimeEffectStore.rejectsRevision (store : RuntimeEffectStore)
    (row : RuntimeEffectLifecycleRevision) : Prop :=
  store.scopeMissing row.key row.classification ∨
  ∃ stored ∈ store.revisions, row.conflictsWith stored

instance (store : RuntimeEffectStore) (row : RuntimeEffectLifecycleRevision) :
    Decidable (store.rejectsRevision row) :=
  inferInstanceAs (Decidable (_ ∨ _))

/-- The writes of the second transaction, unless a constraint rejects the
revision or observation row. -/
def flush (store : RuntimeEffectStore) (head : RuntimeEffectLifecycleHead)
    (request : RuntimeEffectLifecycleRequest) : Except RuntimePortError RuntimeEffectStore := do
  let row := revisionOf request request.requestedAt
  rejectIf (store.rejectsRevision row ∨
      ∃ observation ∈ observationRow request, store.rejectsObservation observation)
    ⟨.persistenceConflict, "effect lifecycle uniqueness conflicted"⟩
  pure
    { store with
      revisions := store.revisions ++ [row]
      observations := store.observations ++ (observationRow request).toList
      heads := store.heads.map fun stored =>
        if stored.key = head.key then advanceHead head request else stored }

/-- The answer to a committed request. -/
def appended (request : RuntimeEffectLifecycleRequest) :
    Except RuntimePortError RuntimeEffectLifecycleCommitResult :=
  validateRuntimeEffectLifecycleCommitResult request
    ⟨.appended, ⟨request.receiptFact, request.requestedAt⟩⟩

end PolicyOS.Runtime
