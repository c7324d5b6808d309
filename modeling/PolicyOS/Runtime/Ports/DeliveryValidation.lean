import PolicyOS.Foundation.Checked
import PolicyOS.Runtime.Ports.Delivery

/-!
# Validation of effect-delivery facts

The pure fail-closed checks of single facts: identity, envelope, claim, attempt,
result and lifecycle transition. Each check comes with the conjunction it
accepts, which is what later modules use of it.
-/

namespace PolicyOS.Runtime

open Foundation

/-- Two identities must be the same stable effect, fact for fact. -/
def validateRuntimeEffectIdentity (expected actual : RuntimeEffectIdentity) :
    Except RuntimePortError Unit := do
  rejectIf (expected.runtimeEffectId ≠ actual.runtimeEffectId)
    ⟨.effectConflict, "runtime effect identity differs"⟩
  rejectIf (expected.effectIdempotencyKey ≠ actual.effectIdempotencyKey)
    ⟨.effectConflict, "effect idempotency identity differs"⟩
  rejectIf (expected ≠ actual)
    ⟨.effectConflict, "stable effect fingerprint facts differ"⟩

/-- Only the same identity is accepted. -/
@[simp] theorem validateRuntimeEffectIdentity_eq_ok_iff {expected actual : RuntimeEffectIdentity} :
    validateRuntimeEffectIdentity expected actual = .ok () ↔ expected = actual := by
  simp only [validateRuntimeEffectIdentity, bind_eq_ok_iff, rejectIf_eq_ok_iff, exists_unit_iff,
    not_not]
  constructor
  · rintro ⟨_, _, same⟩
    exact same
  · rintro rfl
    exact ⟨rfl, rfl, rfl⟩

/-- An envelope must carry the effect's own identity and payload schema. -/
def validateRuntimeEffectDeliveryEnvelope (envelope : RuntimeEffectDeliveryEnvelope)
    (identity : RuntimeEffectIdentity) : Except RuntimePortError Unit := do
  validateRuntimeEffectIdentity identity envelope.effectIdentity
  rejectIf (envelope.effectIdentity.actionDefinitionId ≠ identity.actionDefinitionId)
    ⟨.contract, "delivery action definition differs from effect"⟩
  rejectIf (envelope.effectIdentity.action ≠ identity.action)
    ⟨.contract, "delivery action differs from effect"⟩
  rejectIf (envelope.effectIdentity.actionVersion ≠ identity.actionVersion)
    ⟨.contract, "delivery action version differs from effect"⟩
  rejectIf (envelope.effectIdentity.destinationReference ≠ identity.destinationReference)
    ⟨.contract, "delivery destination differs from effect"⟩
  rejectIf (envelope.inputSchemaReference ≠ identity.payloadSchemaReference)
    ⟨.contract, "delivery input schema differs from effect payload schema"⟩

variable {envelope : RuntimeEffectDeliveryEnvelope} {identity : RuntimeEffectIdentity}

/-- The envelopes accepted for an identity. -/
@[simp] theorem validateRuntimeEffectDeliveryEnvelope_eq_ok_iff :
    validateRuntimeEffectDeliveryEnvelope envelope identity = .ok () ↔
      envelope.effectIdentity = identity ∧
        envelope.inputSchemaReference = identity.payloadSchemaReference := by
  simp only [validateRuntimeEffectDeliveryEnvelope, bind_eq_ok_iff, rejectIf_eq_ok_iff,
    exists_unit_iff, validateRuntimeEffectIdentity_eq_ok_iff, not_not]
  constructor
  · rintro ⟨same, _, _, _, _, schema⟩
    exact ⟨same.symm, schema⟩
  · rintro ⟨rfl, schema⟩
    exact ⟨rfl, rfl, rfl, rfl, rfl, schema⟩

/-- A claim must be for the effect and revision it names, inside its lease, and
may follow another claim only once that one has expired. -/
def validateRuntimeEffectClaim (previous : RuntimeEffectLifecycleRecord)
    (claim : RuntimeEffectClaim) (identity : RuntimeEffectIdentity) (observedAt : DateTime)
    (previousClaim : Option RuntimeEffectClaim) : Except RuntimePortError Unit := do
  rejectIf (previous.runtimeEffectId ≠ claim.runtimeEffectId)
    ⟨.claim, "claim effect differs from lifecycle effect"⟩
  rejectIf (claim.runtimeEffectId ≠ identity.runtimeEffectId)
    ⟨.claim, "claim effect differs from stable effect identity"⟩
  rejectIf (claim.tenantId ≠ identity.tenantId)
    ⟨.claim, "claim tenant differs from stable effect identity"⟩
  rejectIf (claim.organizationId ≠ identity.organizationId)
    ⟨.claim, "claim organization differs from stable effect identity"⟩
  rejectIf (claim.expectedLifecycleRevision ≠ previous.lifecycleRevision)
    ⟨.claim, "claim expected lifecycle revision differs"⟩
  rejectIf (previous.status ∉ [.enqueued, .claimed, .retryScheduled])
    ⟨.claim, "effect lifecycle is not claimable"⟩
  rejectIf (claim.claimedAt > observedAt ∨ observedAt ≥ claim.expiresAt)
    ⟨.claim, "claim lease is not active at the supplied observation time"⟩
  if previous.status = .claimed then
    match previousClaim with
    | none => .error ⟨.claim, "reclaim requires the previous claim"⟩
    | some prior => do
        rejectIf (some prior.runtimeEffectClaimId ≠ previous.runtimeEffectClaimId)
          ⟨.claim, "previous claim reference differs from lifecycle"⟩
        rejectIf (prior.expiresAt > claim.claimedAt)
          ⟨.claim, "an unexpired claim cannot be replaced"⟩
  else .ok ()

/-- What an accepted claim is bound to. -/
structure ClaimBound (previous : RuntimeEffectLifecycleRecord) (claim : RuntimeEffectClaim)
    (identity : RuntimeEffectIdentity) (observedAt : DateTime) : Prop where
  lifecycleEffect : previous.runtimeEffectId = claim.runtimeEffectId
  effect : claim.runtimeEffectId = identity.runtimeEffectId
  tenant : claim.tenantId = identity.tenantId
  organization : claim.organizationId = identity.organizationId
  claimable : previous.status ∈ [.enqueued, .claimed, .retryScheduled]
  active : claim.claimedAt ≤ observedAt ∧ observedAt < claim.expiresAt

theorem ClaimBound.of_validate {previous : RuntimeEffectLifecycleRecord}
    {claim : RuntimeEffectClaim} {observedAt : DateTime} {previousClaim : Option RuntimeEffectClaim}
    (accepted : validateRuntimeEffectClaim previous claim identity observedAt previousClaim =
      .ok ()) : ClaimBound previous claim identity observedAt := by
  simp only [validateRuntimeEffectClaim, bind_eq_ok_iff, rejectIf_eq_ok_iff, exists_unit_iff,
    not_not, not_or, not_lt, not_le, gt_iff_lt, ge_iff_le] at accepted
  obtain ⟨lifecycleEffect, effect, tenant, organization, _, claimable, active, _⟩ := accepted
  exact ⟨lifecycleEffect, effect, tenant, organization, claimable, active⟩

/-- An attempt must run under its claim, within the bound and inside the lease. -/
def validateRuntimeEffectDeliveryAttempt (envelope : RuntimeEffectDeliveryEnvelope)
    (claim : RuntimeEffectClaim) (attempt : RuntimeEffectDeliveryAttempt) :
    Except RuntimePortError Unit := do
  let identity := envelope.effectIdentity
  rejectIf (attempt.runtimeEffectId ≠ identity.runtimeEffectId)
    ⟨.contract, "delivery attempt effect differs from envelope"⟩
  rejectIf (claim.runtimeEffectId ≠ identity.runtimeEffectId)
    ⟨.claim, "delivery claim effect differs from envelope"⟩
  rejectIf (claim.tenantId ≠ identity.tenantId ∨ claim.organizationId ≠ identity.organizationId)
    ⟨.claim, "delivery claim scope differs from envelope"⟩
  rejectIf (attempt.runtimeEffectClaimId ≠ claim.runtimeEffectClaimId)
    ⟨.contract, "delivery attempt claim differs"⟩
  rejectIf (attempt.leaseId ≠ claim.leaseId)
    ⟨.contract, "delivery attempt lease differs"⟩
  rejectIf (attempt.attemptNumber.val > envelope.maximumAttemptCount.val)
    ⟨.retry, "delivery attempt exceeds the bounded maximum"⟩
  rejectIf (attempt.requestedAt < claim.claimedAt ∨ attempt.requestedAt ≥ claim.expiresAt)
    ⟨.claim, "delivery attempt begins outside the active lease"⟩
  rejectIf (attempt.deadline > claim.expiresAt)
    ⟨.claim, "delivery attempt deadline exceeds the active lease"⟩

/-- What an accepted attempt is bound to. -/
structure AttemptBound (envelope : RuntimeEffectDeliveryEnvelope) (claim : RuntimeEffectClaim)
    (attempt : RuntimeEffectDeliveryAttempt) : Prop where
  attemptEffect : attempt.runtimeEffectId = envelope.effectIdentity.runtimeEffectId
  claimEffect : claim.runtimeEffectId = envelope.effectIdentity.runtimeEffectId
  tenant : claim.tenantId = envelope.effectIdentity.tenantId
  organization : claim.organizationId = envelope.effectIdentity.organizationId
  attemptClaim : attempt.runtimeEffectClaimId = claim.runtimeEffectClaimId
  lease : attempt.leaseId = claim.leaseId
  bounded : attempt.attemptNumber.val ≤ envelope.maximumAttemptCount.val
  begins : claim.claimedAt ≤ attempt.requestedAt ∧ attempt.requestedAt < claim.expiresAt
  deadline : attempt.deadline ≤ claim.expiresAt

/-- Exactly the bound attempts are accepted. -/
theorem validateRuntimeEffectDeliveryAttempt_eq_ok_iff {claim : RuntimeEffectClaim}
    {attempt : RuntimeEffectDeliveryAttempt} :
    validateRuntimeEffectDeliveryAttempt envelope claim attempt = .ok () ↔
      AttemptBound envelope claim attempt := by
  simp only [validateRuntimeEffectDeliveryAttempt, bind_eq_ok_iff, rejectIf_eq_ok_iff,
    exists_unit_iff, not_not, not_or, not_lt, ge_iff_le, gt_iff_lt, not_le]
  constructor
  · rintro ⟨attemptEffect, claimEffect, ⟨tenant, organization⟩, attemptClaim, lease, bounded,
      begins, deadline⟩
    exact ⟨attemptEffect, claimEffect, tenant, organization, attemptClaim, lease, bounded, begins,
      deadline⟩
  · rintro ⟨attemptEffect, claimEffect, tenant, organization, attemptClaim, lease, bounded,
      begins, deadline⟩
    exact ⟨attemptEffect, claimEffect, ⟨tenant, organization⟩, attemptClaim, lease, bounded,
      begins, deadline⟩

/-- A result must be for the attempt and adapter it answers, inside the attempt
window. -/
def validateRuntimeEffectDeliveryResult (envelope : RuntimeEffectDeliveryEnvelope)
    (attempt : RuntimeEffectDeliveryAttempt) (result : RuntimeEffectDeliveryResult) :
    Except RuntimePortError Unit := do
  rejectIf (result.runtimeEffectId ≠ envelope.effectIdentity.runtimeEffectId)
    ⟨.contract, "delivery result effect differs"⟩
  rejectIf (result.runtimeEffectDeliveryAttemptId ≠ attempt.runtimeEffectDeliveryAttemptId)
    ⟨.contract, "delivery result attempt differs"⟩
  rejectIf (result.adapterReference ≠ envelope.adapterReference)
    ⟨.contract, "delivery result adapter differs"⟩
  rejectIf (result.adapterContractVersion ≠ envelope.adapterContractVersion)
    ⟨.contract, "delivery result adapter contract differs"⟩
  rejectIf (result.startedAt < attempt.requestedAt ∨ result.completedAt > attempt.deadline)
    ⟨.contract, "delivery result falls outside the attempt window"⟩

/-- An observation must be of the effect and prove the required outcome. -/
def validateRuntimeEffectReconciliationObservation
    (observation : RuntimeEffectReconciliationObservation) (expectedEffectId : UUID)
    (expectedOutcome : Option RuntimeEffectReconciliationOutcome) :
    Except RuntimePortError Unit := do
  rejectIf (observation.runtimeEffectId ≠ expectedEffectId)
    ⟨.reconciliation, "reconciliation effect differs"⟩
  rejectIf (∃ outcome ∈ expectedOutcome, observation.outcome ≠ outcome)
    ⟨.reconciliation, "reconciliation does not prove required outcome"⟩

/-- The reconciliation a retry of an ambiguous delivery must rest on. -/
def validateRetryReconciliation (identity : RuntimeEffectIdentity)
    (decision : RuntimeEffectRetryDecision) :
    Option RuntimeEffectReconciliationObservation → Except RuntimePortError Unit
  | none => .error ⟨.retry, "ambiguous delivery requires reconciliation"⟩
  | some observation => do
      validateRuntimeEffectReconciliationObservation observation identity.runtimeEffectId
        (some .confirmedNotDelivered)
      rejectIf (decision.reconciliationObservationId ≠
          some observation.runtimeEffectReconciliationObservationId)
        ⟨.retry, "retry reconciliation observation differs"⟩

/-- The checks made only of an approved decision. -/
def validateApprovedRetry (identity : RuntimeEffectIdentity)
    (envelope : RuntimeEffectDeliveryEnvelope) (priorResult : RuntimeEffectDeliveryResult)
    (decision : RuntimeEffectRetryDecision) (observedAt : DateTime)
    (observation : Option RuntimeEffectReconciliationObservation) :
    Except RuntimePortError Unit := do
  rejectIf (envelope.retryEligible = false)
    ⟨.retry, "delivery envelope prohibits retry"⟩
  rejectIf (decision.eligibleAt = none ∨ ∃ eligibleAt ∈ decision.eligibleAt, observedAt < eligibleAt)
    ⟨.retry, "retry is not yet eligible"⟩
  if priorResult.certainty = .ambiguous then
    validateRetryReconciliation identity decision observation
  else .ok ()

/-- A retry decision must be for the effect and its last result, within the bound of
the envelope, and if it is approved, eligible and reconciled. -/
def validateRuntimeEffectRetryDecision (identity : RuntimeEffectIdentity)
    (envelope : RuntimeEffectDeliveryEnvelope) (priorResult : RuntimeEffectDeliveryResult)
    (decision : RuntimeEffectRetryDecision) (observedAt : DateTime)
    (observation : Option RuntimeEffectReconciliationObservation) :
    Except RuntimePortError Unit := do
  rejectIf (decision.runtimeEffectId ≠ identity.runtimeEffectId)
    ⟨.retry, "retry effect differs"⟩
  rejectIf (decision.effectFingerprintDigestReference ≠ identity.effectFingerprintDigestReference)
    ⟨.retry, "retry changes the stable effect fingerprint"⟩
  rejectIf (decision.priorAttemptId ≠ priorResult.runtimeEffectDeliveryAttemptId)
    ⟨.retry, "retry prior attempt differs"⟩
  rejectIf (decision.priorCertainty ≠ priorResult.certainty)
    ⟨.retry, "retry certainty differs from the prior result"⟩
  rejectIf (decision.maximumAttemptCount ≠ envelope.maximumAttemptCount)
    ⟨.retry, "retry attempt bound differs from delivery envelope"⟩
  if decision.decisionStatus = .approved then
    validateApprovedRetry identity envelope priorResult decision observedAt observation
  else .ok ()

/-- What an approved decision that passes its validation is bound to. -/
structure ApprovedRetryBound (identity : RuntimeEffectIdentity)
    (envelope : RuntimeEffectDeliveryEnvelope) (priorResult : RuntimeEffectDeliveryResult)
    (decision : RuntimeEffectRetryDecision) (observedAt : DateTime)
    (observation : Option RuntimeEffectReconciliationObservation) : Prop where
  effect : decision.runtimeEffectId = identity.runtimeEffectId
  fingerprint :
    decision.effectFingerprintDigestReference = identity.effectFingerprintDigestReference
  attempt : decision.priorAttemptId = priorResult.runtimeEffectDeliveryAttemptId
  certainty : decision.priorCertainty = priorResult.certainty
  maximum : decision.maximumAttemptCount = envelope.maximumAttemptCount
  eligible : envelope.retryEligible = true
  reached : ∃ eligibleAt, decision.eligibleAt = some eligibleAt ∧ eligibleAt ≤ observedAt
  reconciled : priorResult.certainty = .ambiguous → ∃ fact, observation = some fact ∧
    fact.runtimeEffectId = identity.runtimeEffectId ∧ fact.outcome = .confirmedNotDelivered ∧
    decision.reconciliationObservationId = some fact.runtimeEffectReconciliationObservationId

/-- Only a confirming observation of the effect reconciles a retry. -/
theorem validateRetryReconciliation_eq_ok_iff {decision : RuntimeEffectRetryDecision}
    {observation : Option RuntimeEffectReconciliationObservation} :
    validateRetryReconciliation identity decision observation = .ok () ↔
      ∃ fact, observation = some fact ∧ fact.runtimeEffectId = identity.runtimeEffectId ∧
        fact.outcome = .confirmedNotDelivered ∧
        decision.reconciliationObservationId =
          some fact.runtimeEffectReconciliationObservationId := by
  cases observation with
  | none => simp [validateRetryReconciliation]
  | some fact =>
      simp [validateRetryReconciliation, validateRuntimeEffectReconciliationObservation]

/-- Exactly the bound approved decisions are accepted. -/
theorem validateRuntimeEffectRetryDecision_eq_ok_iff {priorResult : RuntimeEffectDeliveryResult}
    {decision : RuntimeEffectRetryDecision} {observedAt : DateTime}
    {observation : Option RuntimeEffectReconciliationObservation}
    (approved : decision.decisionStatus = .approved) :
    validateRuntimeEffectRetryDecision identity envelope priorResult decision observedAt
        observation = .ok () ↔
      ApprovedRetryBound identity envelope priorResult decision observedAt observation := by
  simp only [validateRuntimeEffectRetryDecision, validateApprovedRetry, bind_eq_ok_iff,
    exists_unit_iff]
  rw [if_pos approved]
  simp only [rejectIf_eq_ok_iff, bind_eq_ok_iff, exists_unit_iff, not_not, not_or, not_exists,
    not_and, not_lt, Bool.not_eq_false]
  rw [ite_eq_iff']
  simp only [validateRetryReconciliation_eq_ok_iff, implies_true, and_true]
  constructor
  · rintro ⟨effect, fingerprint, attempt, certainty, maximum, eligible, ⟨set, reached⟩,
      reconciled⟩
    obtain ⟨eligibleAt, isEligible⟩ := Option.ne_none_iff_exists'.mp set
    exact ⟨effect, fingerprint, attempt, certainty, maximum, eligible,
      ⟨eligibleAt, isEligible, reached eligibleAt isEligible⟩, reconciled⟩
  · rintro ⟨effect, fingerprint, attempt, certainty, maximum, eligible,
      ⟨eligibleAt, isEligible, reached⟩, reconciled⟩
    refine ⟨effect, fingerprint, attempt, certainty, maximum, eligible, ⟨?_, ?_⟩, reconciled⟩
    · rw [isEligible]
      exact Option.some_ne_none _
    · intro other isOther
      rw [isEligible, Option.mem_def, Option.some.injEq] at isOther
      exact isOther ▸ reached

/-- A revision must directly follow its predecessor along the closed lifecycle. -/
def validateRuntimeEffectLifecycleTransition (previous current : RuntimeEffectLifecycleRecord)
    (definitelyNotInvoked : Bool) : Except RuntimePortError Unit := do
  rejectIf (current.runtimeEffectId ≠ previous.runtimeEffectId)
    ⟨.lifecycle, "lifecycle effect differs"⟩
  rejectIf (current.lifecycleRevision.val ≠ previous.lifecycleRevision.val + 1)
    ⟨.lifecycle, "lifecycle revision must increment exactly once"⟩
  rejectIf (current.previousLifecycleRecordId ≠ some previous.runtimeEffectLifecycleRecordId)
    ⟨.lifecycle, "lifecycle previous record differs"⟩
  rejectIf (current.previousLifecycleDigestReference ≠ some previous.lifecycleDigestReference)
    ⟨.lifecycle, "lifecycle previous digest differs"⟩
  rejectIf (current.recordedAt < previous.recordedAt)
    ⟨.lifecycle, "lifecycle record predates its predecessor"⟩
  rejectIf (current.status ∉ previous.status.allowedSuccessors)
    ⟨.lifecycle, "runtime effect lifecycle transition is prohibited"⟩
  rejectIf (previous.status = .claimed ∧ current.status = .claimed ∧
      current.runtimeEffectClaimId = previous.runtimeEffectClaimId)
    ⟨.lifecycle, "reclaim requires a distinct claim identity"⟩
  rejectIf (previous.status = .ambiguous ∧ current.status ∈ [.delivered, .retryScheduled] ∧
      current.runtimeEffectReconciliationObservationId = none)
    ⟨.lifecycle, "ambiguous delivery requires reconciliation before progression"⟩
  rejectIf (previous.status = .delivering ∧ current.status = .deadLettered ∧
      definitelyNotInvoked = false ∧
      (current.runtimeEffectDeliveryAttemptId = none ∨
        current.runtimeEffectDeliveryResultId = none))
    ⟨.lifecycle, "dead letter after invocation requires bounded delivery evidence"⟩

/-- What one accepted transition establishes between two revisions. -/
structure LifecycleSuccessor (previous current : RuntimeEffectLifecycleRecord) : Prop where
  effect : current.runtimeEffectId = previous.runtimeEffectId
  revision : current.lifecycleRevision.val = previous.lifecycleRevision.val + 1
  record : current.previousLifecycleRecordId = some previous.runtimeEffectLifecycleRecordId
  digest : current.previousLifecycleDigestReference = some previous.lifecycleDigestReference
  order : previous.recordedAt ≤ current.recordedAt
  allowed : current.status ∈ previous.status.allowedSuccessors

theorem LifecycleSuccessor.of_validate {previous current : RuntimeEffectLifecycleRecord}
    {definitelyNotInvoked : Bool}
    (accepted : validateRuntimeEffectLifecycleTransition previous current definitelyNotInvoked =
      .ok ()) : LifecycleSuccessor previous current := by
  simp only [validateRuntimeEffectLifecycleTransition, bind_eq_ok_iff, rejectIf_eq_ok_iff,
    exists_unit_iff, not_not, not_lt] at accepted
  obtain ⟨effect, revision, record, digest, order, allowed, _⟩ := accepted
  exact ⟨effect, revision, record, digest, order, allowed⟩

theorem LifecycleSuccessor.status_ne_enqueued {previous current : RuntimeEffectLifecycleRecord}
    (successor : LifecycleSuccessor previous current) : current.status ≠ .enqueued := by
  intro enqueued
  have allowed := successor.allowed
  rw [enqueued] at allowed
  revert allowed
  cases previous.status <;> simp [RuntimeEffectLifecycleStatus.allowedSuccessors]

end PolicyOS.Runtime
