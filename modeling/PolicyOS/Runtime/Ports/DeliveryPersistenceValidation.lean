import PolicyOS.Runtime.Ports.DeliveryPersistence
import PolicyOS.Runtime.Ports.DeliveryValidation

/-!
# Validation at the delivery-persistence boundary

The checks a request must pass before the lifecycle store looks at it, and the
check a due selection passes before it is returned. The append check compares
six optional facts with the six references of the appended record; the loop over
them is written once, over the six as one list.
-/

namespace PolicyOS.Runtime

open Foundation

/-- The effect receipt fact must repeat the initial effect. -/
def validateEffectReceiptFact (initial : RuntimeInitialEffectEnqueue)
    (fact : RuntimeEffectReceiptFact) : Except RuntimePortError Unit :=
  let identity := initial.effectIdentity
  let envelope := initial.deliveryEnvelope
  rejectIf
    (fact.runtimeEffectId ≠ identity.runtimeEffectId ∨
      fact.effectIdempotencyKey ≠ identity.effectIdempotencyKey ∨
      fact.effectFingerprintDigestReference ≠ identity.effectFingerprintDigestReference ∨
      fact.runtimeEffectDeliveryEnvelopeId ≠ envelope.runtimeEffectDeliveryEnvelopeId ∨
      fact.envelopeDigestReference ≠ envelope.envelopeDigestReference ∨
      fact.originatingOutboxEnqueueRecordId ≠ identity.originatingOutboxEnqueueRecordId ∨
      fact.originatingTransactionId ≠ identity.originatingTransactionId ∨
      fact.originatingTransactionReceiptId ≠ identity.originatingTransactionReceiptId ∨
      fact.tenantId ≠ identity.tenantId ∨
      fact.organizationId ≠ identity.organizationId ∨
      fact.classification ≠ identity.classification)
    ⟨.transaction, "effect receipt fact differs from initial effect"⟩

/-- The lifecycle receipt fact must repeat the record it receipts. -/
def validateLifecycleReceiptFact (identity : RuntimeEffectIdentity)
    (lifecycle : RuntimeEffectLifecycleRecord) (fact : RuntimeEffectLifecycleReceiptFact) :
    Except RuntimePortError Unit :=
  rejectIf
    (fact.runtimeEffectId ≠ identity.runtimeEffectId ∨
      fact.runtimeEffectLifecycleRecordId ≠ lifecycle.runtimeEffectLifecycleRecordId ∨
      fact.lifecycleRevision ≠ lifecycle.lifecycleRevision ∨
      fact.lifecycleStatus ≠ lifecycle.status ∨
      fact.lifecycleDigestReference ≠ lifecycle.lifecycleDigestReference ∨
      fact.tenantId ≠ identity.tenantId ∨
      fact.organizationId ≠ identity.organizationId ∨
      fact.classification ≠ identity.classification)
    ⟨.transaction, "lifecycle receipt fact differs from lifecycle"⟩

/-- The outbox fact leaves the scope or the stable facts of the effect. -/
def crossesOutboxFacts (outbox : RuntimeOutboxEnqueueRecord) (identity : RuntimeEffectIdentity) :
    Prop :=
  let scope := outbox.scope
  scope.tenantId ≠ identity.tenantId ∨
  scope.organizationId ≠ identity.organizationId ∨
  scope.classification ≠ identity.classification ∨
  scope.runtimeExecutionRequestId ≠ identity.runtimeExecutionRequestId ∨
  scope.executionPlanId ≠ identity.executionPlanId ∨
  scope.executionPlanStepId ≠ identity.executionPlanStepId ∨
  scope.rootLineageId ≠ identity.rootLineageId ∨
  scope.rootLineageDigestReference ≠ identity.rootLineageDigestReference ∨
  outbox.runtimeOutboxEnqueueRecordId ≠ identity.originatingOutboxEnqueueRecordId ∨
  outbox.actionDefinitionId ≠ identity.actionDefinitionId ∨
  outbox.action ≠ identity.action ∨
  outbox.actionVersion ≠ identity.actionVersion ∨
  outbox.destinationReference ≠ identity.destinationReference ∨
  outbox.payloadSchemaReference ≠ identity.payloadSchemaReference ∨
  outbox.payloadReference ≠ identity.payloadReference ∨
  outbox.payloadDigestReference ≠ identity.payloadDigestReference

instance {outbox identity} : Decidable (crossesOutboxFacts outbox identity) :=
  inferInstanceAs
    (Decidable (_ ∨ _ ∨ _ ∨ _ ∨ _ ∨ _ ∨ _ ∨ _ ∨ _ ∨ _ ∨ _ ∨ _ ∨ _ ∨ _ ∨ _ ∨ _))

/-- An initial enqueue must be one effect's identity, envelope, outbox fact and
first revision, receipted as such. The atomic write set around it is checked by
its own validator. -/
def validateRuntimeInitialEffectEnqueue (initial : RuntimeInitialEffectEnqueue) :
    Except RuntimePortError Unit := do
  let identity := initial.effectIdentity
  let envelope := initial.deliveryEnvelope
  let lifecycle := initial.initialLifecycleRecord
  let outbox := initial.outboxEnqueueRecord
  validateRuntimeEffectDeliveryEnvelope envelope identity
  rejectIf (lifecycle.runtimeEffectId ≠ identity.runtimeEffectId ∨
      (lifecycle.lifecycleRevision.val ≠ 1 ∨ lifecycle.status ≠ .enqueued))
    ⟨.lifecycle, "initial effect lifecycle is not revision-one enqueued"⟩
  rejectIf (crossesOutboxFacts outbox identity)
    ⟨.scope, "initial effect crosses outbox scope or stable facts"⟩
  rejectIf (initial.contractVersion ≠ envelope.contractVersion)
    ⟨.reference, "initial effect contract version differs"⟩
  validateEffectReceiptFact initial initial.effectReceiptFact
  validateLifecycleReceiptFact identity lifecycle initial.lifecycleReceiptFact

/-- What the store relies on of an accepted initial enqueue. -/
structure InitialEnqueueBound (initial : RuntimeInitialEffectEnqueue) : Prop where
  envelopeIdentity : initial.deliveryEnvelope.effectIdentity = initial.effectIdentity
  inputSchema : initial.deliveryEnvelope.inputSchemaReference =
    initial.effectIdentity.payloadSchemaReference
  effect : initial.initialLifecycleRecord.runtimeEffectId = initial.effectIdentity.runtimeEffectId
  revision : initial.initialLifecycleRecord.lifecycleRevision.val = 1
  status : initial.initialLifecycleRecord.status = .enqueued

theorem InitialEnqueueBound.of_validate {initial : RuntimeInitialEffectEnqueue}
    (accepted : validateRuntimeInitialEffectEnqueue initial = .ok ()) :
    InitialEnqueueBound initial := by
  simp only [validateRuntimeInitialEffectEnqueue, bind_eq_ok_iff, rejectIf_eq_ok_iff,
    exists_unit_iff, validateRuntimeEffectDeliveryEnvelope_eq_ok_iff, not_or, not_not] at accepted
  obtain ⟨⟨envelopeIdentity, inputSchema⟩, ⟨effect, revision, status⟩, _⟩ := accepted
  exact ⟨envelopeIdentity, inputSchema, effect, revision, status⟩

/-- The order of due candidates: eligibility, then effect identifier. -/
abbrev DueKey := DateTime × UUID

/-- One key sorts strictly after another. -/
def DueKey.greater (left right : DueKey) : Prop :=
  left.1 > right.1 ∨ (left.1 = right.1 ∧ left.2 > right.2)

instance (left right : DueKey) : Decidable (left.greater right) :=
  inferInstanceAs (Decidable (_ ∨ _))

/-- A candidate's key. -/
def RuntimeEffectDueCandidate.key (candidate : RuntimeEffectDueCandidate) : DueKey :=
  (candidate.eligibleAt, candidate.effectIdentity.runtimeEffectId)

/-- Some adjacent pair of keys is out of order. -/
def outOfOrder : List DueKey → Prop
  | left :: right :: rest => left.greater right ∨ outOfOrder (right :: rest)
  | _ => False

instance decidableOutOfOrder : (keys : List DueKey) → Decidable (outOfOrder keys)
  | [] => .isFalse id
  | [_] => .isFalse id
  | left :: right :: rest =>
      have := decidableOutOfOrder (right :: rest)
      inferInstanceAs (Decidable (left.greater right ∨ outOfOrder (right :: rest)))

/-- The evidence a candidate must carry for the reason it is due. -/
def RuntimeEffectDueCandidate.evidenceMatches (candidate : RuntimeEffectDueCandidate) : Prop :=
  let lifecycle := candidate.currentLifecycleRecord
  let identity := candidate.effectIdentity
  match candidate.dueReason with
  | .initialEnqueue =>
      lifecycle.status = .enqueued ∧ candidate.previousClaim = none ∧
        candidate.retryDecision = none ∧ candidate.eligibleAt = lifecycle.recordedAt
  | .retryEligible =>
      lifecycle.status = .retryScheduled ∧ candidate.previousClaim = none ∧
        ∃ retry ∈ candidate.retryDecision,
          some retry.runtimeEffectRetryDecisionId = lifecycle.runtimeEffectRetryDecisionId ∧
          retry.runtimeEffectId = identity.runtimeEffectId ∧
          retry.eligibleAt = some candidate.eligibleAt
  | .claimExpired =>
      lifecycle.status = .claimed ∧ candidate.retryDecision = none ∧
        ∃ claim ∈ candidate.previousClaim,
          some claim.runtimeEffectClaimId = lifecycle.runtimeEffectClaimId ∧
          claim.runtimeEffectId = identity.runtimeEffectId ∧
          claim.expiresAt = candidate.eligibleAt

instance (candidate : RuntimeEffectDueCandidate) : Decidable candidate.evidenceMatches :=
  match candidate with
  | ⟨_, _, _, _, _, .initialEnqueue, _⟩ => inferInstanceAs (Decidable (_ ∧ _ ∧ _ ∧ _))
  | ⟨_, _, _, _, _, .retryEligible, _⟩ => inferInstanceAs (Decidable (_ ∧ _ ∧ ∃ _ ∈ _, _))
  | ⟨_, _, _, _, _, .claimExpired, _⟩ => inferInstanceAs (Decidable (_ ∧ _ ∧ ∃ _ ∈ _, _))

/-- The checks one due candidate must pass. -/
def validateDueCandidate (request : RuntimeEffectDueSelectionRequest)
    (candidate : RuntimeEffectDueCandidate) : Except RuntimePortError Unit := do
  let identity := candidate.effectIdentity
  validateRuntimeEffectDeliveryEnvelope candidate.deliveryEnvelope identity
  rejectIf (identity.tenantId ≠ request.tenantId ∨
      identity.organizationId ≠ request.organizationId ∨
      identity.classification ≠ request.classification)
    ⟨.scope, "due candidate crosses exact request scope"⟩
  rejectIf (candidate.currentLifecycleRecord.runtimeEffectId ≠ identity.runtimeEffectId)
    ⟨.reference, "due candidate lifecycle effect differs"⟩
  rejectIf (candidate.eligibleAt > request.observedAt)
    ⟨.timestamp, "due candidate is not yet eligible"⟩
  rejectIf (¬ candidate.evidenceMatches)
    ⟨.reference, "due candidate reason or evidence differs"⟩

/-- A due selection must be within its bound, in order, and every candidate of
it must be due in the requested scope. -/
def validateRuntimeEffectDueCandidates (request : RuntimeEffectDueSelectionRequest)
    (candidates : List RuntimeEffectDueCandidate) :
    Except RuntimePortError (List RuntimeEffectDueCandidate) := do
  rejectIf (candidates.length > request.maximumCandidateCount.val)
    ⟨.reference, "due candidates exceed the requested bound"⟩
  let keys := candidates.map (·.key)
  rejectIf (¬ keys.Nodup ∨ outOfOrder keys)
    ⟨.reference, "due candidates are duplicate or out of order"⟩
  checkEach (validateDueCandidate request) candidates
  pure candidates

/-- A claim request must hold an accepted claim and the exact `CLAIMED` revision
for it. -/
def validateRuntimeEffectClaimRequest (request : RuntimeEffectClaimRequest) :
    Except RuntimePortError Unit := do
  validateRuntimeEffectClaim request.previousLifecycleRecord request.claim
    request.effectIdentity request.observedAt request.previousClaim
  validateRuntimeEffectLifecycleTransition request.previousLifecycleRecord
    request.claimedLifecycleRecord false
  rejectIf (request.claimedLifecycleRecord.status ≠ .claimed ∨
      request.claimedLifecycleRecord.runtimeEffectClaimId ≠
        some request.claim.runtimeEffectClaimId ∨
      request.clockReference ≠ request.claim.clockReference)
    ⟨.claim, "claim lifecycle or clock binding differs"⟩
  validateLifecycleReceiptFact request.effectIdentity request.claimedLifecycleRecord
    request.receiptFact

/-- What an accepted claim request is bound to. -/
structure ClaimRequestBound (request : RuntimeEffectClaimRequest) : Prop where
  claim : ClaimBound request.previousLifecycleRecord request.claim request.effectIdentity
    request.observedAt
  successor : LifecycleSuccessor request.previousLifecycleRecord request.claimedLifecycleRecord
  status : request.claimedLifecycleRecord.status = .claimed
  claimId : request.claimedLifecycleRecord.runtimeEffectClaimId =
    some request.claim.runtimeEffectClaimId

theorem ClaimRequestBound.of_validate {request : RuntimeEffectClaimRequest}
    (accepted : validateRuntimeEffectClaimRequest request = .ok ()) :
    ClaimRequestBound request := by
  simp only [validateRuntimeEffectClaimRequest, bind_eq_ok_iff, rejectIf_eq_ok_iff,
    exists_unit_iff, not_or, not_not] at accepted
  obtain ⟨claim, transition, ⟨status, claimId, _⟩, _⟩ := accepted
  exact ⟨ClaimBound.of_validate claim, LifecycleSuccessor.of_validate transition, status, claimId⟩

/-- One evidence kind of an append: the identifier and effect of the supplied
fact, and the reference the appended record makes. -/
structure AppendEvidence where
  name : LifecycleEvidenceName
  item : Option (UUID × UUID)
  reference : Option UUID
  deriving DecidableEq

/-- The evidence of one kind from the supplied fact. -/
def AppendEvidence.of {Fact : Type} (name : LifecycleEvidenceName) (fact : Option Fact)
    (identify effect : Fact → UUID) (reference : Option UUID) : AppendEvidence :=
  ⟨name, fact.map fun item => (identify item, effect item), reference⟩

/-- The six evidence kinds of an append, in the order they are checked. -/
def RuntimeEffectLifecycleAppend.evidence (append : RuntimeEffectLifecycleAppend) :
    List AppendEvidence :=
  let current := append.lifecycleRecord
  [.of .claim append.claim (·.runtimeEffectClaimId) (·.runtimeEffectId)
      current.runtimeEffectClaimId,
    .of .attempt append.attempt (·.runtimeEffectDeliveryAttemptId) (·.runtimeEffectId)
      current.runtimeEffectDeliveryAttemptId,
    .of .result append.result (·.runtimeEffectDeliveryResultId) (·.runtimeEffectId)
      current.runtimeEffectDeliveryResultId,
    .of .retry append.retryDecision (·.runtimeEffectRetryDecisionId) (·.runtimeEffectId)
      current.runtimeEffectRetryDecisionId,
    .of .deadLetter append.deadLetter (·.runtimeEffectDeadLetterRecordId) (·.runtimeEffectId)
      current.runtimeEffectDeadLetterRecordId,
    .of .observation append.reconciliationObservation
      (·.runtimeEffectReconciliationObservationId) (·.runtimeEffectId)
      current.runtimeEffectReconciliationObservationId]

/-- A supplied fact must be the one the record refers to. Without a reference
none may be supplied, except the claim and attempt that support not-invoked
evidence. -/
def validateAppendEvidence (notInvoked : Bool) (effectId : UUID) (evidence : AppendEvidence) :
    Except RuntimePortError Unit := do
  let supportingNotInvokedEvidence :=
    notInvoked = true ∧ evidence.name ∈ [LifecycleEvidenceName.claim, .attempt]
  match evidence.reference with
  | none =>
      rejectIf (evidence.item ≠ none ∧ ¬ supportingNotInvokedEvidence)
        ⟨.reference, s!"lifecycle {evidence.name.text} evidence differs"⟩
  | some reference =>
      rejectIf (evidence.item.map Prod.fst ≠ some reference)
        ⟨.reference, s!"lifecycle {evidence.name.text} evidence differs"⟩
  rejectIf (∃ item ∈ evidence.item, item.2 ≠ effectId)
    ⟨.scope, s!"lifecycle {evidence.name.text} effect differs"⟩

/-- What accepted evidence of one kind says. -/
structure EvidenceBound (notInvoked : Bool) (effectId : UUID) (evidence : AppendEvidence) :
    Prop where
  referenced : ∀ reference, evidence.reference = some reference →
    evidence.item.map Prod.fst = some reference
  unreferenced : evidence.reference = none → evidence.item ≠ none →
    notInvoked = true ∧ evidence.name ∈ [LifecycleEvidenceName.claim, .attempt]
  effect : ∀ item, evidence.item = some item → item.2 = effectId

variable {notInvoked : Bool} {effectId : UUID} {name : LifecycleEvidenceName}
  {request : RuntimeEffectLifecycleRequest}

/-- Exactly the bound evidence is accepted. -/
theorem validateAppendEvidence_eq_ok_iff {evidence : AppendEvidence} :
    validateAppendEvidence notInvoked effectId evidence = .ok () ↔
      EvidenceBound notInvoked effectId evidence := by
  obtain ⟨name, item, reference⟩ := evidence
  cases reference with
  | none =>
      simp only [validateAppendEvidence, bind_eq_ok_iff, rejectIf_eq_ok_iff, exists_unit_iff]
      constructor
      · rintro ⟨unreferenced, effect⟩
        refine ⟨by rintro _ ⟨⟩, fun _ present => ?_, fun found same => ?_⟩
        · by_contra unsupported
          exact unreferenced ⟨present, unsupported⟩
        · by_contra different
          exact effect ⟨found, same, different⟩
      · rintro ⟨_, unreferenced, effect⟩
        refine ⟨?_, ?_⟩
        · rintro ⟨present, unsupported⟩
          exact unsupported (unreferenced rfl present)
        · rintro ⟨found, same, different⟩
          exact different (effect found same)
  | some reference =>
      simp only [validateAppendEvidence, bind_eq_ok_iff, rejectIf_eq_ok_iff, exists_unit_iff,
        not_not]
      constructor
      · rintro ⟨referenced, effect⟩
        refine ⟨?_, by rintro ⟨⟩, fun found same => ?_⟩
        · rintro _ ⟨rfl⟩
          exact referenced
        · by_contra different
          exact effect ⟨found, same, different⟩
      · rintro ⟨referenced, _, effect⟩
        refine ⟨referenced reference rfl, ?_⟩
        rintro ⟨found, same, different⟩
        exact different (effect found same)

theorem EvidenceBound.fact_effect {Fact : Type} {fact : Option Fact} {identify effect : Fact → UUID}
    {reference : Option UUID}
    (bound : EvidenceBound notInvoked effectId (.of name fact identify effect reference))
    {item : Fact} (supplied : fact = some item) : effect item = effectId :=
  bound.effect (identify item, effect item) (by simp [AppendEvidence.of, supplied])

theorem EvidenceBound.of_supplied {Fact : Type} {identify effect : Fact → UUID} {item : Fact}
    (ofEffect : effect item = effectId) :
    EvidenceBound notInvoked effectId
      (.of name (some item) identify effect (some (identify item))) where
  referenced _ same := same
  unreferenced same := nomatch same
  effect _ same := Option.some.inj same ▸ ofEffect

theorem EvidenceBound.of_absent {Fact : Type} {identify effect : Fact → UUID} :
    EvidenceBound notInvoked effectId (.of name none identify effect none) where
  referenced _ same := nomatch same
  unreferenced _ supplied := absurd rfl supplied
  effect _ same := nomatch same

/-- A referenced fact is supplied, under the reference and of the effect. -/
theorem EvidenceBound.supplied {Fact : Type} {fact : Option Fact} {identify effect : Fact → UUID}
    {reference : Option UUID}
    (bound : EvidenceBound notInvoked effectId (.of name fact identify effect reference))
    (referenced : reference ≠ none) :
    ∃ item, fact = some item ∧ reference = some (identify item) ∧ effect item = effectId := by
  obtain ⟨target, rfl⟩ := Option.ne_none_iff_exists'.mp referenced
  have named := bound.referenced target rfl
  cases fact with
  | none => cases named
  | some item =>
      refine ⟨item, rfl, ?_, bound.effect _ rfl⟩
      simpa [AppendEvidence.of] using named.symm

theorem EvidenceBound.absent {Fact : Type} {fact : Option Fact} {identify effect : Fact → UUID}
    {reference : Option UUID}
    (bound : EvidenceBound notInvoked effectId (.of name fact identify effect reference))
    (unreferenced : reference = none)
    (unsupported : ¬ (notInvoked = true ∧ name ∈ [LifecycleEvidenceName.claim, .attempt])) :
    fact = none := by
  cases fact with
  | none => rfl
  | some item =>
      exact absurd (bound.unreferenced unreferenced (Option.some_ne_none _)) unsupported

/-- Not-invoked evidence must name the claim, attempt and `DELIVERING` revision
it is about, in the scope of the effect. -/
def notInvokedEvidenceDiffers (append : RuntimeEffectLifecycleAppend)
    (notInvoked : RuntimeEffectDefinitelyNotInvoked) (claim : RuntimeEffectClaim)
    (attempt : RuntimeEffectDeliveryAttempt) : Prop :=
  let identity := append.effectIdentity
  let previous := append.previousLifecycleRecord
  notInvoked.runtimeEffectId ≠ identity.runtimeEffectId ∨
  notInvoked.runtimeEffectDeliveryAttemptId ≠ attempt.runtimeEffectDeliveryAttemptId ∨
  notInvoked.runtimeEffectClaimId ≠ claim.runtimeEffectClaimId ∨
  previous.runtimeEffectClaimId ≠ some claim.runtimeEffectClaimId ∨
  previous.runtimeEffectDeliveryAttemptId ≠ some attempt.runtimeEffectDeliveryAttemptId ∨
  notInvoked.leaseId ≠ claim.leaseId ∨
  attempt.runtimeEffectClaimId ≠ claim.runtimeEffectClaimId ∨
  attempt.leaseId ≠ claim.leaseId ∨
  claim.tenantId ≠ identity.tenantId ∨
  claim.organizationId ≠ identity.organizationId ∨
  notInvoked.deliveringLifecycleRecordId ≠ previous.runtimeEffectLifecycleRecordId ∨
  notInvoked.deliveringLifecycleRevision ≠ previous.lifecycleRevision ∨
  notInvoked.tenantId ≠ identity.tenantId ∨
  notInvoked.organizationId ≠ identity.organizationId ∨
  notInvoked.classification ≠ identity.classification

instance {append notInvoked claim attempt} :
    Decidable (notInvokedEvidenceDiffers append notInvoked claim attempt) :=
  inferInstanceAs (Decidable (_ ∨ _ ∨ _ ∨ _ ∨ _ ∨ _ ∨ _ ∨ _ ∨ _ ∨ _ ∨ _ ∨ _ ∨ _ ∨ _ ∨ _))

/-- The checks made only when an append carries not-invoked evidence. -/
def validateNotInvokedAppend (append : RuntimeEffectLifecycleAppend)
    (notInvoked : RuntimeEffectDefinitelyNotInvoked) : Except RuntimePortError Unit := do
  let previous := append.previousLifecycleRecord
  let current := append.lifecycleRecord
  rejectIf (previous.status ≠ .delivering ∨ current.status ∉ [.retryScheduled, .deadLettered])
    ⟨.lifecycle, "definitely-not-invoked requires delivering to retry or dead letter"⟩
  match append.attempt, append.claim, append.result with
  | some attempt, some claim, none => do
      rejectIf (notInvokedEvidenceDiffers append notInvoked claim attempt)
        ⟨.scope, "definitely-not-invoked evidence differs"⟩
      rejectIf (notInvoked.reason = .leaseExpiredAfterDelivering ∧
          notInvoked.observedAt < claim.expiresAt)
        ⟨.timestamp, "lease-expired evidence predates lease expiry"⟩
      if current.status = .retryScheduled then
        rejectIf (append.retryDecision = none)
          ⟨.reference, "not-invoked retry requires a separate retry decision"⟩
      else
        rejectIf (append.deadLetter = none)
          ⟨.reference, "not-invoked dead letter requires a dead-letter fact"⟩
  | _, _, _ =>
      .error ⟨.reference,
        "definitely-not-invoked requires claim and attempt but no adapter result"⟩

/-- What accepted not-invoked evidence of one claim and attempt says. -/
structure NotInvokedBound (append : RuntimeEffectLifecycleAppend)
    (notInvoked : RuntimeEffectDefinitelyNotInvoked) (claim : RuntimeEffectClaim)
    (attempt : RuntimeEffectDeliveryAttempt) : Prop where
  delivering : append.previousLifecycleRecord.status = .delivering
  following : append.lifecycleRecord.status ∈ [.retryScheduled, .deadLettered]
  unanswered : append.result = none
  agrees : ¬ notInvokedEvidenceDiffers append notInvoked claim attempt
  leaseEnded : notInvoked.reason = .leaseExpiredAfterDelivering →
    claim.expiresAt ≤ notInvoked.observedAt
  retried : append.lifecycleRecord.status = .retryScheduled → append.retryDecision ≠ none
  buried : append.lifecycleRecord.status ≠ .retryScheduled → append.deadLetter ≠ none

/-- Exactly the bound evidence is accepted. -/
theorem validateNotInvokedAppend_eq_ok_iff {append : RuntimeEffectLifecycleAppend}
    {notInvoked : RuntimeEffectDefinitelyNotInvoked} {claim : RuntimeEffectClaim}
    {attempt : RuntimeEffectDeliveryAttempt} (claimed : append.claim = some claim)
    (attempted : append.attempt = some attempt) :
    validateNotInvokedAppend append notInvoked = .ok () ↔
      NotInvokedBound append notInvoked claim attempt := by
  simp only [validateNotInvokedAppend, claimed, attempted, bind_eq_ok_iff, exists_unit_iff]
  cases answered : append.result with
  | some result =>
      constructor
      · rintro ⟨_, raised⟩
        cases raised
      · intro bound
        exact absurd (answered.symm.trans bound.unanswered) (Option.some_ne_none _)
  | none =>
      simp only [bind_eq_ok_iff, exists_unit_iff]
      rw [ite_eq_iff']
      simp only [rejectIf_eq_ok_iff, not_or, not_not, not_and, not_lt]
      constructor
      · rintro ⟨⟨delivering, following⟩, agrees, leaseEnded, retried, buried⟩
        exact ⟨delivering, following, answered, agrees, leaseEnded, retried, buried⟩
      · rintro ⟨delivering, following, _, agrees, leaseEnded, retried, buried⟩
        exact ⟨⟨delivering, following⟩, agrees, leaseEnded, retried, buried⟩

/-- Not-invoked evidence is checked only when it is supplied. -/
def validateOptionalNotInvoked (append : RuntimeEffectLifecycleAppend) :
    Except RuntimePortError Unit :=
  match append.definitelyNotInvoked with
  | none => .ok ()
  | some notInvoked => validateNotInvokedAppend append notInvoked

/-- An append must be a lawful successor of the record it names, receipted as
itself, with exactly the evidence its record refers to. -/
def validateRuntimeEffectLifecycleAppendRequest (request : RuntimeEffectLifecycleAppendRequest) :
    Except RuntimePortError Unit := do
  let append := request.append
  let identity := append.effectIdentity
  let previous := append.previousLifecycleRecord
  let current := append.lifecycleRecord
  rejectIf (previous.runtimeEffectId ≠ identity.runtimeEffectId)
    ⟨.lifecycle, "previous lifecycle effect differs"⟩
  validateRuntimeEffectLifecycleTransition previous current append.definitelyNotInvoked.isSome
  validateLifecycleReceiptFact identity current append.receiptFact
  checkEach
    (validateAppendEvidence append.definitelyNotInvoked.isSome identity.runtimeEffectId)
    append.evidence
  validateOptionalNotInvoked append
  rejectIf (request.requestedAt < current.recordedAt)
    ⟨.timestamp, "lifecycle append request predates its record"⟩

/-- What the store relies on of an accepted append request. -/
structure AppendRequestBound (request : RuntimeEffectLifecycleAppendRequest) : Prop where
  effect : request.append.previousLifecycleRecord.runtimeEffectId =
    request.append.effectIdentity.runtimeEffectId
  successor : LifecycleSuccessor request.append.previousLifecycleRecord
    request.append.lifecycleRecord
  evidence : ∀ evidence ∈ request.append.evidence,
    EvidenceBound request.append.definitelyNotInvoked.isSome
      request.append.effectIdentity.runtimeEffectId evidence
  notInvoked : ∀ fact, request.append.definitelyNotInvoked = some fact →
    validateNotInvokedAppend request.append fact = .ok ()

theorem AppendRequestBound.of_validate {request : RuntimeEffectLifecycleAppendRequest}
    (accepted : validateRuntimeEffectLifecycleAppendRequest request = .ok ()) :
    AppendRequestBound request := by
  simp only [validateRuntimeEffectLifecycleAppendRequest, bind_eq_ok_iff, rejectIf_eq_ok_iff,
    exists_unit_iff, checkEach_eq_ok_iff, validateAppendEvidence_eq_ok_iff, not_not] at accepted
  obtain ⟨effect, transition, _, evidence, notInvoked, _⟩ := accepted
  refine ⟨effect, LifecycleSuccessor.of_validate transition, evidence, ?_⟩
  intro fact present
  simpa only [validateOptionalNotInvoked, present] using notInvoked

namespace AppendRequestBound

variable {request : RuntimeEffectLifecycleAppendRequest}

theorem claimEvidence (bound : AppendRequestBound request) :
    EvidenceBound request.append.definitelyNotInvoked.isSome
      request.append.effectIdentity.runtimeEffectId
      (.of .claim request.append.claim (·.runtimeEffectClaimId) (·.runtimeEffectId)
        request.append.lifecycleRecord.runtimeEffectClaimId) :=
  bound.evidence _ (by simp [RuntimeEffectLifecycleAppend.evidence])

theorem attemptEvidence (bound : AppendRequestBound request) :
    EvidenceBound request.append.definitelyNotInvoked.isSome
      request.append.effectIdentity.runtimeEffectId
      (.of .attempt request.append.attempt (·.runtimeEffectDeliveryAttemptId) (·.runtimeEffectId)
        request.append.lifecycleRecord.runtimeEffectDeliveryAttemptId) :=
  bound.evidence _ (by simp [RuntimeEffectLifecycleAppend.evidence])

theorem retryEvidence (bound : AppendRequestBound request) :
    EvidenceBound request.append.definitelyNotInvoked.isSome
      request.append.effectIdentity.runtimeEffectId
      (.of .retry request.append.retryDecision (·.runtimeEffectRetryDecisionId)
        (·.runtimeEffectId) request.append.lifecycleRecord.runtimeEffectRetryDecisionId) :=
  bound.evidence _ (by simp [RuntimeEffectLifecycleAppend.evidence])

theorem deadLetterEvidence (bound : AppendRequestBound request) :
    EvidenceBound request.append.definitelyNotInvoked.isSome
      request.append.effectIdentity.runtimeEffectId
      (.of .deadLetter request.append.deadLetter (·.runtimeEffectDeadLetterRecordId)
        (·.runtimeEffectId) request.append.lifecycleRecord.runtimeEffectDeadLetterRecordId) :=
  bound.evidence _ (by simp [RuntimeEffectLifecycleAppend.evidence])

theorem resultEvidence (bound : AppendRequestBound request) :
    EvidenceBound request.append.definitelyNotInvoked.isSome
      request.append.effectIdentity.runtimeEffectId
      (.of .result request.append.result (·.runtimeEffectDeliveryResultId) (·.runtimeEffectId)
        request.append.lifecycleRecord.runtimeEffectDeliveryResultId) :=
  bound.evidence _ (by simp [RuntimeEffectLifecycleAppend.evidence])

theorem observationEvidence (bound : AppendRequestBound request) :
    EvidenceBound request.append.definitelyNotInvoked.isSome
      request.append.effectIdentity.runtimeEffectId
      (.of .observation request.append.reconciliationObservation
        (·.runtimeEffectReconciliationObservationId) (·.runtimeEffectId)
        request.append.lifecycleRecord.runtimeEffectReconciliationObservationId) :=
  bound.evidence _ (by simp [RuntimeEffectLifecycleAppend.evidence])

end AppendRequestBound

/-- A stored receipt must repeat the supplied fact. -/
def validateLifecycleReceipt (fact : RuntimeEffectLifecycleReceiptFact)
    (receipt : RuntimeEffectLifecycleReceipt) : Except RuntimePortError Unit :=
  rejectIf (receipt.receiptFact ≠ fact)
    ⟨.transaction, "stored lifecycle receipt differs from supplied fact"⟩

/-- A commit result must receipt the request's own fact, stored no earlier than
it was requested. -/
def validateRuntimeEffectLifecycleCommitResult (request : RuntimeEffectLifecycleRequest)
    (result : RuntimeEffectLifecycleCommitResult) :
    Except RuntimePortError RuntimeEffectLifecycleCommitResult := do
  validateLifecycleReceipt request.receiptFact result.receipt
  rejectIf (result.receipt.storedAt < request.requestedAt)
    ⟨.timestamp, "lifecycle receipt predates request"⟩
  pure result

theorem validateRuntimeEffectLifecycleCommitResult_own
    {disposition : RuntimeEffectLifecycleCommitDisposition} :
    validateRuntimeEffectLifecycleCommitResult request
        ⟨disposition, ⟨request.receiptFact, request.requestedAt⟩⟩ =
      .ok ⟨disposition, ⟨request.receiptFact, request.requestedAt⟩⟩ := by
  simp only [validateRuntimeEffectLifecycleCommitResult, validateLifecycleReceipt,
    bind_eq_ok_iff, rejectIf_eq_ok_iff, exists_unit_iff, pure_eq_ok_iff, not_not]
  exact ⟨trivial, lt_irrefl _, trivial⟩

/-- A replayed append must be the stored one, fact for fact. -/
def validateRuntimeEffectLifecycleReplay (expected actual : RuntimeEffectLifecycleAppendRequest) :
    Except RuntimePortError Unit :=
  rejectIf (expected ≠ actual)
    ⟨.effectConflict, "lifecycle revision digest or immutable append facts differ"⟩

/-- The check a request passes before the store is asked. -/
def validateRuntimeEffectLifecycleRequest :
    RuntimeEffectLifecycleRequest → Except RuntimePortError Unit
  | .append request => validateRuntimeEffectLifecycleAppendRequest request
  | .claim request => validateRuntimeEffectClaimRequest request

/-- What either kind of accepted request is bound to. -/
structure LifecycleRequestBound (request : RuntimeEffectLifecycleRequest) : Prop where
  effect : request.previousLifecycleRecord.runtimeEffectId =
    request.effectIdentity.runtimeEffectId
  successor : LifecycleSuccessor request.previousLifecycleRecord request.lifecycleRecord

theorem LifecycleRequestBound.of_validate
    (accepted : validateRuntimeEffectLifecycleRequest request = .ok ()) :
    LifecycleRequestBound request := by
  cases request with
  | append request =>
      have bound := AppendRequestBound.of_validate accepted
      exact ⟨bound.effect, bound.successor⟩
  | claim request =>
      have bound := ClaimRequestBound.of_validate accepted
      exact ⟨bound.claim.lifecycleEffect.trans bound.claim.effect, bound.successor⟩

theorem LifecycleRequestBound.record_effect (bound : LifecycleRequestBound request) :
    request.lifecycleRecord.runtimeEffectId = request.effectIdentity.runtimeEffectId :=
  bound.successor.effect.trans bound.effect

end PolicyOS.Runtime
