import PolicyOS.Runtime.Orchestration.DeliveryService
import PolicyOS.Runtime.Persistence.LifecycleSystem

/-!
# The gate before the adapter and the check after it

The adapter is called exactly when the gate clears, and then once. The outcome
of that call is validated afterwards against facts most of which were known
before it. This module says which calls the gate clears, and for which of them
nothing known before the call can make the outcome fail.
-/

namespace PolicyOS.Runtime

open Foundation

variable {call : DeliveryCall} {controls : DeliveryControls}

namespace DeliveryCall

/-- How the cancellation control of a call can be answered. -/
inductive CancellationObserved (call : DeliveryCall) :
    Option RuntimeCancellationObservation → Prop where
  | unused (unasked : call.request.cancellationReference = none)
      (unsupplied : call.cancellation = none) : CancellationObserved call none
  | observed {reference port observation}
      (asked : call.request.cancellationReference = some reference)
      (supplied : call.cancellation = some port)
      (answered : port reference = .ok observation)
      (valid : validateRuntimeOrchestrationCancellationObservation call.request observation
        call.reading.observedAt = .ok ()) : CancellationObserved call (some observation)

/-- The cancellation control is answered in no other way. -/
theorem observeCancellation_eq_ok_iff {answer : Option RuntimeCancellationObservation} :
    call.observeCancellation = .ok answer ↔ CancellationObserved call answer := by
  constructor
  · intro observed
    unfold observeCancellation at observed
    split at observed
    · rename_i unasked unsupplied
      cases observed
      exact .unused unasked unsupplied
    · cases observed
    · cases observed
    · rename_i reference port asked supplied
      simp only [bind_eq_ok_iff, exists_unit_iff, pure_eq_ok_iff] at observed
      obtain ⟨observation, answered, valid, rfl⟩ := observed
      exact .observed asked supplied answered valid
  · rintro (⟨unasked, unsupplied⟩ | ⟨asked, supplied, answered, valid⟩)
    · simp [observeCancellation, unasked, unsupplied]
    · simp only [observeCancellation, asked, supplied, bind_eq_ok_iff, exists_unit_iff,
        pure_eq_ok_iff]
      exact ⟨_, answered, valid, rfl⟩

/-- How the credential control of a call can be answered. -/
inductive CredentialAcquired (call : DeliveryCall) :
    Option RuntimeCredentialLeaseReference → Prop where
  | unused (unasked : call.request.credentialLeaseRequest = none)
      (unsupplied : call.credentials = none) : CredentialAcquired call none
  | acquired {asked broker outcome lease}
      (asks : call.request.credentialLeaseRequest = some asked)
      (supplied : call.credentials = some broker)
      (answered : broker asked = .ok outcome)
      (issued : outcome.status = .issued)
      (carried : outcome.leaseReference = some lease)
      (valid : validateRuntimeOrchestrationDeliveryCredential call.request lease
        call.reading.observedAt = .ok ()) : CredentialAcquired call (some lease)

/-- The credential control is answered in no other way. -/
theorem acquireCredential_eq_ok_iff {answer : Option RuntimeCredentialLeaseReference} :
    call.acquireCredential = .ok answer ↔ CredentialAcquired call answer := by
  constructor
  · intro acquired
    unfold acquireCredential at acquired
    split at acquired
    · rename_i unasked unsupplied
      cases acquired
      exact .unused unasked unsupplied
    · cases acquired
    · cases acquired
    · rename_i asked broker asks supplied
      simp only [bind_eq_ok_iff, rejectIf_eq_ok_iff, exists_unit_iff, not_not] at acquired
      obtain ⟨outcome, answered, issued, leased⟩ := acquired
      unfold leaseOf at leased
      split at leased
      · cases leased
      · rename_i lease carried
        simp only [bind_eq_ok_iff, exists_unit_iff, pure_eq_ok_iff] at leased
        obtain ⟨valid, rfl⟩ := leased
        exact .acquired asks supplied answered issued carried valid
  · rintro (⟨unasked, unsupplied⟩ | ⟨asks, supplied, answered, issued, carried, valid⟩)
    · simp [acquireCredential, unasked, unsupplied]
    · simp only [acquireCredential, asks, supplied, bind_eq_ok_iff, rejectIf_eq_ok_iff,
        exists_unit_iff, not_not]
      refine ⟨_, answered, issued, ?_⟩
      simp only [leaseOf, carried, bind_eq_ok_iff, exists_unit_iff, pure_eq_ok_iff]
      exact ⟨valid, trivial⟩

/-- Everything the gate checks of a call whose control ports answered so. -/
structure Controlled (call : DeliveryCall) (controls : DeliveryControls) : Prop where
  request : validateRuntimeOrchestrationDeliveryRequest call.request = .ok ()
  delivering : validateRuntimeOrchestrationDeliveringAppend call.request call.deliveringResult
    call.deliveringRequest call.deliveringRequest.append.lifecycleRecord = .ok ()
  committed : Accepted (validateRuntimeEffectLifecycleCommitResult
    (.append call.deliveringRequest) call.deliveringResult)
  envelope : call.invocation.envelope = call.request.envelope
  claim : call.invocation.claim = call.request.claim
  attempt : call.invocation.attempt = call.request.attempt
  adapter : call.delivery.adapterReference = call.request.envelope.adapterReference
  adapterContract :
    call.delivery.adapterContractVersion = call.request.envelope.adapterContractVersion
  adapterFamily : call.delivery.adapterFamily = call.request.envelope.adapterFamily
  clock : call.reading.clockReference = call.request.clockReference
  permits : ∀ permit ∈ call.request.authority.permitReferences,
    (permit.validFrom ≤ call.reading.observedAt ∧ call.reading.observedAt < permit.expiresAt) ∧
      1 ≤ permit.remainingInvocations.val ∧ 1 ≤ permit.remainingAttempts.val
  cancellation : CancellationObserved call controls.cancellation
  credential : CredentialAcquired call controls.credential

/-- The gate reads the controls of exactly the controlled calls. -/
theorem readControls_eq_ok_iff :
    call.readControls = .ok controls ↔ Controlled call controls := by
  obtain ⟨cancellation, credential⟩ := controls
  simp only [readControls, validateBinding, validatePermitAtReading, bind_eq_ok_iff,
    exists_unit_iff, checkEach_eq_ok_iff, observeCancellation_eq_ok_iff,
    acquireCredential_eq_ok_iff, pure_eq_ok_iff, fromPorts_eq_ok_iff]
  simp only [rejectIf_eq_ok_iff, not_or, not_not, not_lt, DeliveryControls.mk.injEq]
  constructor
  · rintro ⟨request, delivering, _, committed, ⟨envelope, ⟨claim, attempt⟩, adapter,
      adapterContract, adapterFamily⟩, clock, permits, _, observed, _, acquired, rfl, rfl⟩
    exact ⟨request, delivering, ⟨_, committed⟩, envelope, claim, attempt, adapter,
      adapterContract, adapterFamily, clock, permits, observed, acquired⟩
  · rintro ⟨request, delivering, ⟨_, committed⟩, envelope, claim, attempt, adapter,
      adapterContract, adapterFamily, clock, permits, observed, acquired⟩
    exact ⟨request, delivering, _, committed, ⟨envelope, ⟨claim, attempt⟩, adapter,
      adapterContract, adapterFamily⟩, clock, permits, _, observed, _, acquired, rfl, rfl⟩

theorem blockedReason_eq_none_iff :
    call.blockedReason controls = none ↔
      ¬ cancellationStops controls ∧ ¬ call.credentialExpired controls ∧ ¬ call.claimExpired := by
  unfold blockedReason
  by_cases claimExpired : call.claimExpired
  · simp [claimExpired]
  · by_cases credentialExpired : call.credentialExpired controls
    · simp [credentialExpired, claimExpired]
    · simp [credentialExpired, claimExpired]

/-- The gate clears a call under these controls. -/
structure Clears (call : DeliveryCall) (controls : DeliveryControls) : Prop where
  controlled : Controlled call controls
  uncancelled : ¬ cancellationStops controls
  credentialHeld : ¬ call.credentialExpired controls
  claimHeld : ¬ call.claimExpired

theorem Controlled.unique {controls other : DeliveryControls}
    (controlled : Controlled call controls) (again : Controlled call other) :
    controls = other := by
  rw [← readControls_eq_ok_iff] at controlled again
  exact Except.ok.inj (controlled.symm.trans again)

theorem Clears.invoke (clears : Clears call controls) :
    invokeRuntimeEffectDelivery call =
      ⟨[call.invocation], (call.deliverOnce controls).map .inl⟩ := by
  have read := readControls_eq_ok_iff.mpr clears.controlled
  have unblocked := blockedReason_eq_none_iff.mpr
    ⟨clears.uncancelled, clears.credentialHeld, clears.claimHeld⟩
  simp only [invokeRuntimeEffectDelivery, read, unblocked]

/-- The adapter is called exactly when the gate clears, and then once, with the
supplied invocation. -/
theorem invocations_eq (call : DeliveryCall) :
    ((invokeRuntimeEffectDelivery call).invocations = [call.invocation] ∧
        ∃ controls, Clears call controls) ∨
      ((invokeRuntimeEffectDelivery call).invocations = [] ∧
        ¬ ∃ controls, Clears call controls) := by
  cases read : call.readControls with
  | error raised =>
      refine .inr ⟨by simp only [invokeRuntimeEffectDelivery, read], ?_⟩
      rintro ⟨controls, clears⟩
      rw [readControls_eq_ok_iff.mpr clears.controlled] at read
      cases read
  | ok controls =>
      have controlled := readControls_eq_ok_iff.mp read
      cases blocked : call.blockedReason controls with
      | none =>
          obtain ⟨uncancelled, credentialHeld, claimHeld⟩ := blockedReason_eq_none_iff.mp blocked
          have clears : Clears call controls :=
            ⟨controlled, uncancelled, credentialHeld, claimHeld⟩
          exact .inl ⟨by rw [clears.invoke], controls, clears⟩
      | some reason =>
          refine .inr ⟨by simp only [invokeRuntimeEffectDelivery, read, blocked], ?_⟩
          rintro ⟨other, clears⟩
          obtain rfl := controlled.unique clears.controlled
          rw [blockedReason_eq_none_iff.mpr
            ⟨clears.uncancelled, clears.credentialHeld, clears.claimHeld⟩] at blocked
          cases blocked

/-- The outcome checks whose facts are known before the adapter is called. -/
structure CheckedBefore (call : DeliveryCall) (controls : DeliveryControls) : Prop where
  request : validateRuntimeOrchestrationDeliveryRequest call.request = .ok ()
  clock : call.reading.clockReference = call.request.clockReference
  deadline : call.reading.observedAt ≤ call.request.attempt.deadline
  claimLease : call.reading.observedAt < call.request.claim.expiresAt
  cancellation : validateOutcomeCancellation call.request controls.cancellation = .ok ()
  credential : validateOutcomeCredential call.request controls.credential = .ok ()

/-- A result of the called adapter and attempt, inside its time window: begun
after the request and the clock reading, complete by the deadline. -/
structure ResultFits (call : DeliveryCall) (result : RuntimeEffectDeliveryResult) : Prop where
  effect : result.runtimeEffectId = call.request.envelope.effectIdentity.runtimeEffectId
  attempt : result.runtimeEffectDeliveryAttemptId =
    call.request.attempt.runtimeEffectDeliveryAttemptId
  adapter : result.adapterReference = call.request.envelope.adapterReference
  adapterContract : result.adapterContractVersion = call.request.envelope.adapterContractVersion
  afterRequest : call.request.attempt.requestedAt ≤ result.startedAt
  afterReading : call.reading.observedAt ≤ result.startedAt
  byDeadline : result.completedAt ≤ call.request.attempt.deadline

/-- The outcome check is what was known before the call and what the adapter
answered, and nothing else. -/
theorem validateOutcome_eq_ok_iff {result : RuntimeEffectDeliveryResult} :
    validateRuntimeOrchestrationDeliveryOutcome (call.outcomeOf controls result) = .ok () ↔
      CheckedBefore call controls ∧ ResultFits call result := by
  simp only [validateRuntimeOrchestrationDeliveryOutcome, validateRuntimeEffectDeliveryResult,
    bind_eq_ok_iff, exists_unit_iff, fromPorts_eq_ok_iff]
  simp only [rejectIf_eq_ok_iff, not_or, not_not, not_lt, not_le, gt_iff_lt, ge_iff_le]
  simp only [outcomeOf]
  constructor
  · rintro ⟨request, clock, deadline, claimLease, afterReading, cancellation, credential, effect,
      attempt, adapter, adapterContract, afterRequest, byDeadline⟩
    exact ⟨⟨request, clock, deadline, claimLease, cancellation, credential⟩,
      ⟨effect, attempt, adapter, adapterContract, afterRequest, afterReading, byDeadline⟩⟩
  · rintro ⟨⟨request, clock, deadline, claimLease, cancellation, credential⟩,
      ⟨effect, attempt, adapter, adapterContract, afterRequest, afterReading, byDeadline⟩⟩
    exact ⟨request, clock, deadline, claimLease, afterReading, cancellation, credential, effect,
      attempt, adapter, adapterContract, afterRequest, byDeadline⟩

/-- A cancellation the gate let pass is clear for the outcome check. -/
theorem Clears.cancellation (clears : Clears call controls) :
    validateOutcomeCancellation call.request controls.cancellation = .ok () := by
  obtain ⟨cancellation, credential⟩ := controls
  cases clears.controlled.cancellation with
  | unused unasked _ => simp only [validateOutcomeCancellation, unasked]
  | @observed _ _ observation asked _ _ _ =>
      have clear : observation.status = .notRequested := by
        by_contra requested
        exact clears.uncancelled ⟨observation, rfl, requested⟩
      simp [validateOutcomeCancellation, asked, clear]

/-- Of a cleared call, the attempt deadline and the credential lease are the only
checks that can still fail on facts known before the call. -/
theorem Clears.checkedBefore_iff (clears : Clears call controls) :
    CheckedBefore call controls ↔
      call.reading.observedAt ≤ call.request.attempt.deadline ∧
        call.request.credentialLeaseRequest = none := by
  constructor
  · intro checked
    exact ⟨checked.deadline, validateOutcomeCredential_eq_ok_iff.mp checked.credential⟩
  · rintro ⟨deadline, unasked⟩
    exact
      { request := clears.controlled.request
        clock := clears.controlled.clock
        deadline
        claimLease := not_le.mp clears.claimHeld
        cancellation := clears.cancellation
        credential := validateOutcomeCredential_eq_ok_iff.mpr unasked }

end DeliveryCall

/-- No effect is performed whose outcome must be rejected: a call that reaches
the adapter has passed every outcome check on facts known before it, and is
accepted with every fitting result. -/
structure NoRejectedEffect (call : DeliveryCall) : Prop where
  checkedBefore : (invokeRuntimeEffectDelivery call).invocations ≠ [] →
    ∀ controls, call.Controlled controls → call.CheckedBefore controls
  accepted : (invokeRuntimeEffectDelivery call).invocations ≠ [] →
    ∀ result, call.delivery.deliver call.invocation = .ok result → call.ResultFits result →
      Accepted (invokeRuntimeEffectDelivery call).answer

/-- No performed effect is rejected exactly when every call the gate clears is
read by its attempt deadline and asks for no credential lease. -/
theorem noRejectedEffect_iff (call : DeliveryCall) :
    NoRejectedEffect call ↔ ∀ controls, call.Clears controls →
      call.reading.observedAt ≤ call.request.attempt.deadline ∧
        call.request.credentialLeaseRequest = none := by
  constructor
  · rintro ⟨checkedBefore, _⟩ controls clears
    have called : (invokeRuntimeEffectDelivery call).invocations ≠ [] := by
      rw [clears.invoke]
      exact List.cons_ne_nil _ _
    exact clears.checkedBefore_iff.mp (checkedBefore called controls clears.controlled)
  · intro known
    have cleared : (invokeRuntimeEffectDelivery call).invocations ≠ [] →
        ∃ controls, call.Clears controls := by
      intro called
      rcases call.invocations_eq with ⟨_, clears⟩ | ⟨uncalled, _⟩
      · exact clears
      · exact absurd uncalled called
    constructor
    · intro called controls controlled
      obtain ⟨other, clears⟩ := cleared called
      obtain rfl := controlled.unique clears.controlled
      exact clears.checkedBefore_iff.mpr (known controls clears)
    · intro called result answered fits
      obtain ⟨controls, clears⟩ := cleared called
      have checked := clears.checkedBefore_iff.mpr (known controls clears)
      have accepted := DeliveryCall.validateOutcome_eq_ok_iff.mpr ⟨checked, fits⟩
      refine ⟨.inl (call.outcomeOf controls result), ?_⟩
      rw [clears.invoke]
      simp [DeliveryCall.deliverOnce, answered, accepted, Bind.bind, Except.bind, Except.map,
        Pure.pure, Except.pure]

/-! ## Two calls whose effect is performed and rejected -/

namespace Sample

theorem permitValid : (0 : DateTime) < 100 := by decide

/-- The permit the delivery rests on. -/
def permit : RuntimePermitReference where
  runtimePermitReferenceId := 22
  runtimeExecutionRequestId := 4
  permitStatus := .active
  tenantId := 1
  organizationId := 2
  actorId := 15
  resourceReference := "desk"
  action := "notify"
  purpose := "notify"
  riskLevel := .low
  classificationCeiling := .internal
  executionEnvironment := .internal
  destinationReference := some "desk"
  validFrom := 0
  expiresAt := 100
  remainingInvocations := .nearest 1
  remainingAttempts := .nearest 1
  validity := permitValid

/-- The authority the delivery is admitted under. -/
def authority : RuntimeAuthorityBundle where
  runtimeAuthorityBundleId := 19
  executionRequest :=
    { runtimeExecutionRequestId := 4
      requesterActorId := 15
      tenantId := 1
      organizationId := 2
      classification := .internal
      policyRevision := one
      registryRevision := some one
      lineageId := 7
      lineageDigestReference := "lineage" }
  permitReferences := [permit]
  admissionDecision :=
    { runtimeAdmissionDecisionId := 20
      decisionStatus := .admitted
      permitReferenceIds := [22] }
  tenantId := 1
  organizationId := 2
  classification := .internal
  policyRevision := one
  registryRevision := some one
  rootLineageId := 7
  rootLineageDigestReference := "lineage"

/-- The delivery of the claimed effect. -/
def deliveryRequest : RuntimeOrchestrationDeliveryRequest where
  runtimeOrchestrationDeliveryId := 91
  contractVersion := ⟨"1", "1", "1"⟩
  authority := authority
  envelope := envelope
  claim := claim
  attempt := attempt
  clockReference := "clock"
  requestedAt := 11

/-- The append that stored its `DELIVERING` revision. -/
def deliveringAppend : RuntimeEffectLifecycleAppendRequest where
  runtimeEffectLifecycleAppendRequestId := 62
  contractVersion := contractVersion
  append :=
    { effectIdentity := identity
      previousLifecycleRecord := claimedRecord
      lifecycleRecord := deliveringRecord
      claim := some claim
      attempt := some attempt
      receiptFact := receiptFact 53 deliveringRecord }
  clockReference := "clock"
  requestedAt := 11

/-- A delivery adapter that takes one instant from the given start. -/
def deliveryPort (startedAt : DateTime) : RuntimeEffectDeliveryPort where
  adapterReference := "desk-adapter"
  adapterContractVersion := "1"
  adapterFamily := .connector
  deliver _ :=
    .ok
      { runtimeEffectDeliveryResultId := 92
        runtimeEffectId := 3
        runtimeEffectDeliveryAttemptId := 81
        certainty := .delivered
        adapterReference := "desk-adapter"
        adapterContractVersion := "1"
        resultReference := some "result"
        resultDigestReference := some "result-digest"
        acknowledgementReference := some "ack"
        acknowledgementDigestReference := some "ack-digest"
        startedAt := startedAt
        completedAt := startedAt + 1
        resultFactDigestReference := "result-fact"
        completionOrder := (Int.lt_succ startedAt).le }

/-- The call whose clock is read at the given instant. -/
def deliveryCall (observedAt : DateTime) : DeliveryCall where
  request := deliveryRequest
  invocation := invocation
  deliveringRequest := deliveringAppend
  deliveringResult := ⟨.appended, ⟨receiptFact 53 deliveringRecord, 11⟩⟩
  delivery := deliveryPort observedAt
  reading := ⟨"clock", observedAt⟩

/-- The lease the broker issues for the attempt, until the given instant. -/
def credentialLease (expiresAt : DateTime) (lifetime : 11 < expiresAt := by decide) :
    RuntimeCredentialLeaseReference where
  runtimeCredentialLeaseReferenceId := 94
  runtimeCredentialLeaseRequestId := 95
  credentialReference := "desk-key"
  tenantId := 1
  organizationId := 2
  actorId := 15
  attemptId := 81
  classification := .internal
  issuedAt := 11
  expiresAt := expiresAt
  lifetime := lifetime

/-- The call at the given instant, delivered under such a credential lease. -/
def leasedCall (observedAt expiresAt : DateTime) (lifetime : 11 < expiresAt := by decide) :
    DeliveryCall :=
  { deliveryCall observedAt with
    request :=
      { deliveryRequest with
        credentialLeaseRequest :=
          some
            { runtimeCredentialLeaseRequestId := 95
              adapterReference := "desk-adapter"
              credentialReference := "desk-key"
              requestedAt := 11
              expiresAt := 30 } }
    credentials :=
      some fun _ =>
        .ok
          { runtimeCredentialLeaseRequestId := 95
            status := .issued
            leaseReference := some (credentialLease expiresAt lifetime)
            decidedAt := 11
            outcome := by simp } }

end Sample

/-- Read at 19, after the deadline 18 and before the lease ends at 20, the call
reaches the adapter and can be accepted with no result. Read at 12 under a
credential lease, it reaches the adapter and raises on a fitting result. -/
theorem effects_rejected :
    ¬ NoRejectedEffect (Sample.deliveryCall 19) ∧ ¬ NoRejectedEffect (Sample.leasedCall 12 30) := by
  constructor
  · intro never
    have read : (Sample.deliveryCall 19).readControls = .ok ⟨none, none⟩ := by decide
    have called : (invokeRuntimeEffectDelivery (Sample.deliveryCall 19)).invocations ≠ [] := by
      decide
    have checked := never.checkedBefore called _ (DeliveryCall.readControls_eq_ok_iff.mp read)
    exact absurd checked.deadline (by decide)
  · intro never
    have called : (invokeRuntimeEffectDelivery (Sample.leasedCall 12 30)).invocations ≠ [] := by
      decide
    have accepted := never.accepted called _ rfl (by constructor <;> decide)
    revert accepted
    decide

end PolicyOS.Runtime
