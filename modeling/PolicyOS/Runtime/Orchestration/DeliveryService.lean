import PolicyOS.Runtime.Orchestration.DeliveryValidation

/-!
# Governed effect delivery

One invocation of a delivery: revalidate everything at one clock reading, then
either call the adapter once and record its outcome, or record that it was not
called. The injected ports are arbitrary. A run keeps the calls the adapter
received beside the answer, since an answer that raises does not undo a call.
-/

namespace PolicyOS.Runtime

open Foundation

/-- The adapter that performs the effect. -/
structure RuntimeEffectDeliveryPort where
  adapterReference : BoundedId
  adapterContractVersion : BoundedVersion
  adapterFamily : RuntimeAdapterFamily
  deliver : RuntimeEffectDeliveryInvocation →
    Except RuntimeOrchestrationError RuntimeEffectDeliveryResult

/-- Observes a cooperative cancellation. -/
abbrev RuntimeCancellationPort :=
  RuntimeCancellationReference → Except RuntimeOrchestrationError RuntimeCancellationObservation

/-- Acquires a credential lease. -/
abbrev RuntimeCredentialBrokerPort :=
  RuntimeCredentialLeaseRequest → Except RuntimeOrchestrationError RuntimeCredentialLeaseOutcome

/-- Appends one lifecycle revision. -/
abbrev RuntimeEffectLifecycleTransactionPort :=
  RuntimeEffectLifecycleAppendRequest → Except RuntimePortError RuntimeEffectLifecycleCommitResult

/-- The arguments of one invocation, with the one reading its clock gives. -/
structure DeliveryCall where
  request : RuntimeOrchestrationDeliveryRequest
  invocation : RuntimeEffectDeliveryInvocation
  deliveringRequest : RuntimeEffectLifecycleAppendRequest
  deliveringResult : RuntimeEffectLifecycleCommitResult
  delivery : RuntimeEffectDeliveryPort
  reading : RuntimeClockReading
  cancellation : Option RuntimeCancellationPort := none
  credentials : Option RuntimeCredentialBrokerPort := none
  notInvokedRequest : Option RuntimeEffectLifecycleAppendRequest := none
  transaction : Option RuntimeEffectLifecycleTransactionPort := none

/-- What the control ports answered. -/
structure DeliveryControls where
  cancellation : Option RuntimeCancellationObservation
  credential : Option RuntimeCredentialLeaseReference
  deriving DecidableEq

/-- What one invocation did: the calls the adapter received, and the answer. -/
structure DeliveryRun where
  invocations : List RuntimeEffectDeliveryInvocation
  answer : Except RuntimeOrchestrationError
    (RuntimeOrchestrationDeliveryOutcome ⊕ RuntimeEffectLifecycleCommitResult)

namespace DeliveryCall

/-- The invocation and the adapter must be those of the request. -/
def validateBinding (call : DeliveryCall) : Except RuntimeOrchestrationError Unit := do
  rejectIf (call.invocation.envelope ≠ call.request.envelope)
    ⟨.binding, "delivery invocation envelope differs"⟩
  rejectIf (call.invocation.claim ≠ call.request.claim ∨
      call.invocation.attempt ≠ call.request.attempt)
    ⟨.binding, "delivery invocation claim or attempt differs"⟩
  rejectIf (call.delivery.adapterReference ≠ call.request.envelope.adapterReference ∨
      call.delivery.adapterContractVersion ≠ call.request.envelope.adapterContractVersion ∨
      call.delivery.adapterFamily ≠ call.request.envelope.adapterFamily)
    ⟨.adapter, "delivery adapter binding differs"⟩

/-- A permit must still be valid, and not exhausted, at the clock reading. -/
def validatePermitAtReading (call : DeliveryCall) (permit : RuntimePermitReference) :
    Except RuntimeOrchestrationError Unit := do
  rejectIf (¬ (permit.validFrom ≤ call.reading.observedAt ∧
      call.reading.observedAt < permit.expiresAt))
    ⟨.binding, "delivery permit is expired"⟩
  rejectIf (permit.remainingInvocations.val < 1 ∨ permit.remainingAttempts.val < 1)
    ⟨.binding, "delivery permit bound is exhausted"⟩

/-- Observe the cancellation the request refers to, with exactly the port it
needs. -/
def observeCancellation (call : DeliveryCall) :
    Except RuntimeOrchestrationError (Option RuntimeCancellationObservation) :=
  match call.request.cancellationReference, call.cancellation with
  | none, none => .ok none
  | none, some _ => .error ⟨.cancellation, "unused cancellation port was supplied"⟩
  | some _, none => .error ⟨.cancellation, "cancellation observation port is required"⟩
  | some reference, some observe => do
      let observation ← observe reference
      validateRuntimeOrchestrationCancellationObservation call.request observation
        call.reading.observedAt
      pure (some observation)

/-- The lease an issuing outcome carries, validated for this delivery. -/
def leaseOf (call : DeliveryCall) (outcome : RuntimeCredentialLeaseOutcome) :
    Except RuntimeOrchestrationError (Option RuntimeCredentialLeaseReference) :=
  match outcome.leaseReference with
  | none => .error ⟨.credential, "credential lease is absent"⟩
  | some lease => do
      validateRuntimeOrchestrationDeliveryCredential call.request lease call.reading.observedAt
      pure (some lease)

/-- Acquire the credential lease the request asks for, with exactly the broker it
needs. -/
def acquireCredential (call : DeliveryCall) :
    Except RuntimeOrchestrationError (Option RuntimeCredentialLeaseReference) :=
  match call.request.credentialLeaseRequest, call.credentials with
  | none, none => .ok none
  | none, some _ => .error ⟨.credential, "unused credential broker was supplied"⟩
  | some _, none => .error ⟨.credential, "credential broker is required"⟩
  | some asked, some acquire => do
      let outcome ← acquire asked
      rejectIf (outcome.status ≠ .issued) ⟨.credential, "credential lease is unavailable"⟩
      call.leaseOf outcome

/-- Everything checked before the decision to call the adapter. -/
def readControls (call : DeliveryCall) : Except RuntimeOrchestrationError DeliveryControls := do
  validateRuntimeOrchestrationDeliveryRequest call.request
  validateRuntimeOrchestrationDeliveringAppend call.request call.deliveringResult
    call.deliveringRequest call.deliveringRequest.append.lifecycleRecord
  let _ ← fromPorts (validateRuntimeEffectLifecycleCommitResult (.append call.deliveringRequest)
    call.deliveringResult)
  call.validateBinding
  rejectIf (call.reading.clockReference ≠ call.request.clockReference)
    ⟨.binding, "delivery clock reading differs"⟩
  checkEach call.validatePermitAtReading call.request.authority.permitReferences
  let cancellation ← call.observeCancellation
  let credential ← call.acquireCredential
  pure ⟨cancellation, credential⟩

/-- The cancellation was not observed as clear. -/
def cancellationStops (controls : DeliveryControls) : Prop :=
  ∃ observation ∈ controls.cancellation, observation.status ≠ .notRequested

instance (controls : DeliveryControls) : Decidable (cancellationStops controls) :=
  inferInstanceAs (Decidable (∃ _ ∈ controls.cancellation, _))

/-- The credential lease ran out before the clock reading. -/
def credentialExpired (call : DeliveryCall) (controls : DeliveryControls) : Prop :=
  ∃ lease ∈ controls.credential, lease.expiresAt ≤ call.reading.observedAt

instance (call : DeliveryCall) (controls : DeliveryControls) :
    Decidable (call.credentialExpired controls) :=
  inferInstanceAs (Decidable (∃ _ ∈ controls.credential, _))

/-- The claim lease ran out before the clock reading. -/
def claimExpired (call : DeliveryCall) : Prop :=
  call.reading.observedAt ≥ call.request.claim.expiresAt

instance (call : DeliveryCall) : Decidable call.claimExpired :=
  inferInstanceAs (Decidable (_ ≥ _))

/-- Why the adapter must not be called, if it must not. A later reason replaces
an earlier one. -/
def blockedReason (call : DeliveryCall) (controls : DeliveryControls) :
    Option RuntimeEffectNotInvokedReason :=
  let cancelled := if cancellationStops controls then some .cancelledAfterDelivering else none
  let expired :=
    if call.credentialExpired controls then some .leaseExpiredAfterDelivering else cancelled
  if call.claimExpired then some .leaseExpiredAfterDelivering else expired

/-- Store the caller's evidence that the adapter was not called. -/
def recordNotInvoked (call : DeliveryCall) (controls : DeliveryControls)
    (reason : RuntimeEffectNotInvokedReason) :
    Except RuntimeOrchestrationError RuntimeEffectLifecycleCommitResult :=
  match call.notInvokedRequest, call.transaction with
  | some appendRequest, some append => do
      validateRuntimeOrchestrationNotInvokedAppend call.request call.deliveringRequest
        appendRequest reason controls.cancellation call.reading.observedAt
      let result ← fromPorts (append appendRequest)
      fromPorts (validateRuntimeEffectLifecycleCommitResult (.append appendRequest) result)
  | _, _ => .error ⟨.cancellation, "caller-supplied definitely-not-invoked append is required"⟩

/-- The outcome of an adapter result. -/
def outcomeOf (call : DeliveryCall) (controls : DeliveryControls)
    (result : RuntimeEffectDeliveryResult) : RuntimeOrchestrationDeliveryOutcome where
  runtimeOrchestrationDeliveryId := call.request.runtimeOrchestrationDeliveryId
  contractVersion := call.request.contractVersion
  deliveryRequest := call.request
  clockReading := call.reading
  cancellationObservation := controls.cancellation
  credentialLeaseReference := controls.credential
  result := result
  completedAt := result.completedAt
  identityAndTime := ⟨rfl, rfl, rfl⟩

/-- Call the adapter and validate the outcome of what it answers. -/
def deliverOnce (call : DeliveryCall) (controls : DeliveryControls) :
    Except RuntimeOrchestrationError RuntimeOrchestrationDeliveryOutcome := do
  let result ← call.delivery.deliver call.invocation
  let outcome := call.outcomeOf controls result
  validateRuntimeOrchestrationDeliveryOutcome outcome
  pure outcome

end DeliveryCall

/-- Revalidate, then call the adapter once or store that it was not called. -/
def invokeRuntimeEffectDelivery (call : DeliveryCall) : DeliveryRun :=
  match call.readControls with
  | .error raised => ⟨[], .error raised⟩
  | .ok controls =>
      match call.blockedReason controls with
      | some reason => ⟨[], (call.recordNotInvoked controls reason).map .inr⟩
      | none => ⟨[call.invocation], (call.deliverOnce controls).map .inl⟩

end PolicyOS.Runtime
