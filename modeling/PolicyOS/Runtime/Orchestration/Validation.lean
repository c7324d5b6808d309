import PolicyOS.Runtime.Audit.Validation
import PolicyOS.Runtime.Orchestration.DeliveryValidation
import PolicyOS.Runtime.Ports.AtomicWriteSet
import PolicyOS.Runtime.Ports.Invocation
import PolicyOS.Runtime.State.History

/-!
# Governed invocations

The request to invoke one adapter under all of its upstream facts, the outcome of
the call, and the request to commit that outcome as one write set.
-/

namespace PolicyOS.Runtime

/-- One adapter call with every upstream fact it is governed by. -/
structure RuntimeOrchestrationInvocationRequest where
  runtimeOrchestrationInvocationId : UUID
  contractVersion : RuntimeOrchestrationContractVersion
  authority : RuntimeAuthorityBundle
  plan : ExecutionPlan
  state : RuntimeExecutionStateRecord
  registrySnapshot : RuntimeActionRegistrySnapshot
  registryResolutionRequest : RuntimeActionResolutionRequest
  registryResolution : RuntimeActionResolutionDecision
  auditTrail : RuntimeAuditTrail
  envelope : RuntimeAdapterInvocationEnvelope
  cancellationReference : Option RuntimeCancellationReference := none
  credentialLeaseRequest : Option RuntimeCredentialLeaseRequest := none
  deriving DecidableEq

/-- What one adapter call came to. -/
structure RuntimeOrchestrationInvocationOutcome where
  runtimeOrchestrationInvocationId : UUID
  contractVersion : RuntimeOrchestrationContractVersion
  invocationRequest : RuntimeOrchestrationInvocationRequest
  clockReading : RuntimeClockReading
  cancellationObservation : Option RuntimeCancellationObservation := none
  credentialLeaseReference : Option RuntimeCredentialLeaseReference := none
  result : RuntimeAdapterInvocationResult
  completedAt : DateTime
  sameInvocation : runtimeOrchestrationInvocationId =
    invocationRequest.runtimeOrchestrationInvocationId := by decide
  sameContract : contractVersion = invocationRequest.contractVersion := by decide
  adapterCompletion : completedAt = result.completedAt := by decide
  deriving DecidableEq

/-- The request to commit an outcome. -/
structure RuntimeOrchestrationCommitRequest where
  runtimeOrchestrationCommitId : UUID
  contractVersion : RuntimeOrchestrationContractVersion
  invocationOutcome : RuntimeOrchestrationInvocationOutcome
  writeSet : RuntimeAtomicWriteSet
  requestedAt : DateTime
  sameContract : contractVersion = invocationOutcome.contractVersion := by decide
  followsCompletion : invocationOutcome.completedAt ≤ requestedAt := by decide
  sameRequestTime : requestedAt = writeSet.requestedAt := by decide
  deriving DecidableEq

end PolicyOS.Runtime

/-!
# Commit validation

The checks made before an invocation outcome is committed: that the outcome is of
its call, that the write set appends exactly one transition to the state and one
event to the audit trail, and that both report what the adapter answered.
-/

namespace PolicyOS.Runtime

open Foundation

/-- An outcome must be of its call, with the facts its call was made with. -/
def validateRuntimeOrchestrationInvocationOutcome
    (outcome : RuntimeOrchestrationInvocationOutcome) :
    Except RuntimeOrchestrationError Unit := do
  let request := outcome.invocationRequest
  raisingInstead (validateRuntimeAdapterInvocationResult outcome.result request.envelope)
    ⟨.adapter, "adapter result failed closed validation"⟩
  rejectIf (outcome.result.startedAt < outcome.clockReading.observedAt)
    ⟨.timestamp, "adapter invocation predates immediate permit validation"⟩
  rejectIf (request.cancellationReference.isNone ≠ outcome.cancellationObservation.isNone)
    ⟨.cancellation, "orchestration outcome cancellation facts are incomplete"⟩
  rejectIf (request.credentialLeaseRequest.isNone ≠ outcome.credentialLeaseReference.isNone)
    ⟨.credential, "orchestration outcome credential facts are incomplete"⟩

/-- A state record must be another one with one more transition, requested of that one
and built again as it was recorded. -/
def validateStateAppend (previous current : RuntimeExecutionStateRecord)
    (invocation : RuntimeOrchestrationInvocationRequest) :
    Except RuntimeOrchestrationError Unit := do
  rejectIf ((current.runtimeExecutionStateRecordId, current.contractVersion, current.scope,
        current.initialState, current.createdAt, current.transitions.dropLast) ≠
      (previous.runtimeExecutionStateRecordId, previous.contractVersion, previous.scope,
        previous.initialState, previous.createdAt, previous.transitions) ∨
      current.transitions.length ≠ previous.transitions.length + 1)
    ⟨.state, "orchestration state outcome is not an exact append"⟩
  match current.transitions.getLast? with
  -- Never empty here: the history is longer than the previous one.
  | none => .error ⟨.state, "orchestration state outcome is not an exact append"⟩
  | some transition => do
    let rebuilt ← raisingInstead
      (do
        validateRuntimeStateTransitionRequest transition.transitionRequest previous
          invocation.authority (some invocation.plan)
        buildRuntimeStateTransitionRecord transition.runtimeStateTransitionRecordId
          transition.transitionRequest transition.transitionDecision transition.transitionedAt)
      ⟨.state, "orchestration state transition failed closed validation"⟩
    rejectIf (rebuilt ≠ transition)
      ⟨.state, "orchestration state transition record was substituted"⟩

/-- An appended audit event must agree with every upstream fact of the call. -/
def validateAuditEventAgainstUpstream (request : RuntimeOrchestrationInvocationRequest)
    (event : RuntimeAuditEvent) (state : RuntimeExecutionStateRecord) :
    Except RuntimeOrchestrationError Unit :=
  raisingInstead
    (do
      validateRuntimeAuditEventAgainstAuthority event request.authority.executionRequest
        (some request.authority)
      validateRuntimeAuditEventAgainstPlan event request.plan
      validateRuntimeAuditEventAgainstRegistry event request.registrySnapshot
        request.registryResolutionRequest request.registryResolution
      validateRuntimeAuditEventAgainstState event state state.transitions.getLast?)
    ⟨.binding, "orchestration audit fact differs from upstream contracts"⟩

/-- The states an execution may be in after an adapter answered. -/
def RuntimeInvocationStatus.expectedStates : RuntimeInvocationStatus → List RuntimeExecutionState
  | .succeeded => [.succeeded, .partiallyCompleted]
  | .failed => [.failed, .partiallyCompleted]
  | .timedOut => [.timedOut]
  | .cancelled => [.cancelPending]
  | .ambiguous => [.partiallyCompleted]

/-- The state and the audit event must report what the adapter answered. -/
def validateResultOutcomeBinding (result : RuntimeAdapterInvocationResult)
    (category : RuntimeAuditEventCategory) (auditOutcome : RuntimeAuditOutcomeReference)
    (state : RuntimeExecutionStateRecord) : Except RuntimeOrchestrationError Unit := do
  rejectIf (state.currentState ∉ result.status.expectedStates)
    ⟨.outcome, "execution state differs from bounded adapter status"⟩
  rejectIf (result.status = .succeeded ∧ (category ≠ .actionSucceeded ∨
      auditOutcome.resultReference ≠ result.resultReference))
    ⟨.outcome, "successful adapter result lacks exact audit outcome"⟩
  rejectIf (result.status ≠ .succeeded ∧ (result.failure = none ∨ category ≠ .actionFailed ∨
      auditOutcome.errorReference ≠ result.failure.map (·.errorReference)))
    ⟨.outcome, "unsuccessful adapter result lacks exact safe audit failure"⟩

/-- Two scopes are the same but for the state revision. -/
def RuntimePortScope.sameInvocation (scope other : RuntimePortScope) : Prop :=
  { scope with stateRevision := other.stateRevision } = other

instance (scope other : RuntimePortScope) : Decidable (scope.sameInvocation other) :=
  inferInstanceAs (Decidable (_ = _))

/-- The outbox entry carries the facts of the call. -/
def RuntimeOutboxEnqueueRecord.ofEnvelope (outbox : RuntimeOutboxEnqueueRecord)
    (envelope : RuntimeAdapterInvocationEnvelope) : Prop :=
  outbox.actionDefinitionId = envelope.actionDefinitionId ∧
  outbox.action = envelope.action ∧
  outbox.actionVersion = envelope.actionVersion ∧
  outbox.adapterReference = envelope.adapterReference ∧
  some outbox.destinationReference = envelope.destinationReference ∧
  outbox.payloadSchemaReference = envelope.inputSchemaReference ∧
  outbox.payloadReference = envelope.inputReference ∧
  outbox.payloadDigestReference = envelope.inputDigestReference ∧
  outbox.permitReferenceIds = envelope.permitReferenceIds ∧
  outbox.idempotencyKey = envelope.idempotencyKey

instance (outbox : RuntimeOutboxEnqueueRecord) (envelope : RuntimeAdapterInvocationEnvelope) :
    Decidable (outbox.ofEnvelope envelope) :=
  inferInstanceAs (Decidable (_ ∧ _ ∧ _ ∧ _ ∧ _ ∧ _ ∧ _ ∧ _ ∧ _ ∧ _))

/-- The reservation and the outbox entry must be of the call. -/
def validateReservationAndOutbox (envelope : RuntimeAdapterInvocationEnvelope)
    (writeSet : RuntimeAtomicWriteSet) : Except RuntimeOrchestrationError Unit := do
  let reservation := writeSet.idempotencyReservation
  rejectIf ((reservation.idempotencyKey, reservation.actionDefinitionId, reservation.action,
        reservation.actionVersion) ≠
      (envelope.idempotencyKey, envelope.actionDefinitionId, envelope.action,
        envelope.actionVersion))
    ⟨.transaction, "idempotency reservation differs from invocation"⟩
  rejectIf (¬ reservation.scope.sameInvocation envelope.scope)
    ⟨.transaction, "idempotency reservation crosses invocation scope"⟩
  rejectIf (∃ outbox ∈ writeSet.outboxEnqueueRecord, ¬ outbox.ofEnvelope envelope)
    ⟨.transaction, "outbox enqueue substituted invocation facts"⟩

/-- A commit must append exactly what the invocation came to. -/
def validateRuntimeOrchestrationCommitRequest (request : RuntimeOrchestrationCommitRequest) :
    Except RuntimeOrchestrationError Unit := do
  let outcome := request.invocationOutcome
  validateRuntimeOrchestrationInvocationOutcome outcome
  let invocation := outcome.invocationRequest
  let writeSet := request.writeSet
  let transactionError : RuntimeOrchestrationError :=
    ⟨.transaction, "caller-supplied atomic write failed closed validation"⟩
  raisingInstead (validateRuntimeAtomicWriteSet writeSet) transactionError
  raisingInstead (validateRuntimeExecutionStateRecord writeSet.stateRecord) transactionError
  raisingInstead (validateRuntimeAuditAppend invocation.auditTrail writeSet.auditTrail)
    transactionError
  rejectIf (writeSet.expectedStateRevision ≠ invocation.state.currentRevision ∨
      writeSet.expectedAuditRevision ≠ invocation.auditTrail.trailRevision)
    ⟨.transaction, "atomic write expected revisions differ from invocation facts"⟩
  validateStateAppend invocation.state writeSet.stateRecord invocation
  let latest := writeSet.auditTrail.latest
  validateAuditEventAgainstUpstream invocation latest writeSet.stateRecord
  validateResultOutcomeBinding outcome.result latest.category latest.outcome
    writeSet.stateRecord
  validateReservationAndOutbox invocation.envelope writeSet

end PolicyOS.Runtime
