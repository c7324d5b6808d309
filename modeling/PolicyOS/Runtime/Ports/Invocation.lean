import PolicyOS.Foundation.Checked
import PolicyOS.Runtime.Ports.Domain
import PolicyOS.Runtime.State.Domain

/-!
# Adapter invocations

The envelope one adapter call is made with and the result it answers, and the
check that the result is of that call.
-/

namespace PolicyOS.Runtime

open Foundation

/-- How an adapter call ended. -/
inductive RuntimeInvocationStatus
  | succeeded | failed | timedOut | cancelled | ambiguous
  deriving DecidableEq, Repr

/-- A safe failure of a port. -/
structure RuntimePortFailure where
  runtimePortFailureId : UUID
  errorCode : RuntimePortErrorCode
  errorReference : BoundedId
  classification : DataClassification
  occurredAt : DateTime
  deriving DecidableEq

/-- A reference to an artifact of a result. -/
structure RuntimeResultArtifactReference where
  runtimeResultArtifactReferenceId : UUID
  artifactReference : BoundedId
  artifactDigestReference : BoundedId
  schemaReference : BoundedId
  schemaVersion : BoundedVersion
  classification : DataClassification
  deriving DecidableEq

/-- Everything one adapter call is made with. -/
@[ext] structure RuntimeAdapterInvocationEnvelope where
  runtimeAdapterInvocationId : UUID
  contractVersion : RuntimePortContractVersion
  adapterReference : BoundedId
  adapterContractVersion : BoundedVersion
  actionDefinitionId : BoundedId
  action : BoundedId
  actionVersion : BoundedVersion
  permitReferenceIds : List UUID
  inputSchemaReference : BoundedId
  inputReference : BoundedId
  inputDigestReference : BoundedId
  destinationReference : Option BoundedId := none
  idempotencyKey : BoundedId
  requiredState : RuntimeExecutionState
  scope : RuntimePortScope
  requestedAt : DateTime
  deadline : DateTime
  orderedPermits : permitReferenceIds ≠ [] ∧ canonical permitReferenceIds := by decide
  runnableState : requiredState = .ready ∨ requiredState = .running := by decide
  deadlineFollows : requestedAt < deadline := by decide

instance : DecidableEq RuntimeAdapterInvocationEnvelope := fun _ _ =>
  decidable_of_iff' _ RuntimeAdapterInvocationEnvelope.ext_iff

/-- What an adapter answered: a result exactly when it succeeded, a failure
otherwise. -/
@[ext] structure RuntimeAdapterInvocationResult where
  runtimeAdapterInvocationResultId : UUID
  runtimeAdapterInvocationId : UUID
  contractVersion : RuntimePortContractVersion
  status : RuntimeInvocationStatus
  adapterReference : BoundedId
  adapterContractVersion : BoundedVersion
  actionDefinitionId : BoundedId
  action : BoundedId
  actionVersion : BoundedVersion
  attemptId : UUID
  tenantId : UUID
  organizationId : UUID
  classification : DataClassification
  resultReference : Option BoundedId := none
  resultDigestReference : Option BoundedId := none
  artifactReferences : List RuntimeResultArtifactReference := []
  failure : Option RuntimePortFailure := none
  startedAt : DateTime
  completedAt : DateTime
  orderedArtifacts : canonical (artifactReferences.map (·.runtimeResultArtifactReferenceId)) := by
    decide
  completionFollows : startedAt ≤ completedAt := by decide
  outcome : (status = .succeeded ↔ resultReference ≠ none ∧ resultDigestReference ≠ none) ∧
    (status = .succeeded ↔ failure = none) := by decide

instance : DecidableEq RuntimeAdapterInvocationResult := fun _ _ =>
  decidable_of_iff' _ RuntimeAdapterInvocationResult.ext_iff

/-- The result is of the call the envelope was made for. -/
def RuntimeAdapterInvocationResult.ofEnvelope (result : RuntimeAdapterInvocationResult)
    (envelope : RuntimeAdapterInvocationEnvelope) : Prop :=
  result.runtimeAdapterInvocationId = envelope.runtimeAdapterInvocationId ∧
  result.contractVersion = envelope.contractVersion ∧
  result.adapterReference = envelope.adapterReference ∧
  result.adapterContractVersion = envelope.adapterContractVersion ∧
  result.actionDefinitionId = envelope.actionDefinitionId ∧
  result.action = envelope.action ∧
  result.actionVersion = envelope.actionVersion ∧
  result.attemptId = envelope.scope.attemptId ∧
  result.tenantId = envelope.scope.tenantId ∧
  result.organizationId = envelope.scope.organizationId

instance (result : RuntimeAdapterInvocationResult) (envelope : RuntimeAdapterInvocationEnvelope) :
    Decidable (result.ofEnvelope envelope) :=
  inferInstanceAs (Decidable (_ ∧ _ ∧ _ ∧ _ ∧ _ ∧ _ ∧ _ ∧ _ ∧ _ ∧ _))

/-- A result must be of its call, inside the time the call was given. -/
def validateRuntimeAdapterInvocationResult (result : RuntimeAdapterInvocationResult)
    (envelope : RuntimeAdapterInvocationEnvelope) : Except RuntimePortError Unit := do
  rejectIf (¬ result.ofEnvelope envelope)
    ⟨.adapter, "adapter result differs from invocation envelope"⟩
  rejectIf (¬ notLower result.classification envelope.scope.classification)
    ⟨.classification, "adapter result classification is too low"⟩
  rejectIf (∃ item ∈ result.artifactReferences,
      ¬ notLower result.classification item.classification)
    ⟨.classification, "result classification is below artifact"⟩
  rejectIf (result.startedAt < envelope.requestedAt)
    ⟨.timestamp, "adapter result predates invocation"⟩
  rejectIf (result.status = .succeeded ∧ envelope.deadline < result.completedAt)
    ⟨.timestamp, "successful adapter result exceeded deadline"⟩

end PolicyOS.Runtime
