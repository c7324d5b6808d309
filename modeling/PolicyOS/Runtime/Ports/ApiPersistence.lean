import PolicyOS.Runtime.Authority.Domain
import PolicyOS.Runtime.Ports.AtomicWriteSet
import PolicyOS.Runtime.Ports.DeliveryPersistenceValidation
import PolicyOS.Runtime.Registry.Snapshots

/-!
# Persistence inside a caller-owned transaction

The facts one API operation is bound to, with the snapshot, the resolution and the admission
behind them; the locator a query reads by; and the local write set a mutation stages. A stage
can only be built of facts that agree with each other.
-/

namespace PolicyOS.Runtime

open Foundation

/-! ## Facts -/

/-- A stored record at the revision it is expected at. -/
@[ext] structure RuntimeApiPersistedRecordFact where
  recordId : UUID
  expectedRevision : PositiveInt
  deriving DecidableEq

/-- A stored permit at the revision it is expected at. -/
@[ext] structure RuntimeApiPersistedPermitFact where
  permitId : UUID
  expectedRevision : PositiveInt
  deriving DecidableEq

/-- The snapshot and the resolution an operation is bound to. -/
@[ext] structure RuntimeApiRegistryPersistenceFact where
  runtimeRegistrySnapshotId : UUID
  registryRevision : PositiveInt
  snapshotDigestReference : BoundedId
  runtimeActionResolutionRequestId : UUID
  runtimeActionResolutionDecisionId : UUID
  deriving DecidableEq

/-- The snapshot, the resolution and the admission themselves. -/
structure RuntimeApiRegistryResolutionAdmissionFact where
  snapshot : Registry.RuntimeActionRegistrySnapshot
  resolutionRequest : Registry.RuntimeActionResolutionRequest
  resolutionDecision : Registry.RuntimeActionResolutionDecision
  admissionDecision : Authority.RuntimeAdmissionDecision
  deriving DecidableEq

/-- The scope of an operation. -/
@[ext] structure RuntimeApiPersistenceScope where
  tenantId : UUID
  organizationId : UUID
  classification : DataClassification
  rootLineageId : UUID
  rootLineageDigestReference : BoundedId
  distinctScope : tenantId ≠ organizationId := by decide
  deriving DecidableEq

/-- The scope is of the given tenant, organization, classification and lineage. -/
def RuntimeApiPersistenceScope.isOf (scope : RuntimeApiPersistenceScope)
    (tenantId organizationId : UUID) (classification : DataClassification) (rootLineageId : UUID)
    (rootLineageDigestReference : BoundedId) : Prop :=
  tenantId = scope.tenantId ∧ organizationId = scope.organizationId ∧
    classification = scope.classification ∧ rootLineageId = scope.rootLineageId ∧
    rootLineageDigestReference = scope.rootLineageDigestReference

instance {scope : RuntimeApiPersistenceScope} {tenantId organizationId classification
    rootLineageId rootLineageDigestReference} :
    Decidable (scope.isOf tenantId organizationId classification rootLineageId
      rootLineageDigestReference) :=
  inferInstanceAs (Decidable (_ ∧ _ ∧ _ ∧ _ ∧ _))

/-- The facts one operation is bound to. -/
structure RuntimeApiPersistenceBindingRead where
  executionRequest : RuntimeApiPersistedRecordFact
  authorityBundle : RuntimeApiPersistedRecordFact
  admission : RuntimeApiPersistedRecordFact
  executionPlan : RuntimeApiPersistedRecordFact
  executionState : RuntimeApiPersistedRecordFact
  auditTrail : RuntimeApiPersistedRecordFact
  permits : List RuntimeApiPersistedPermitFact
  registry : RuntimeApiRegistryPersistenceFact
  registryResolutionAdmission : RuntimeApiRegistryResolutionAdmissionFact
  scope : RuntimeApiPersistenceScope
  requestedAt : DateTime
  canonicalPermits : permits ≠ [] ∧ canonical (permits.map (·.permitId)) := by decide
  deriving DecidableEq

/-! ## Logical results -/

/-- The result of one execution attempt, of the exact state and audit trail it was produced
with. -/
structure RuntimeApiLogicalExecutionResult where
  runtimeLogicalExecutionResultId : UUID
  resultRevision : PositiveInt
  executionRequest : RuntimeApiPersistedRecordFact
  executionRequestClassification : DataClassification
  executionState : RuntimeApiPersistedRecordFact
  auditTrail : RuntimeApiPersistedRecordFact
  attemptId : UUID
  scope : RuntimeApiPersistenceScope
  resultReference : BoundedId
  resultDigestReference : BoundedId
  resultPayloadProvenanceReference : BoundedId
  producedAt : DateTime
  distinctRecords : [executionRequest.recordId, executionState.recordId, auditTrail.recordId,
    runtimeLogicalExecutionResultId].Nodup := by decide
  notLowered : notLower scope.classification executionRequestClassification := by decide
  deriving DecidableEq

/-! ## Effects and reconciliation -/

/-- The request to observe what became of an ambiguous delivery. -/
@[ext] structure RuntimeEffectReconciliationRequest where
  runtimeEffectReconciliationRequestId : UUID
  runtimeEffectId : UUID
  ambiguousAttemptId : UUID
  ambiguousResultId : UUID
  tenantId : UUID
  organizationId : UUID
  destinationReference : BoundedId
  connectorProvisioningReference : BoundedId
  effectIdempotencyKey : BoundedId
  rootLineageId : UUID
  rootLineageDigestReference : BoundedId
  acknowledgementReference : Option BoundedId := none
  acknowledgementDigestReference : Option BoundedId := none
  observationCapabilityReference : BoundedId
  runtimeAuthorityBundleId : UUID
  runtimeAdmissionDecisionId : UUID
  permitReferenceIds : List UUID
  classification : DataClassification
  clockReference : BoundedId
  requestedAt : DateTime
  requestDigestReference : BoundedId
  orderedPermits : permitReferenceIds ≠ [] ∧ canonical permitReferenceIds := by decide
  acknowledgementPair : acknowledgementReference.isNone = acknowledgementDigestReference.isNone :=
    by decide

instance : DecidableEq RuntimeEffectReconciliationRequest := fun _ _ =>
  decidable_of_iff' _ RuntimeEffectReconciliationRequest.ext_iff

/-! ## Local write sets -/

/-- A value that a model refuses to be built of. -/
def refused (message : String) : RuntimePortError := ⟨.validation, message⟩

/-- The snapshot, resolution and admission of a binding must be those it names, in its scope. -/
def validateExactBinding (binding : RuntimeApiPersistenceBindingRead) :
    Except RuntimePortError Unit := do
  let scope := binding.scope
  let registry := binding.registry
  let snapshot := binding.registryResolutionAdmission.snapshot
  let request := binding.registryResolutionAdmission.resolutionRequest
  let decision := binding.registryResolutionAdmission.resolutionDecision
  let admission := binding.registryResolutionAdmission.admissionDecision
  rejectIf (¬ scope.isOf snapshot.tenantId snapshot.organizationId snapshot.classification
      snapshot.rootLineageId snapshot.rootLineageDigestReference)
    (refused "Registry snapshot differs from persistence scope")
  rejectIf (snapshot.runtimeRegistrySnapshotId ≠ registry.runtimeRegistrySnapshotId ∨
      snapshot.registryRevision ≠ registry.registryRevision ∨
      snapshot.snapshotDigestReference ≠ registry.snapshotDigestReference)
    (refused "Registry snapshot identity differs from persistence binding")
  rejectIf (request.runtimeActionResolutionRequestId ≠ registry.runtimeActionResolutionRequestId ∨
      decision.runtimeActionResolutionDecisionId ≠ registry.runtimeActionResolutionDecisionId ∨
      decision.runtimeActionResolutionRequestId ≠ request.runtimeActionResolutionRequestId)
    (refused "Registry resolution identity differs from persistence binding")
  rejectIf (¬ scope.isOf request.tenantId request.organizationId request.classification
        request.rootLineageId request.rootLineageDigestReference ∨
      ¬ scope.isOf decision.tenantId decision.organizationId decision.classification
        decision.rootLineageId decision.rootLineageDigestReference ∨
      ¬ scope.isOf admission.tenantId admission.organizationId admission.classification
        admission.rootLineageId admission.rootLineageDigestReference)
    (refused "resolution or admission differs from persistence scope")
  rejectIf (admission.runtimeAdmissionDecisionId ≠ binding.admission.recordId ∨
      admission.runtimeExecutionRequestId ≠ binding.executionRequest.recordId ∨
      admission.registryRevision ≠ some registry.registryRevision ∨
      admission.decisionStatus ≠ .admitted ∨
      admission.permitReferenceIds ≠ binding.permits.map (·.permitId))
    (refused "admission or permit facts differ from persistence binding")

end PolicyOS.Runtime
